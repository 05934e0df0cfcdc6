import SyscallMeter.Proofs.Web.Encoding
import SyscallMeter.Web.Address

/-! What adding a segment does to the path of an address. Dots are left out, tabs and line ends do
not count, and all else is shown: a written path tells its segments. -/
namespace SyscallMeter.Web

namespace Address

/-! ### Dots -/

/-- What becomes a sign below the small letters was that sign. -/
theorem eq_of_toLower {c d : Char} (lowered : c.toLower = d) (low : d.val < 97) : c = d := by
  unfold Char.toLower at lowered
  split at lowered
  · rename_i capital
    obtain rfl := lowered
    have from_A := UInt32.le_iff_toNat_le.mp capital.1
    have to_Z := UInt32.le_iff_toNat_le.mp capital.2
    have small := UInt32.lt_iff_toNat_lt.mp low
    simp only [UInt32.toNat_add] at small
    have distance : ('a'.val - 'A'.val).toNat = 32 := rfl
    have A : 'A'.val.toNat = 65 := rfl
    have Z : 'Z'.val.toNat = 90 := rfl
    have a : (97 : UInt32).toNat = 97 := rfl
    omega
  · exact lowered

/-- A dot, or its escape with a digit in either case. -/
theorem percentDecode_dot {c : Char} (dot : c.toLower = '.') (rest : List Char) :
    percentDecode (c :: rest) = 0x2E :: percentDecode rest := by
  obtain rfl := eq_of_toLower dot (by decide)
  exact percentDecode_cons (by decide) rest

theorem percentDecode_escapedDot {a b c : Char} (percent : a.toLower = '%') (two : b.toLower = '2')
    (letter : c.toLower = 'e') (rest : List Char) :
    percentDecode (a :: b :: c :: rest) = 0x2E :: percentDecode rest := by
  obtain rfl := eq_of_toLower percent (by decide)
  obtain rfl := eq_of_toLower two (by decide)
  have value : Text.hexValue? c = some 14 := by
    unfold Char.toLower at letter
    split at letter
    · have capital : c.val = 'E'.val := by
        have sum : c.val + ('a'.val - 'A'.val) = 'e'.val := congrArg Char.val letter
        have sum := congrArg (· - ('a'.val - 'A'.val)) sum
        simpa using sum
      obtain rfl := Char.ext capital
      decide
    · obtain rfl := letter
      decide
  simp only [percentDecode, value]
  rfl

/-- All spellings of a dot stand for a dot. -/
theorem percentDecode_of_isDot {segment : List Char} (h : isDot segment = true) :
    percentDecode segment = [0x2E] := by
  have spelled : segment.map Char.toLower = ['.'] ∨ segment.map Char.toLower = ['%', '2', 'e'] := by
    simpa [isDot] using h
  simp only [List.map_eq_cons_iff, List.map_eq_nil_iff] at spelled
  obtain ⟨c, _, rfl, dot, rfl⟩ | ⟨a, _, rfl, percent, b, _, rfl, two, c, _, rfl, letter, rfl⟩ :=
    spelled
  · exact percentDecode_dot dot []
  · exact percentDecode_escapedDot percent two letter []

theorem percentDecode_of_isDoubleDot {segment : List Char} (h : isDoubleDot segment = true) :
    percentDecode segment = [0x2E, 0x2E] := by
  have spelled : segment.map Char.toLower = ['.', '.'] ∨
      segment.map Char.toLower = ['.', '%', '2', 'e'] ∨
      segment.map Char.toLower = ['%', '2', 'e', '.'] ∨
      segment.map Char.toLower = ['%', '2', 'e', '%', '2', 'e'] := by
    simpa [isDoubleDot] using h
  simp only [List.map_eq_cons_iff, List.map_eq_nil_iff] at spelled
  obtain ⟨c, _, rfl, first, d, _, rfl, second, rfl⟩ |
    ⟨c, _, rfl, dot, x, _, rfl, percent, y, _, rfl, two, z, _, rfl, letter, rfl⟩ |
    ⟨x, _, rfl, percent, y, _, rfl, two, z, _, rfl, letter, c, _, rfl, dot, rfl⟩ |
    ⟨x, _, rfl, percent, y, _, rfl, two, z, _, rfl, letter,
      x', _, rfl, percent', y', _, rfl, two', z', _, rfl, letter', rfl⟩ := spelled
  · rw [percentDecode_dot first, percentDecode_dot second, percentDecode]
  · rw [percentDecode_dot dot, percentDecode_escapedDot percent two letter, percentDecode]
  · rw [percentDecode_escapedDot percent two letter, percentDecode_dot dot, percentDecode]
  · rw [percentDecode_escapedDot percent two letter, percentDecode_escapedDot percent' two' letter',
      percentDecode]

/-- A segment that is added is dots only as it stands: an escape is escaped again. -/
theorem isDot_percentEncode (s : List Char) :
    isDot (percentEncode escapedInSegment s) = true ↔ s = ['.'] := by
  constructor
  · intro h
    -- In whatever spelling, the written text decodes to a dot, and so to the text itself.
    apply utf8_injective
    rw [← percentDecode_segment, percentDecode_of_isDot h]
    decide
  · rintro rfl
    decide

theorem isDoubleDot_percentEncode (s : List Char) :
    isDoubleDot (percentEncode escapedInSegment s) = true ↔ s = ['.', '.'] := by
  constructor
  · intro h
    apply utf8_injective
    rw [← percentDecode_segment, percentDecode_of_isDoubleDot h]
    decide
  · rintro rfl
    decide

/-! ### Adding a segment -/

/-- What a segment keeps when it is added. -/
def kept (s : List Char) : List Char := s.filter fun c => c != '\t' && c != '\n' && c != '\r'

/-- The segments that others are added to. -/
def trunk (a : Address) : List (List Char) := if a.segments = [[]] then [] else a.segments

theorem trunk_of_ne {a : Address} (more : a.segments ≠ [[]]) : a.trunk = a.segments :=
  if_neg more

theorem trunk_of_long {a : Address} (long : 2 ≤ a.segments.length) : a.trunk = a.segments :=
  trunk_of_ne fun single => absurd (single ▸ long) (by decide)

theorem push_of_dots (a : Address) {segment : String} (dots : segment = "." ∨ segment = "..") :
    a.push segment = a := by
  rw [push, if_pos dots]

theorem segments_push (a : Address) {segment : String} (no_dots : ¬ (segment = "." ∨ segment = "..")) :
    (a.push segment).segments =
      if kept segment.toList = ['.', '.'] then (stepUp a.trunk.reverse).reverse ++ [[]]
      else if kept segment.toList = ['.'] then a.trunk ++ [[]]
      else a.trunk ++ [percentEncode escapedInSegment (kept segment.toList)] := by
  let shown := percentEncode escapedInSegment (kept segment.toList)
  have added : (a.push segment).segments =
      if isDoubleDot shown then ([] :: stepUp a.trunk.reverse).reverse
      else if isDot shown then ([] :: a.trunk.reverse).reverse
      else (shown :: a.trunk.reverse).reverse := by
    rw [push, if_neg no_dots]
    rfl
  simp only [List.reverse_cons, List.reverse_reverse] at added
  rw [added]
  by_cases dots : kept segment.toList = ['.', '.']
  · rw [if_pos dots, if_pos ((isDoubleDot_percentEncode _).mpr dots)]
  · rw [if_neg dots, if_neg (mt (isDoubleDot_percentEncode _).mp dots)]
    by_cases dot : kept segment.toList = ['.']
    · rw [if_pos dot, if_pos ((isDot_percentEncode _).mpr dot)]
    · rw [if_neg dot, if_neg (mt (isDot_percentEncode _).mp dot)]

/-- A segment that loses nothing and is not dots is shown as it is. -/
theorem segments_push_whole (a : Address) {segment : String}
    (whole : kept segment.toList = segment.toList) (no_dots : ¬ (segment = "." ∨ segment = "..")) :
    (a.push segment).segments = a.trunk ++ [percentEncode escapedInSegment segment.toList] := by
  have dot : segment.toList ≠ ['.'] := fun same => no_dots (.inl (String.toList_inj.mp same))
  have dots : segment.toList ≠ ['.', '.'] := fun same => no_dots (.inr (String.toList_inj.mp same))
  rw [segments_push a no_dots, whole, if_neg dots, if_neg dot]

/-- Signs that a segment may lose when it is added. -/
def isLosable (c : Char) : Bool := c == '.' || c == '\t' || c == '\n' || c == '\r'

theorem segments_push_clear (a : Address) (segment : String)
    (clear : segment.toList.any isLosable = false) :
    (a.push segment).segments = a.trunk ++ [percentEncode escapedInSegment segment.toList] := by
  apply segments_push_whole
  · refine List.filter_eq_self.mpr fun c inside => ?_
    have stays := List.any_eq_false.mp clear c inside
    simp only [isLosable, Bool.or_eq_true, beq_iff_eq, not_or] at stays
    simp [stays]
  · rintro (rfl | rfl)
    · exact absurd clear (by decide)
    · exact absurd clear (by decide)

/-! ### Writing a path -/

theorem takeWhile_segment {segment : List Char} (clear : '/' ∉ segment)
    (rest : List (List Char)) :
    (segment ++ joinSegments rest).takeWhile (· ≠ '/') = segment := by
  have front : (joinSegments rest).takeWhile (· ≠ '/') = [] := by
    cases rest with
    | nil => rfl
    | cons => simp [joinSegments]
  rw [List.takeWhile_append_of_pos, front, List.append_nil]
  intro c inside
  simpa using ne_of_mem_of_not_mem inside clear

/-- A path tells its segments, as long as none of them holds a slash. -/
theorem joinSegments_injective {first second : List (List Char)}
    (clear : ∀ segment ∈ first, '/' ∉ segment) (clear' : ∀ segment ∈ second, '/' ∉ segment)
    (same : joinSegments first = joinSegments second) : first = second := by
  induction first generalizing second with
  | nil =>
    cases second with
    | nil => rfl
    | cons segment rest => cases same
  | cons segment rest ih =>
    cases second with
    | nil => cases same
    | cons segment' rest' =>
      obtain ⟨own, others⟩ := List.forall_mem_cons.mp clear
      obtain ⟨own', others'⟩ := List.forall_mem_cons.mp clear'
      have tails : segment ++ joinSegments rest = segment' ++ joinSegments rest' :=
        (List.cons.inj same).2
      have heads := congrArg (List.takeWhile (· ≠ '/')) tails
      rw [takeWhile_segment own, takeWhile_segment own'] at heads
      obtain rfl := heads
      rw [ih others others' (List.append_cancel_left tails)]

end Address

end SyscallMeter.Web
