import SyscallMeter.Proofs.Blank
import SyscallMeter.Proofs.Number.Numeral
import SyscallMeter.Proofs.Run.Refusal
import SyscallMeter.Proofs.Splitting

/-! The gate for old kernels. The third word of what a kernel tells of its version is its release.
The numbers before and behind the first dot of it are compared as a pair, and not as a decimal
fraction. A release in which there are no two such numbers passes. -/
namespace SyscallMeter.Preflight
open Json Numeral Text

variable {release : List Char} {major minor : Nat}

/-! ### Releases -/

/-- A release tells its numbers: the one is all that stands before the first dot, and the other one
follows the dot. -/
def Tells (release : List Char) (major minor : Nat) : Prop :=
  ∃ first second, release = first ++ '.' :: second ∧ '.' ∉ first ∧
    Spells UInt32.size first major ∧ Leads UInt32.size second minor

/-- A dot is no digit, so the digits in front of a text are those of its part before a dot. -/
theorem takeWhile_of_splitOn {s part : List Char} {others : List (List Char)}
    (split : splitOn '.' s = part :: others) :
    part.takeWhile Char.isDigit = s.takeWhile Char.isDigit := by
  cases first : splitFirst? '.' s with
  | none =>
    rw [splitOn_of_not_mem (splitFirst?_eq_none.mp first)] at split
    obtain ⟨rfl, -⟩ := List.cons.inj split
    rfl
  | some parts =>
    obtain ⟨before, behind⟩ := parts
    obtain ⟨rfl, clear⟩ := splitFirst?_eq_some.mp first
    rw [splitOn_append, splitOn_of_not_mem clear, List.singleton_append] at split
    obtain ⟨rfl, -⟩ := List.cons.inj split
    have dot : ('.' :: behind).takeWhile Char.isDigit = [] := rfl
    rw [List.takeWhile_append, dot]
    split
    · rename_i whole
      rw [List.append_nil]
      exact (List.takeWhile_prefix _).eq_of_length whole
    · rfl

theorem parseRelease?_of_split {first second : List Char} (clear : '.' ∉ first) :
    parseRelease? (first ++ '.' :: second) =
      (natural? UInt32.size first).bind fun major =>
        (natural? UInt32.size (second.takeWhile Char.isDigit)).map fun minor => (major, minor) := by
  cases parts : splitOn '.' second with
  | nil => exact absurd parts (splitOn_ne_nil '.' second)
  | cons part others =>
    rw [parseRelease?, splitOn_append, splitOn_of_not_mem clear, parts]
    simp only [List.singleton_append, takeWhile_of_splitOn parts, Option.bind_eq_bind,
      Option.map_eq_bind]
    rfl

theorem parseRelease?_eq_some :
    parseRelease? release = some (major, minor) ↔ Tells release major minor := by
  constructor
  · intro read
    cases split : splitFirst? '.' release with
    | none =>
      rw [parseRelease?, splitOn_of_not_mem (splitFirst?_eq_none.mp split)] at read
      cases read
    | some parts =>
      obtain ⟨first, second⟩ := parts
      obtain ⟨rfl, clear⟩ := splitFirst?_eq_some.mp split
      rw [parseRelease?_of_split clear, Option.bind_eq_some_iff] at read
      obtain ⟨number, spelled, read⟩ := read
      obtain ⟨number', leads, both⟩ := Option.map_eq_some_iff.mp read
      obtain ⟨rfl, rfl⟩ := Prod.mk.inj both
      exact ⟨first, second, rfl, clear, natural?_eq_some.mp spelled,
        natural?_takeWhile_eq_some.mp leads⟩
  · rintro ⟨first, second, rfl, clear, spelled, leads⟩
    rw [parseRelease?_of_split clear, natural?_eq_some.mpr spelled,
      natural?_takeWhile_eq_some.mpr leads]
    rfl

/-- Whatever follows the minor number without going on with it. -/
theorem tells_toString (major minor : UInt32) {rest : List Char} (ended : NoDigit rest) :
    Tells ((toString major.toNat).toList ++ '.' :: ((toString minor.toNat).toList ++ rest))
      major.toNat minor.toNat := by
  have spelled := spells_toString major.toNat_lt
  have clear : '.' ∉ (toString major.toNat).toList := by
    rw [toList_toString]
    exact fun inside => absurd ((Digits.ofNat major.toNat).decimal '.' inside) (by decide)
  exact ⟨_, _, rfl, clear, spelled, leads_toString_append minor.toNat_lt ended⟩

/-! ### The gate -/

/-- The third word of a text. -/
def ThirdWord (text word : List Char) : Prop :=
  ∃ first rest second rest' rest'', FirstWord text first rest ∧ FirstWord rest second rest' ∧
    FirstWord rest' word rest''

theorem thirdWord_iff {text word : List Char} :
    (words text)[2]? = some word ↔ ThirdWord text word := by
  simp only [words_getElem?_succ, words_getElem?_zero, ThirdWord]
  constructor
  · rintro ⟨first, rest, h₁, second, rest', h₂, rest'', h₃⟩
    exact ⟨first, rest, second, rest', rest'', h₁, h₂, h₃⟩
  · rintro ⟨first, rest, second, rest', rest'', h₁, h₂, h₃⟩
    exact ⟨first, rest, h₁, second, rest', h₂, rest'', h₃⟩

/-- The major number decides, and the minor one if it is the same. -/
theorem isOlder_oldestKernel :
    isOlder (major, minor) oldestKernel ↔ major < 5 ∨ major = 5 ∧ minor < 8 := by
  simp only [isOlder, Bool.or_eq_true, Bool.and_eq_true, decide_eq_true_eq, beq_iff_eq]
  rfl

theorem not_older_iff (major minor : UInt32) :
    ¬ (major.toNat < 5 ∨ major.toNat = 5 ∧ minor.toNat < 8) ↔
      5 < major ∨ major = 5 ∧ 8 ≤ minor := by
  have five : (5 : UInt32).toNat = 5 := rfl
  have eight : (8 : UInt32).toNat = 8 := rfl
  rw [UInt32.lt_iff_toNat_lt, UInt32.le_iff_toNat_le, ← UInt32.toNat_inj, five, eight]
  omega

variable {m : Machine} {version : String} {e : PreflightError}

theorem checkKernel_eq_error_of_told (told : m.kernelVersion = some version) :
    checkKernel m = .error e ↔ ∃ word major minor, ThirdWord version.toList word ∧
      parseRelease? word = some (major, minor) ∧ (major < 5 ∨ major = 5 ∧ minor < 8) ∧
      e = .kernelTooOld major minor (String.ofList word) := by
  constructor
  · intro failed
    have other : e ≠ .noKernelVersion := by
      rintro rfl
      rw [checkKernel_of_told told] at failed
      split at failed
      · cases failed
      · split at failed
        · cases failed
        · split at failed <;> cases failed
    obtain ⟨version', word, ⟨major, minor⟩, told', third, read, old, rfl⟩ :=
      (checkKernel_eq_error other).mp failed
    obtain rfl := Option.some.inj (told.symm.trans told')
    exact ⟨word, major, minor, thirdWord_iff.mp third, read, isOlder_oldestKernel.mp old, rfl⟩
  · rintro ⟨word, major, minor, third, read, old, rfl⟩
    exact (checkKernel_eq_error (by simp)).mpr ⟨version, word, (major, minor), told,
      thirdWord_iff.mpr third, read, isOlder_oldestKernel.mpr old, rfl⟩

/-- What the third word tells decides, if it tells anything. -/
theorem checkKernel_eq_ok_of_told (told : m.kernelVersion = some version) {word : List Char}
    (third : ThirdWord version.toList word) : checkKernel m = .ok () ↔
      ∀ major minor, Tells word major minor → ¬ (major < 5 ∨ major = 5 ∧ minor < 8) := by
  constructor
  · intro passes major minor tells old
    have failed := (checkKernel_eq_error_of_told told).mpr
      ⟨word, major, minor, third, parseRelease?_eq_some.mpr tells, old, rfl⟩
    rw [passes] at failed
    cases failed
  · intro new
    cases checked : checkKernel m with
    | ok _ => rfl
    | error e =>
      obtain ⟨word', major, minor, third', read, old, -⟩ :=
        (checkKernel_eq_error_of_told told).mp checked
      have same := (thirdWord_iff.mpr third).symm.trans (thirdWord_iff.mpr third')
      obtain rfl := Option.some.inj same
      exact absurd old (new major minor (parseRelease?_eq_some.mp read))

theorem Tells.unique {major' minor' : Nat} (h : Tells release major minor)
    (h' : Tells release major' minor') : major = major' ∧ minor = minor' := by
  rw [← parseRelease?_eq_some] at h h'
  exact Prod.mk.inj (Option.some.inj (h.symm.trans h'))

/-- Of a release the numbers are read that it tells. Written in decimal, two numbers are read back
whatever follows them. A kernel is refused exactly if the third word of its text is a release before
5.8, by its numbers and not as a decimal fraction; a word that tells no two numbers passes. -/
theorem kernel_gate (m : Machine) (version : String) :
    let told := { m with kernelVersion := some version }
    (∀ release major minor,
        parseRelease? release = some (major, minor) ↔ Tells release major minor) ∧
      (∀ (major minor : UInt32) (rest : List Char), NoDigit rest → parseRelease?
        ((toString major.toNat).toList ++ '.' :: ((toString minor.toNat).toList ++ rest)) =
          some (major.toNat, minor.toNat)) ∧
      (∀ e, checkKernel told = .error e ↔ ∃ word major minor, ThirdWord version.toList word ∧
        parseRelease? word = some (major, minor) ∧ (major < 5 ∨ major = 5 ∧ minor < 8) ∧
        e = .kernelTooOld major minor (String.ofList word)) ∧
      (∀ (major minor : UInt32) (rest : List Char), NoDigit rest → ThirdWord version.toList
        ((toString major.toNat).toList ++ '.' :: ((toString minor.toNat).toList ++ rest)) →
          (checkKernel told = .ok () ↔ 5 < major ∨ major = 5 ∧ 8 ≤ minor)) ∧
      ∀ word, ThirdWord version.toList word →
        (∀ first second, word = first ++ '.' :: second → '.' ∉ first →
          (∀ n, ¬ Spells UInt32.size first n) ∨ ∀ n, ¬ Leads UInt32.size second n) →
        checkKernel told = .ok () := by
  intro told
  refine ⟨fun release major minor => parseRelease?_eq_some, fun major minor rest ended => ?_,
    fun e => checkKernel_eq_error_of_told rfl, fun major minor rest ended third => ?_,
    fun word third unread => ?_⟩
  · exact parseRelease?_eq_some.mpr (tells_toString major minor ended)
  · have tells := tells_toString major minor ended
    rw [checkKernel_eq_ok_of_told rfl third, ← not_older_iff]
    constructor
    · exact fun new => new _ _ tells
    · intro new major' minor' tells'
      obtain ⟨rfl, rfl⟩ := tells.unique tells'
      exact new
  · rw [checkKernel_eq_ok_of_told rfl third]
    rintro major minor ⟨first, second, split, clear, spelled, leads⟩ -
    obtain unread | unread := unread first second split clear
    · exact unread major spelled
    · exact unread minor leads

/-- As a decimal fraction 5.10 would be before 5.8, but it has the larger minor number. -/
theorem kernel_gate_of_5_10 :
    let told (version : String) : Machine := ⟨none, some version, 0, 1, 4096, ⟨[], []⟩⟩
    checkKernel (told "Linux version 5.10.0-8-amd64 (x)") = .ok () ∧
      checkKernel (told "Linux version 5.7.19 (x)") = .error (.kernelTooOld 5 7 "5.7.19") := by
  intro told
  constructor
  · obtain ⟨-, -, -, new, -⟩ := kernel_gate (told "") "Linux version 5.10.0-8-amd64 (x)"
    refine (new 5 10 ".0-8-amd64".toList ?_ (thirdWord_iff.mp (by decide))).mpr (by decide)
    rintro c more ⟨⟩
    decide
  · obtain ⟨-, -, old, -⟩ := kernel_gate (told "") "Linux version 5.7.19 (x)"
    refine (old _).mpr ⟨"5.7.19".toList, 5, 7, thirdWord_iff.mp ?_, ?_, ?_, rfl⟩ <;> decide

end SyscallMeter.Preflight
