import SyscallMeter.Gateway
import SyscallMeter.Proofs.Web.PathSegments

/-! What the address of a group tells of its labels. A label without dots for a value and without
tabs and line ends in it can be read in the path; the others leave less there than they are, so that
different labels may share a group. -/
namespace SyscallMeter.Gateway

open Web Web.Address

/-! ### Names -/

/-- A character that names of labels are made of. -/
def isNameChar (c : Char) : Bool := c.isAlphanum || c == '_'

theorem isNameChar_of_isLabelName {name : List Char} (h : isLabelName name = true) :
    ∀ c ∈ name, isNameChar c = true := by
  cases name with
  | nil => cases h
  | cons first rest =>
    simp only [isLabelName, Bool.and_eq_true, Bool.or_eq_true] at h
    obtain ⟨⟨start, others⟩, -⟩ := h
    refine List.forall_mem_cons.mpr ⟨?_, List.all_eq_true.mp others⟩
    simp only [isNameChar, Char.isAlphanum, Bool.or_eq_true]
    exact start.imp_left .inl

theorem toNat_lt_of_isNameChar {c : Char} (h : isNameChar c = true) : c.toNat < 128 := by
  have ranges : (decide (c.val ≥ 'A'.val ∧ c.val ≤ 'Z'.val) ||
      (c.val ≥ 'a'.val && c.val ≤ 'z'.val) || (c.val ≥ '0'.val && c.val ≤ '9'.val) ||
        c == '_') = true := h
  simp only [Bool.or_eq_true, Bool.and_eq_true, decide_eq_true_eq, beq_iff_eq,
    UInt32.le_iff_toNat_le] at ranges
  obtain ((⟨-, high⟩ | ⟨-, high⟩) | ⟨-, high⟩) | rfl := ranges
  · exact Nat.lt_of_le_of_lt high (by decide)
  · exact Nat.lt_of_le_of_lt high (by decide)
  · exact Nat.lt_of_le_of_lt high (by decide)
  · decide

/-- None of the signs that paths treat apart is in a name. -/
theorem clear_of_isNameChar {c : Char} (h : isNameChar c = true) :
    escapedInSegment c = false ∧ isLosable c = false ∧ c ∉ [':', '|', '@'] := by
  have signs : ∀ n : Fin 128, isNameChar (Char.ofNat n) = true →
      escapedInSegment (Char.ofNat n) = false ∧ isLosable (Char.ofNat n) = false ∧
        Char.ofNat n ∉ [':', '|', '@'] := by
    decide +kernel
  have sign := signs ⟨c.toNat, toNat_lt_of_isNameChar h⟩
  rw [Char.ofNat_toNat] at sign
  exact sign h

theorem percentEncode_name {name : List Char} (h : isLabelName name = true) :
    percentEncode escapedInSegment name = name :=
  percentEncode_eq_self fun c inside =>
    have own := isNameChar_of_isLabelName h c inside
    ⟨toNat_lt_of_isNameChar own, (clear_of_isNameChar own).1⟩

theorem isDrive_name {name : List Char} (h : isLabelName name = true) : isDrive name = false := by
  match name with
  | [] | [_] | _ :: _ :: _ :: _ => rfl
  | [letter, mark] =>
    have own : isNameChar mark = true := isNameChar_of_isLabelName h mark (by simp)
    have apart := (clear_of_isNameChar own).2.2
    simp only [List.mem_cons, not_or] at apart
    simp [isDrive, apart]

theorem clear_of_mem_base64 {bytes : Octets} {c : Char} (inside : c ∈ base64 bytes) :
    isLosable c = false := by
  have digits : ∀ n : Fin 64, isLosable (base64Digit n) = false := by decide
  obtain rfl | ⟨n, small, rfl⟩ := mem_base64 inside
  · decide
  · exact digits ⟨n, small⟩

/-! ### One label -/

/-- A value that is written in base 64. -/
abbrev IsCoded (value : String) : Prop := value.toList.contains '/' ∨ value.isEmpty

/-- The segments that a path shows of a label, before they are encoded. -/
def shownLabel (key value : String) : List (List Char) :=
  if IsCoded value then
    [key.toList ++ "@base64".toList, base64 value.toUTF8.toList]
  else if value = "." ∨ value = ".." then [key.toList]
  -- Two dots that were apart take the key with them.
  else if kept value.toList = ['.', '.'] then [[]]
  else if kept value.toList = ['.'] then [key.toList, []]
  else [key.toList, kept value.toList]

theorem segments_pushLabel {a : Address} (long : 2 ≤ a.segments.length) {key : String}
    (name : isLabelName key.toList = true) (value : String) :
    ((labelSegments key value).foldl Address.push a).segments =
      a.segments ++ (shownLabel key value).map (percentEncode escapedInSegment) := by
  have clear : key.toList.any isLosable = false := by
    refine List.any_eq_false.mpr fun c inside => ?_
    simp [clear_of_isNameChar (isNameChar_of_isLabelName name c inside)]
  by_cases coded : IsCoded value
  · have marked : (a.push (key ++ "@base64")).segments =
        a.segments ++ [percentEncode escapedInSegment (key.toList ++ "@base64".toList)] := by
      rw [segments_push_clear, trunk_of_long long, String.toList_append]
      rw [String.toList_append, List.any_append, clear]
      decide
    have long' : 2 ≤ (a.push (key ++ "@base64")).segments.length := by
      rw [marked, List.length_append]
      omega
    have clear' : (String.ofList (base64 value.toUTF8.toList)).toList.any isLosable = false := by
      rw [String.toList_ofList]
      exact List.any_eq_false.mpr fun c inside => by simp [clear_of_mem_base64 inside]
    simp only [labelSegments, shownLabel, if_pos coded, List.foldl_cons, List.foldl_nil,
      segments_push_clear _ _ clear', trunk_of_long long', marked, String.toList_ofList,
      List.map_cons, List.map_nil, List.append_assoc, List.singleton_append]
  · have keyed : (a.push key).segments =
        a.segments ++ [percentEncode escapedInSegment key.toList] := by
      rw [segments_push_clear a key clear, trunk_of_long long]
    have long' : 2 ≤ (a.push key).segments.length := by
      rw [keyed, List.length_append]
      omega
    simp only [labelSegments, shownLabel, if_neg coded, List.foldl_cons, List.foldl_nil]
    by_cases dots : value = "." ∨ value = ".."
    · simp only [push_of_dots _ dots, if_pos dots, keyed, List.map_cons, List.map_nil]
    · rw [segments_push _ dots, trunk_of_long long', keyed, if_neg dots]
      split
      · have no_drive : isDrive (percentEncode escapedInSegment key.toList) = false := by
          rw [percentEncode_name name]
          exact isDrive_name name
        simp only [List.reverse_append, List.reverse_singleton, List.singleton_append, stepUp,
          no_drive, Bool.false_eq_true, if_false, List.reverse_reverse, List.map_cons,
          List.map_nil]
        rfl
      · split
        · simp only [List.map_cons, List.map_nil, List.append_assoc, List.singleton_append]
          rfl
        · simp only [List.map_cons, List.map_nil, List.append_assoc, List.singleton_append]

/-! ### A group -/

/-- The segments that a path shows of labels, before they are encoded. -/
def shownLabels (labels : KeyMap String) : List (List Char) :=
  labels.entries.flatMap fun e => shownLabel e.1 e.2

theorem segments_pushLabels {a : Address} (long : 2 ≤ a.segments.length)
    {entries : List (String × String)}
    (names : ∀ e ∈ entries, isLabelName e.1.toList = true) :
    ((entries.flatMap fun e => labelSegments e.1 e.2).foldl Address.push a).segments =
      a.segments ++ (entries.flatMap fun e => shownLabel e.1 e.2).map
        (percentEncode escapedInSegment) := by
  induction entries generalizing a with
  | nil => exact (List.append_nil _).symm
  | cons e rest ih =>
    obtain ⟨name, names⟩ := List.forall_mem_cons.mp names
    have pushed := segments_pushLabel long name e.2
    have long' : 2 ≤ ((labelSegments e.1 e.2).foldl Address.push a).segments.length := by
      rw [pushed, List.length_append]
      omega
    rw [List.flatMap_cons, List.foldl_append, ih long' names, pushed, List.flatMap_cons,
      List.map_append, List.append_assoc]

/-- The first segments of a group behind the path of the gateway. -/
def groupStart : List (List Char) := ["metrics".toList, "job".toList, "iotap".toList]

theorem segments_pushStart (a : Address) :
    (["metrics", "job", "iotap"].foldl Address.push a).segments =
      a.trunk ++ groupStart.map (percentEncode escapedInSegment) := by
  have metrics := segments_push_clear a "metrics" (by decide)
  have not_empty : (a.push "metrics").segments ≠ [[]] := by
    intro empty
    rw [metrics, percentEncode_name (by decide)] at empty
    have last := congrArg List.getLast? empty
    simp at last
  have job := segments_push_clear (a.push "metrics") "job" (by decide)
  rw [trunk_of_ne not_empty, metrics] at job
  have long : 2 ≤ ((a.push "metrics").push "job").segments.length := by
    simp [job]
  have iotap := segments_push_clear ((a.push "metrics").push "job") "iotap" (by decide)
  rw [trunk_of_long long, job] at iotap
  simp only [List.foldl_cons, List.foldl_nil, iotap, groupStart, List.map_cons, List.map_nil,
    List.append_assoc, List.singleton_append]
  rfl

/-- The path of an accepted group is that of the gateway, with what is shown of the labels. -/
theorem path_groupAddress {gateway : String} {labels : KeyMap String} {a : Address}
    (accepted : groupAddress gateway labels = .ok a) :
    (∀ e ∈ labels.entries, isLabelName e.1.toList = true) ∧
      ∃ root, Address.parse gateway = .ok root ∧
        a.path = joinSegments root.popIfEmpty.trunk ++ joinSegments
          ((groupStart ++ shownLabels labels).map (percentEncode escapedInSegment)) := by
  unfold groupAddress at accepted
  cases parsed : Address.parse gateway with
  | error reason => simp [parsed] at accepted
  | ok root =>
    cases bad : labels.keys.find? fun key => ! isLabelName key.toList || isReserved key with
    | some key => simp [parsed, bad] at accepted
    | none =>
      simp only [parsed, bad, Except.ok.injEq] at accepted
      have names : ∀ e ∈ labels.entries, isLabelName e.1.toList = true := by
        intro e inside
        have good := List.find?_eq_none.mp bad e.1 (List.mem_map_of_mem inside)
        simp only [Bool.or_eq_true, Bool.not_eq_true', not_or, Bool.not_eq_false] at good
        exact good.1
      have start := segments_pushStart root.popIfEmpty
      have long : 2 ≤ (["metrics", "job", "iotap"].foldl Address.push
          root.popIfEmpty).segments.length := by
        rw [start, List.length_append, List.length_map]
        exact Nat.le_add_left_of_le (by decide)
      refine ⟨names, root, rfl, ?_⟩
      rw [← accepted, groupSegments, List.foldl_append, Address.path,
        segments_pushLabels long names, start, shownLabels, List.map_append, List.append_assoc]
      exact List.flatMap_append

/-! ### Labels that can be read -/

/-- A value that loses nothing in a path: it is written in base 64, or it is neither dots nor has a
tab or a line end. -/
def IsWhole (value : String) : Prop :=
  IsCoded value ∨ ¬ (value = "." ∨ value = "..") ∧ kept value.toList = value.toList

instance : DecidablePred IsWhole := fun _ => inferInstanceAs (Decidable (_ ∨ _))

theorem shownLabel_of_isWhole {value : String} (whole : IsWhole value) (key : String) :
    shownLabel key value = if IsCoded value then
      [key.toList ++ "@base64".toList, base64 value.toUTF8.toList] else [key.toList, value.toList] := by
  by_cases coded : IsCoded value
  · rw [shownLabel, if_pos coded, if_pos coded]
  · obtain ⟨no_dots, stays⟩ := whole.resolve_left coded
    have dots : value.toList ≠ ['.', '.'] := fun same => no_dots (.inr (String.toList_inj.mp same))
    have dot : value.toList ≠ ['.'] := fun same => no_dots (.inl (String.toList_inj.mp same))
    simp only [shownLabel, if_neg coded, stays, if_neg no_dots, if_neg dots, if_neg dot]

theorem length_shownLabel {value : String} (whole : IsWhole value) (key : String) :
    (shownLabel key value).length = 2 := by
  rw [shownLabel_of_isWhole whole]
  split <;> rfl

/-- A key never looks like the mark of an encoded value. -/
theorem marked_ne_name {name : List Char} (h : isLabelName name = true) (key : List Char) :
    key ++ "@base64".toList ≠ name := by
  rintro rfl
  have own : isNameChar '@' = true := isNameChar_of_isLabelName h '@' (by simp)
  exact absurd own (by decide)

/-- The segments of a whole label tell its key and its value. -/
theorem label_of_shownLabel {key key' value value' : String}
    (name : isLabelName key.toList = true) (name' : isLabelName key'.toList = true)
    (whole : IsWhole value) (whole' : IsWhole value')
    (same : shownLabel key value = shownLabel key' value') : key = key' ∧ value = value' := by
  rw [shownLabel_of_isWhole whole, shownLabel_of_isWhole whole'] at same
  split at same <;> split at same <;>
    simp only [List.cons.injEq, and_true] at same <;> obtain ⟨keys, values⟩ := same
  · have bytes := base64_injective values
    rw [toUTF8_toList, toUTF8_toList] at bytes
    exact ⟨String.toList_inj.mp (List.append_cancel_right keys),
      String.toList_inj.mp (utf8_injective bytes)⟩
  · exact absurd keys (marked_ne_name name' _)
  · exact absurd keys.symm (marked_ne_name name _)
  · exact ⟨String.toList_inj.mp keys, String.toList_inj.mp values⟩

theorem entries_of_shownLabels {first second : List (String × String)}
    (names : ∀ e ∈ first, isLabelName e.1.toList = true)
    (names' : ∀ e ∈ second, isLabelName e.1.toList = true)
    (whole : ∀ e ∈ first, IsWhole e.2) (whole' : ∀ e ∈ second, IsWhole e.2)
    (same : (first.flatMap fun e => shownLabel e.1 e.2) =
      second.flatMap fun e => shownLabel e.1 e.2) : first = second := by
  induction first generalizing second with
  | nil =>
    cases second with
    | nil => rfl
    | cons e rest =>
      have two := length_shownLabel (whole' e List.mem_cons_self) e.1
      rw [List.flatMap_cons] at same
      rw [(List.append_eq_nil_iff.mp same.symm).1] at two
      cases two
  | cons e rest ih =>
    obtain ⟨name, names⟩ := List.forall_mem_cons.mp names
    obtain ⟨own, others⟩ := List.forall_mem_cons.mp whole
    cases second with
    | nil =>
      have two := length_shownLabel own e.1
      rw [List.flatMap_cons] at same
      rw [(List.append_eq_nil_iff.mp same).1] at two
      cases two
    | cons e' rest' =>
      obtain ⟨name', names'⟩ := List.forall_mem_cons.mp names'
      obtain ⟨own', others'⟩ := List.forall_mem_cons.mp whole'
      rw [List.flatMap_cons, List.flatMap_cons] at same
      obtain ⟨heads, tails⟩ := List.append_inj same
        ((length_shownLabel own e.1).trans (length_shownLabel own' e'.1).symm)
      obtain ⟨keys, values⟩ := label_of_shownLabel name name' own own' heads
      rw [Prod.ext keys values, ih names names' others others' tails]

theorem accepted_of_path {gateway : String} {labels : KeyMap String} {path : List Char}
    (written : (groupAddress gateway labels).toOption.map Address.path = some path) :
    ∃ a, groupAddress gateway labels = .ok a ∧ a.path = path := by
  cases accepted : groupAddress gateway labels with
  | ok a =>
    rw [accepted] at written
    exact ⟨a, rfl, Option.some.inj written⟩
  | error reason =>
    rw [accepted] at written
    cases written

/-- Two sets of labels share a group of a gateway exactly if a path shows the same of both. Labels
whose values lose nothing share a group only with themselves. -/
theorem shared_group_iff {gateway : String} {first second : KeyMap String} {a b : Address}
    (accepted : groupAddress gateway first = .ok a)
    (accepted' : groupAddress gateway second = .ok b) :
    (a.path = b.path ↔ shownLabels first = shownLabels second) ∧
      ((∀ e ∈ first.entries, IsWhole e.2) → (∀ e ∈ second.entries, IsWhole e.2) →
        (a.path = b.path ↔ first = second)) := by
  obtain ⟨names, root, parsed, path⟩ := path_groupAddress accepted
  obtain ⟨names', root', parsed', path'⟩ := path_groupAddress accepted'
  obtain rfl : root = root' := Except.ok.inj (parsed.symm.trans parsed')
  have no_slash (labels : KeyMap String) : ∀ segment ∈
      (groupStart ++ shownLabels labels).map (percentEncode escapedInSegment), '/' ∉ segment := by
    intro segment inside
    obtain ⟨s, -, rfl⟩ := List.mem_map.mp inside
    exact slash_not_mem_segment s
  -- Both paths go on from that of the gateway, so only what is shown of the labels can differ.
  have shown : a.path = b.path ↔ shownLabels first = shownLabels second := by
    rw [path, path']
    constructor
    · intro same
      have segments := joinSegments_injective (no_slash first) (no_slash second)
        (List.append_cancel_left same)
      have texts := (List.map_inj_right fun _ _ => segment_injective).mp segments
      exact List.append_cancel_left texts
    · intro same
      rw [same]
  refine ⟨shown, fun whole whole' => ⟨fun same => ?_, fun same => ?_⟩⟩
  · have entries := entries_of_shownLabels names names' whole whole' (shown.mp same)
    cases first
    cases second
    simpa using entries
  · rw [shown, same]

/-- A value with a slash and one without give groups of their own. -/
theorem shared_group_of_two_names :
    let first := KeyMap.ofList [("case", "tls")]
    let second := KeyMap.ofList [("path", "a/b")]
    (∀ e ∈ first.entries, IsWhole e.2) ∧ (∀ e ∈ second.entries, IsWhole e.2) ∧
      ∃ a b, groupAddress "http://[::1]:9091" first = .ok a ∧
        groupAddress "http://[::1]:9091" second = .ok b ∧ a.path ≠ b.path := by
  intro first second
  have whole : ∀ e ∈ first.entries, IsWhole e.2 := by decide +kernel
  have whole' : ∀ e ∈ second.entries, IsWhole e.2 := by decide +kernel
  obtain ⟨a, accepted, -⟩ : ∃ a, groupAddress "http://[::1]:9091" first = .ok a ∧
      a.path = "/metrics/job/iotap/case/tls".toList := accepted_of_path (by decide +kernel)
  obtain ⟨b, accepted', -⟩ : ∃ b, groupAddress "http://[::1]:9091" second = .ok b ∧
      b.path = "/metrics/job/iotap/path@base64/YS9i".toList := accepted_of_path (by decide +kernel)
  refine ⟨whole, whole', a, b, accepted, accepted', fun same => ?_⟩
  have labels := ((shared_group_iff accepted accepted').2 whole whole').mp same
  exact absurd (congrArg KeyMap.keys labels) (by decide +kernel)

/-- Values that are dots leave nothing in the path: one dot and two dots share a group. -/
theorem dots_share_a_group :
    let first := KeyMap.ofList [("case", ".")]
    let second := KeyMap.ofList [("case", "..")]
    first ≠ second ∧ ∃ a b, groupAddress "http://[::1]:9091" first = .ok a ∧
      groupAddress "http://[::1]:9091" second = .ok b ∧ a.path = b.path := by
  intro first second
  have apart : first.entries ≠ second.entries := by decide +kernel
  obtain ⟨a, accepted, path⟩ : ∃ a, groupAddress "http://[::1]:9091" first = .ok a ∧
      a.path = "/metrics/job/iotap/case".toList := accepted_of_path (by decide +kernel)
  obtain ⟨b, accepted', path'⟩ : ∃ b, groupAddress "http://[::1]:9091" second = .ok b ∧
      b.path = "/metrics/job/iotap/case".toList := accepted_of_path (by decide +kernel)
  exact ⟨fun same => apart (congrArg KeyMap.entries same), a, b, accepted, accepted',
    path.trans path'.symm⟩

end SyscallMeter.Gateway
