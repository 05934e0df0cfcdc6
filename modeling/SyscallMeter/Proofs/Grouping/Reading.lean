import SyscallMeter.Proofs.Grouping.Refusal
import SyscallMeter.Proofs.Splitting
import SyscallMeter.Proofs.Web.Parts

/-! The labels of a group are read from its path. Whatever the gateway's own path is, the last start
of a group in it is the one that was added: a start behind it would need the key `job`, which is
refused, or the key `iotap` next after `metrics`, and keys stand in order. -/
namespace SyscallMeter.Gateway

open Web Web.Address

/-! ### The segments of a label -/

/-- A value of which a path shows all: it is neither empty nor dots and has no tab or line end. -/
structure IsPlain (value : String) : Prop where
  filled : value ≠ ""
  no_tab : '\t' ∉ value.toList
  no_feed : '\n' ∉ value.toList
  no_return : '\r' ∉ value.toList
  no_dot : value ≠ "."
  no_dots : value ≠ ".."

instance : DecidablePred IsPlain := fun value =>
  decidable_of_iff (value ≠ "" ∧ '\t' ∉ value.toList ∧ '\n' ∉ value.toList ∧
    '\r' ∉ value.toList ∧ value ≠ "." ∧ value ≠ "..")
    ⟨fun ⟨filled, tab, feed, back, dot, dots⟩ => ⟨filled, tab, feed, back, dot, dots⟩,
      fun plain => ⟨plain.filled, plain.no_tab, plain.no_feed, plain.no_return, plain.no_dot,
        plain.no_dots⟩⟩

/-- What two segments tell of a label. -/
def Shows (label : String × String) (segments : List Char × List Char) : Prop :=
  if '/' ∈ label.2.toList then
    segments.1 = label.1.toList ++ "@base64".toList ∧ segments.2 = base64 label.2.toUTF8.toList ∧
      base64Bytes? segments.2 = some label.2.toUTF8.toList
  else
    percentDecode segments.1 = label.1.toUTF8.toList ∧
      percentDecode segments.2 = label.2.toUTF8.toList

/-- The segments of a label in a path. -/
def writtenLabel (label : String × String) : List Char × List Char :=
  if '/' ∈ label.2.toList then
    (label.1.toList ++ "@base64".toList, base64 label.2.toUTF8.toList)
  else (label.1.toList, percentEncode escapedInSegment label.2.toList)

/-- The segments of labels in a path. -/
def writtenLabels (labels : List (String × String)) : List (List Char) :=
  labels.flatMap fun e => [(writtenLabel e).1, (writtenLabel e).2]

@[simp] theorem writtenLabels_cons (e : String × String) (rest : List (String × String)) :
    writtenLabels (e :: rest) = (writtenLabel e).1 :: (writtenLabel e).2 :: writtenLabels rest :=
  rfl

theorem IsPlain.isCoded_iff {value : String} (plain : IsPlain value) :
    IsCoded value ↔ '/' ∈ value.toList := by
  simp [IsCoded, plain.filled]

theorem IsPlain.isWhole {value : String} (plain : IsPlain value) : IsWhole value := by
  refine .inr ⟨fun dots => dots.elim plain.no_dot plain.no_dots, List.filter_eq_self.mpr ?_⟩
  intro c inside
  have tab := ne_of_mem_of_not_mem inside plain.no_tab
  have feed := ne_of_mem_of_not_mem inside plain.no_feed
  have back := ne_of_mem_of_not_mem inside plain.no_return
  simp [tab, feed, back]

section

variable {label : String × String} (name : isLabelName label.1.toList = true)

include name

theorem map_shownLabel (plain : IsPlain label.2) :
    (shownLabel label.1 label.2).map (percentEncode escapedInSegment) =
      [(writtenLabel label).1, (writtenLabel label).2] := by
  rw [shownLabel_of_isWhole plain.isWhole, writtenLabel]
  simp only [plain.isCoded_iff]
  split
  · have marked : percentEncode escapedInSegment (label.1.toList ++ "@base64".toList) =
        label.1.toList ++ "@base64".toList := by
      have mark : percentEncode escapedInSegment "@base64".toList = "@base64".toList := by decide
      rw [percentEncode_append, percentEncode_name name, mark]
    simp only [List.map_cons, List.map_nil, marked, percentEncode_base64]
  · simp only [List.map_cons, List.map_nil, percentEncode_name name]

theorem shows_writtenLabel : Shows label (writtenLabel label) := by
  unfold Shows writtenLabel
  split
  · exact ⟨rfl, rfl, base64Bytes?_base64 _⟩
  · have key := percentDecode_segment label.1.toList
    rw [percentEncode_name name, ← toUTF8_toList] at key
    exact ⟨key, (percentDecode_segment _).trans (toUTF8_toList _).symm⟩

theorem at_not_mem_name : '@' ∉ label.1.toList := fun inside =>
  absurd (isNameChar_of_isLabelName name '@' inside) (by decide)

theorem decodeUtf8?_name : decodeUtf8? (percentDecode label.1.toList) = some label.1.toList := by
  have key := percentDecode_segment label.1.toList
  rw [percentEncode_name name, ← toUTF8_toList] at key
  rw [key, decodeUtf8?_toUTF8]

end

/-- A first segment without a mark is the key. -/
theorem eq_of_writtenLabel {label : String × String} {text : String} (plain : '@' ∉ text.toList)
    (same : (writtenLabel label).1 = text.toList) : label.1 = text := by
  unfold writtenLabel at same
  split at same
  · exact absurd (same ▸ by simp : '@' ∈ text.toList) plain
  · exact String.toList_inj.mp same

/-! ### Reading a path -/

/-- The label that two segments tell of. -/
def labelOfSegments? (first second : List Char) : Option (String × String) := do
  let name := first.takeWhile (· ≠ '@')
  let key ← decodeUtf8? (percentDecode name)
  let value ←
    if first = name ++ "@base64".toList then (base64Bytes? second).bind decodeUtf8?
    else decodeUtf8? (percentDecode second)
  return (String.ofList key, String.ofList value)

def labelsOfSegments? : List (List Char) → Option (List (String × String))
  | [] => some []
  | [_] => none
  | first :: second :: rest => do
    return (← labelOfSegments? first second) :: (← labelsOfSegments? rest)

/-- The segments behind the last start of a group. -/
def behindStart? : List (List Char) → Option (List (List Char))
  | [] => none
  | segment :: rest =>
    (behindStart? rest).or
      (if groupStart <+: segment :: rest then some (rest.drop 2) else none)

/-- The labels that a path tells of. -/
def labelsOfPath? (path : List Char) : Option (List (String × String)) :=
  (behindStart? (Text.splitOn '/' path)).bind labelsOfSegments?

theorem labelOfSegments?_writtenLabel {label : String × String}
    (name : isLabelName label.1.toList = true) :
    labelOfSegments? (writtenLabel label).1 (writtenLabel label).2 = some label := by
  have whole : ∀ c ∈ label.1.toList, decide (c ≠ '@') = true := fun c inside =>
    decide_eq_true (ne_of_mem_of_not_mem inside (at_not_mem_name name))
  rw [labelOfSegments?]
  by_cases slash : '/' ∈ label.2.toList
  · have key : (label.1.toList ++ "@base64".toList).takeWhile (· ≠ '@') = label.1.toList := by
      rw [List.takeWhile_append_of_pos whole]
      simp
    simp only [writtenLabel, if_pos slash, key, decodeUtf8?_name name, if_true,
      base64Bytes?_base64, Option.bind_some, decodeUtf8?_toUTF8, bind, pure, String.ofList_toList]
  · have key : (label.1.toList ++ []).takeWhile (· ≠ '@') = label.1.toList ++ [] :=
      List.takeWhile_append_of_pos whole
    rw [List.append_nil] at key
    have unmarked : label.1.toList ≠ label.1.toList ++ "@base64".toList := by simp
    have value := percentDecode_segment label.2.toList
    rw [← toUTF8_toList] at value
    simp only [writtenLabel, if_neg slash, key, decodeUtf8?_name name, if_neg unmarked, value,
      Option.bind_some, decodeUtf8?_toUTF8, bind, pure, String.ofList_toList]

theorem labelsOfSegments?_writtenLabels {labels : List (String × String)}
    (names : ∀ e ∈ labels, isLabelName e.1.toList = true) :
    labelsOfSegments? (writtenLabels labels) = some labels := by
  induction labels with
  | nil => rfl
  | cons e rest ih =>
    obtain ⟨name, names⟩ := List.forall_mem_cons.mp names
    simp [labelsOfSegments?, labelOfSegments?_writtenLabel name, ih names]

theorem behindStart?_append {segments behind : List (List Char)}
    (found : behindStart? segments = some behind) (before : List (List Char)) :
    behindStart? (before ++ segments) = some behind := by
  induction before with
  | nil => exact found
  | cons segment rest ih => rw [List.cons_append, behindStart?, ih, Option.some_or]

theorem exists_of_prefix {labels : List (String × String)} {segment : List Char}
    {more : List (List Char)} (starts : segment :: more <+: writtenLabels labels) :
    ∃ e ∈ labels, (writtenLabel e).1 = segment := by
  cases labels with
  | nil => cases List.prefix_nil.mp starts
  | cons e rest => exact ⟨e, List.mem_cons_self, (List.cons_prefix_cons.mp starts).1.symm⟩

/-- No group starts among the segments of labels. -/
theorem behindStart?_writtenLabels {labels : List (String × String)}
    (sorted : labels.Pairwise fun e e' => e.1 < e'.1) (free : ∀ e ∈ labels, e.1 ≠ "job") :
    behindStart? (writtenLabels labels) = none := by
  induction labels with
  | nil => rfl
  | cons e rest ih =>
    obtain ⟨least, sorted⟩ := List.pairwise_cons.mp sorted
    obtain ⟨-, free⟩ := List.forall_mem_cons.mp free
    -- A start at the value would have `job` for the next key.
    have not_value : ¬ groupStart <+: (writtenLabel e).2 :: writtenLabels rest := by
      intro starts
      obtain ⟨next, inside, job⟩ := exists_of_prefix (List.cons_prefix_cons.mp starts).2
      exact free next inside (eq_of_writtenLabel (by decide) job)
    -- A start at the key would have `iotap` for the next key, behind `metrics`.
    have not_key : ¬ groupStart <+:
        (writtenLabel e).1 :: (writtenLabel e).2 :: writtenLabels rest := by
      intro starts
      obtain ⟨first, others⟩ := List.cons_prefix_cons.mp starts
      obtain ⟨next, inside, iotap⟩ := exists_of_prefix (List.cons_prefix_cons.mp others).2
      have key : e.1 = "metrics" := eq_of_writtenLabel (by decide) first.symm
      have key' : next.1 = "iotap" := eq_of_writtenLabel (by decide) iotap
      have below := least next inside
      rw [key, key'] at below
      exact absurd below (by decide)
    rw [writtenLabels_cons, behindStart?, behindStart?, ih sorted free, if_neg not_value,
      if_neg not_key]
    rfl

/-- The last start of a group in the path of a gateway with labels is the one before the labels. -/
theorem behindStart?_group {labels : List (String × String)}
    (sorted : labels.Pairwise fun e e' => e.1 < e'.1) (free : ∀ e ∈ labels, e.1 ≠ "job")
    (before : List (List Char)) :
    behindStart? (before ++ groupStart ++ writtenLabels labels) = some (writtenLabels labels) := by
  rw [List.append_assoc]
  apply behindStart?_append
  simp [groupStart, behindStart?, behindStart?_writtenLabels sorted free]

/-! ### An accepted group -/

section

variable {gateway : String} {labels : KeyMap String} {a : Address}
  (accepted : groupAddress gateway labels = .ok a)

include accepted

/-- The address of a group differs from that of the gateway in its path only. -/
theorem parts_of_group :
    ∃ root, Address.parse gateway = .ok root ∧ a = { root with segments := a.segments } := by
  obtain ⟨root, parsed, -, built⟩ := groupAddress_ok_iff.mp accepted
  refine ⟨root, parsed, ?_⟩
  rw [built, foldl_push, popIfEmpty_eq]

theorem names_of_group : ∀ e ∈ labels.entries, isLabelName e.1.toList = true ∧ e.1 ≠ "job" := by
  obtain ⟨-, -, free, -⟩ := groupAddress_ok_iff.mp accepted
  intro e inside
  have kept := mt isRefused_iff.mp (free e.1 (List.mem_map_of_mem inside))
  simp only [isReserved, Bool.or_eq_true, Bool.not_eq_true', beq_iff_eq, not_or,
    Bool.not_eq_false] at kept
  exact ⟨kept.1, kept.2.1⟩

theorem segments_of_group (plain : ∀ e ∈ labels.entries, IsPlain e.2) :
    ∃ before, Text.splitOn '/' a.path =
      before ++ groupStart ++ writtenLabels labels.entries := by
  obtain ⟨names, root, -, path⟩ := path_groupAddress accepted
  have start : groupStart.map (percentEncode escapedInSegment) = groupStart := by decide
  have written : (shownLabels labels).map (percentEncode escapedInSegment) =
      writtenLabels labels.entries := by
    rw [shownLabels, writtenLabels, List.map_flatMap, List.flatMap_def, List.flatMap_def]
    refine congrArg List.flatten (List.map_congr_left fun e inside => ?_)
    exact map_shownLabel (names e inside) (plain e inside)
  have clear : ∀ segment ∈ (groupStart ++ shownLabels labels).map (percentEncode escapedInSegment),
      '/' ∉ segment := by
    intro segment inside
    obtain ⟨s, -, rfl⟩ := List.mem_map.mp inside
    exact slash_not_mem_segment s
  have parts := Text.splitOn_begun clear (joinSegments root.popIfEmpty.trunk)
  rw [List.map_append, start, written, ← List.append_assoc] at parts
  refine ⟨_, Eq.trans ?_ parts⟩
  rw [path, List.map_append, start, written]
  rfl

end

/-- The path of a group ends with two segments for each label, in the order of the keys' bytes, and
tells all of them, if the values are plain. All other parts of the address are those of the gateway.
A group is refused for the least key that metrics cannot be grouped by, and accepted if there is no
such key. -/
theorem group_tells_labels (gateway : String) (labels : KeyMap String) :
    (∀ a, groupAddress gateway labels = .ok a →
      (∃ root, Address.parse gateway = .ok root ∧ a = { root with segments := a.segments }) ∧
      ((∀ e ∈ labels.entries, IsPlain e.2) →
        (∃ before, ∃ shown : String × String → List Char × List Char,
          Text.splitOn '/' a.path =
            before ++ ["metrics".toList, "job".toList, "iotap".toList] ++
              labels.entries.flatMap (fun e => [(shown e).1, (shown e).2]) ∧
          ∀ e ∈ labels.entries, Shows e (shown e)) ∧
        labels.entries.Pairwise (fun e e' => e.1.toUTF8.toList < e'.1.toUTF8.toList) ∧
        labelsOfPath? a.path = some labels.entries)) ∧
    (∀ key, groupAddress gateway labels = .error (.invalidLabel key) ↔
      (∃ root, Address.parse gateway = .ok root ∧
        (root.scheme = "http" ∨ root.scheme = "https")) ∧
      key ∈ labels.keys ∧ IsRefused key ∧
        ∀ other ∈ labels.keys, IsRefused other → key.toUTF8.toList ≤ other.toUTF8.toList) ∧
    ((∃ a, groupAddress gateway labels = .ok a) ↔
      (∃ root, Address.parse gateway = .ok root) ∧ ∀ key ∈ labels.keys, ¬ IsRefused key) := by
  refine ⟨fun a accepted => ⟨parts_of_group accepted, fun plain => ?_⟩, fun key => ?_,
    exists_groupAddress_iff⟩
  · have names := names_of_group accepted
    obtain ⟨before, segments⟩ := segments_of_group accepted plain
    refine ⟨⟨before, writtenLabel, segments, fun e inside => ?_⟩, ?_, ?_⟩
    · exact shows_writtenLabel (names e inside).1
    · exact labels.sorted.imp bytes_lt_iff.mpr
    · rw [labelsOfPath?, segments,
        behindStart?_group labels.sorted (fun e inside => (names e inside).2), Option.bind_some,
        labelsOfSegments?_writtenLabels fun e inside => (names e inside).1]
  · have web : (∃ root, Address.parse gateway = .ok root ∧
        (root.scheme = "http" ∨ root.scheme = "https")) ↔
          ∃ root, Address.parse gateway = .ok root :=
      exists_congr fun root => and_iff_left_of_imp scheme_of_parse
    rw [web]
    exact invalidLabel_iff

/-- Labels are read behind the last start of a group, also if the gateway's own path has one. -/
theorem group_tells_labels_behind_another :
    let gateway := "https://me@[::1]:9091/metrics/job/iotap/case/x/?page#top"
    let labels := KeyMap.ofList [("path", "a/b"), ("case", "%2e\\ö")]
    (∀ e ∈ labels.entries, IsPlain e.2) ∧
      ∃ a, groupAddress gateway labels = .ok a ∧
        a.path = ("/metrics/job/iotap/case/x/metrics/job/iotap" ++
          "/case/%252e%5C%C3%B6/path@base64/YS9i").toList ∧
        labelsOfPath? a.path = some labels.entries := by
  intro gateway labels
  have plain : ∀ e ∈ labels.entries, IsPlain e.2 := by decide +kernel
  obtain ⟨a, accepted, path⟩ : ∃ a, groupAddress gateway labels = .ok a ∧
      a.path = ("/metrics/job/iotap/case/x/metrics/job/iotap" ++
        "/case/%252e%5C%C3%B6/path@base64/YS9i").toList := accepted_of_path (by decide +kernel)
  obtain ⟨-, told⟩ := (group_tells_labels gateway labels).1 a accepted
  exact ⟨plain, a, accepted, path, (told plain).2.2⟩

end SyscallMeter.Gateway
