import SyscallMeter.Options
import SyscallMeter.Proofs.KeyMap

/-! The labels of a run. A key that is given twice is refused before anything else is looked at, so
that every label which a user gave reaches the report. -/
namespace SyscallMeter

/-! ### The first repetition -/

/-- The keys are different from each other and from those seen before. -/
def NewKeys (seen : List String) (labels : List Label) : Prop :=
  (labels.map (·.key)).Nodup ∧ ∀ key ∈ labels.map (·.key), key ∉ seen

theorem newKeys_nil (seen : List String) : NewKeys seen [] := by simp [NewKeys]

theorem newKeys_nothing {labels : List Label} :
    NewKeys [] labels ↔ (labels.map (·.key)).Nodup := by simp [NewKeys]

theorem newKeys_cons {seen : List String} {label : Label} {rest : List Label} :
    NewKeys seen (label :: rest) ↔ label.key ∉ seen ∧ NewKeys (label.key :: seen) rest := by
  unfold NewKeys
  rw [List.map_cons, List.nodup_cons, List.forall_mem_cons]
  simp only [List.mem_cons, not_or]
  constructor
  · rintro ⟨⟨other, different⟩, own, unseen⟩
    exact ⟨own, different, fun key inside => ⟨fun same => other (same ▸ inside), unseen key inside⟩⟩
  · rintro ⟨own, different, unseen⟩
    exact ⟨⟨fun inside => (unseen _ inside).1 rfl, different⟩, own,
      fun key inside => (unseen key inside).2⟩

theorem firstRepeated?_eq_none {seen : List String} {labels : List Label} :
    firstRepeated? seen labels = none ↔ NewKeys seen labels := by
  induction labels generalizing seen with
  | nil => simp [firstRepeated?, newKeys_nil]
  | cons label rest ih =>
    rw [newKeys_cons, firstRepeated?]
    split
    · rename_i repeated
      simp [repeated]
    · rename_i fresh
      simp [fresh, ih]

/-- The first repetition is that of the first label whose key is seen before it. -/
theorem firstRepeated?_eq_some {seen : List String} {labels : List Label} {key : String} :
    firstRepeated? seen labels = some key ↔
      ∃ before label behind, labels = before ++ label :: behind ∧ label.key = key ∧
        (key ∈ seen ∨ key ∈ before.map (·.key)) ∧ NewKeys seen before := by
  induction labels generalizing seen with
  | nil => simp [firstRepeated?]
  | cons first rest ih =>
    rw [firstRepeated?]
    split
    · rename_i repeated
      constructor
      · rintro ⟨⟩
        exact ⟨[], first, rest, rfl, rfl, .inl repeated, newKeys_nil seen⟩
      · rintro ⟨before, label, behind, split, rfl, -, fresh⟩
        cases before with
        | nil =>
          obtain ⟨rfl, -⟩ := List.cons.inj split
          rfl
        | cons _ before =>
          obtain ⟨rfl, -⟩ := List.cons.inj split
          exact absurd repeated (newKeys_cons.mp fresh).1
    · rename_i unseen
      rw [ih]
      constructor
      · rintro ⟨before, label, behind, rfl, rfl, earlier, fresh⟩
        refine ⟨first :: before, label, behind, rfl, rfl, ?_, newKeys_cons.mpr ⟨unseen, fresh⟩⟩
        rwa [List.map_cons, List.mem_cons, ← or_assoc, or_comm (b := _ = _), ← List.mem_cons]
      · rintro ⟨before, label, behind, split, rfl, earlier, fresh⟩
        cases before with
        | nil =>
          obtain ⟨rfl, -⟩ := List.cons.inj split
          exact absurd (earlier.resolve_right List.not_mem_nil) unseen
        | cons _ before =>
          obtain ⟨rfl, rfl⟩ := List.cons.inj split
          refine ⟨before, label, behind, rfl, rfl, ?_, (newKeys_cons.mp fresh).2⟩
          rwa [List.map_cons, List.mem_cons, ← or_assoc, or_comm (b := _ = _), ← List.mem_cons]
            at earlier

/-! ### The labels of the report -/

namespace Settings

/-- What a run says of itself unless the user says otherwise. -/
def ownLabels (s : Settings) : List (String × String) :=
  [("transport", s.mode.name), ("bpf_log", s.logLevel.name), ("version", version)]

theorem reportLabels_eq (s : Settings) : s.reportLabels =
    (KeyMap.ofList s.ownLabels).insertAll (s.labels.map fun label => (label.key, label.value)) :=
  rfl

theorem mem_keys_reportLabels {s : Settings} {key : String} :
    key ∈ s.reportLabels.keys ↔
      key ∈ s.ownLabels.map (·.1) ∨ ∃ label ∈ s.labels, label.key = key := by
  have none_before : key ∉ (KeyMap.empty : KeyMap String).keys := List.not_mem_nil
  rw [reportLabels_eq, KeyMap.mem_keys_insertAll, KeyMap.ofList, KeyMap.mem_keys_insertAll,
    or_iff_left none_before, or_comm, List.map_map]
  simp

/-- With different keys no label of the user is lost. -/
theorem get?_reportLabels_of_label {s : Settings} (different : (s.labels.map (·.key)).Nodup)
    {label : Label} (given : label ∈ s.labels) :
    s.reportLabels.get? label.key = some label.value := by
  have keys : ((s.labels.map fun label => (label.key, label.value)).map (·.1)).Nodup := by
    rwa [List.map_map]
  exact KeyMap.get?_insertAll_of_mem _ keys (List.mem_map_of_mem given)

theorem get?_reportLabels_of_own {s : Settings} {own : String × String} (mem : own ∈ s.ownLabels)
    (kept : ∀ label ∈ s.labels, label.key ≠ own.1) :
    s.reportLabels.get? own.1 = some own.2 := by
  have others : own.1 ∉ (s.labels.map fun label => (label.key, label.value)).map (·.1) := by
    simpa using kept
  have different : (s.ownLabels.map (·.1)).Nodup := by
    show ["transport", "bpf_log", "version"].Nodup
    decide
  rw [reportLabels_eq, KeyMap.get?_insertAll_of_not_mem _ others]
  exact KeyMap.get?_insertAll_of_mem _ different mem

end Settings

/-! ### Settings from options -/

namespace Options

theorem ringSize_ne_duplicateLabel (requested page : Nat) (key : String) :
    ringSize requested page ≠ .error (.duplicateLabel key) := by
  unfold ringSize
  split
  · simp
  · split
    · simp
    · dsimp only
      split <;> simp

theorem settings_of_repeated {o : Options} {key : String}
    (repeated : firstRepeated? [] o.labels = some key) (pid : UInt32) (page : Nat) :
    o.settings pid page = .error (.duplicateLabel key) := by
  unfold settings
  rw [repeated]
  rfl

theorem settings_of_newKeys {o : Options} (fresh : NewKeys [] o.labels) (pid : UInt32) (page : Nat) :
    o.settings pid page = (ringSize o.capacity page).map fun ringBytes =>
      { pid
        object := o.object
        mode := o.mode
        policy := o.policy
        ringBytes
        logLevel := o.logLevel
        verifierLog := o.verifierLog
        duration := if o.duration > 0 then some o.duration else none
        labels := o.labels } := by
  unfold settings
  rw [firstRepeated?_eq_none.mpr fresh]
  cases ringSize o.capacity page <;> rfl

variable (o : Options) (pid : UInt32) (page : Nat)

theorem settings_eq_duplicateLabel {key : String} :
    o.settings pid page = .error (.duplicateLabel key) ↔ firstRepeated? [] o.labels = some key := by
  cases repeated : firstRepeated? [] o.labels with
  | some other =>
    rw [settings_of_repeated repeated]
    simp
  | none =>
    rw [settings_of_newKeys (firstRepeated?_eq_none.mp repeated)]
    cases size : ringSize o.capacity page with
    | ok ringBytes => simp [Except.map]
    | error error =>
      have other : error ≠ .duplicateLabel key := by
        rintro rfl
        exact ringSize_ne_duplicateLabel _ _ key size
      simp [Except.map, other]

variable {o pid page}

/-- Accepted settings keep what the report says of them. -/
theorem labels_of_settings {s : Settings} (accepted : o.settings pid page = .ok s) :
    NewKeys [] o.labels ∧ s.labels = o.labels ∧ s.mode = o.mode ∧ s.logLevel = o.logLevel := by
  cases repeated : firstRepeated? [] o.labels with
  | some key =>
    rw [settings_of_repeated repeated] at accepted
    cases accepted
  | none =>
    have fresh := firstRepeated?_eq_none.mp repeated
    rw [settings_of_newKeys fresh] at accepted
    cases size : ringSize o.capacity page with
    | error error =>
      rw [size] at accepted
      cases accepted
    | ok ringBytes =>
      rw [size] at accepted
      cases accepted
      exact ⟨fresh, rfl, rfl, rfl⟩

variable (o pid page)

/-- Labels are neither lost nor merged. A key that is given twice is refused, and the first label
that repeats an earlier one is named; only with different keys the wish for a ring counts. The
report of a run that is not refused has the labels of the user as they were given, and its own
where the user gave no other. -/
theorem labels_neither_lost_nor_merged :
    (∀ key, o.settings pid page = .error (.duplicateLabel key) ↔
        ∃ before label behind, o.labels = before ++ label :: behind ∧ label.key = key ∧
          key ∈ before.map (·.key) ∧ (before.map (·.key)).Nodup) ∧
      ((∃ key, o.settings pid page = .error (.duplicateLabel key)) ↔
        ¬ (o.labels.map (·.key)).Nodup) ∧
      ((o.labels.map (·.key)).Nodup → ∀ error,
        o.settings pid page = .error error ↔ ringSize o.capacity page = .error error) ∧
      ∀ s, o.settings pid page = .ok s →
        (∀ key, key ∈ s.reportLabels.keys ↔
          key ∈ ["transport", "bpf_log", "version"] ∨ ∃ label ∈ o.labels, label.key = key) ∧
        (∀ label ∈ o.labels, s.reportLabels.get? label.key = some label.value) ∧
        ∀ own ∈ [("transport", o.mode.name), ("bpf_log", o.logLevel.name), ("version", version)],
          (∀ label ∈ o.labels, label.key ≠ own.1) →
            s.reportLabels.get? own.1 = some own.2 := by
  refine ⟨fun key => ?_, ?_, fun different error => ?_, fun s accepted => ?_⟩
  · rw [settings_eq_duplicateLabel, firstRepeated?_eq_some]
    simp only [newKeys_nothing, List.not_mem_nil, false_or]
  · simp only [settings_eq_duplicateLabel, ← newKeys_nothing, ← firstRepeated?_eq_none,
      ← Option.ne_none_iff_exists', ne_eq]
  · rw [settings_of_newKeys (newKeys_nothing.mpr different)]
    cases ringSize o.capacity page <;> simp [Except.map]
  · obtain ⟨fresh, labels, mode, logLevel⟩ := labels_of_settings accepted
    rw [← labels, newKeys_nothing] at fresh
    rw [← labels, ← mode, ← logLevel]
    exact ⟨fun key => Settings.mem_keys_reportLabels,
      fun label given => Settings.get?_reportLabels_of_label fresh given,
      fun own mem kept => Settings.get?_reportLabels_of_own mem kept⟩

/-- A user gives another transport in the report, and the run's own label for it is gone. -/
theorem labels_of_renamed_transport :
    let o := { Options.default with labels := [⟨"case", "tls"⟩, ⟨"transport", "mine"⟩] }
    ∃ s, o.settings 42 4096 = .ok s ∧ s.reportLabels.get? "transport" = some "mine" ∧
      s.reportLabels.get? "bpf_log" = some "off" := by
  intro o
  have power : powerOfTwoAbove (max o.capacity 4096) = 262144 := by decide +kernel
  obtain ⟨s, accepted⟩ : ∃ s, o.settings 42 4096 = .ok s := by
    rw [settings_of_newKeys (newKeys_nothing.mpr (by decide)), ringSize, power]
    exact ⟨_, rfl⟩
  obtain ⟨-, -, -, reported⟩ := labels_neither_lost_nor_merged o 42 4096
  obtain ⟨-, given, own⟩ := reported s accepted
  exact ⟨s, accepted, given ⟨"transport", "mine"⟩ (by decide),
    own ("bpf_log", "off") (by decide) (by decide)⟩

end Options

end SyscallMeter
