import Mathlib.Data.List.Nodup
import SyscallMeter.Proofs.Run.Result

/-! Attaching the probes. Operations are tried in the order of their tags. One that every kernel has
must get its probe, or nothing behind it is tried; the two others may go without. As most operations
must get one, there is always a probe in the end. -/
namespace SyscallMeter

namespace Attachment

/-- What became of operations, and behind them of others. -/
def followedBy (a b : Attachment) : Attachment := ⟨a.attached ++ b.attached, a.skipped ++ b.skipped⟩

theorem followedBy_assoc (a b c : Attachment) :
    (a.followedBy b).followedBy c = a.followedBy (b.followedBy c) := by
  simp [followedBy]

end Attachment

namespace Kernel

/-- The program that a request is about. -/
def LoaderRequest.program? : LoaderRequest → Option String
  | .loadProgram name => some name
  | .attach program _ => some program
  | _ => none

namespace Refusals

/-- The object has the program of an operation, which is for a tracepoint, loads and attaches. -/
structure Grants (r : Refusals) (op : Operation) : Prop where
  present : op.program ∉ r.missingPrograms
  fits : r.otherPrograms.lookup op.program = .none
  loads : r.programs.lookup op.program = .none
  attaches : r.tracepoints.lookup op.tracepoint = .none

/-- The first thing that keeps an operation from having a probe, with what is said of it. -/
inductive Denies (r : Refusals) (op : Operation) : ProbeError → Prop
  | missing (absent : op.program ∈ r.missingPrograms) : Denies r op (.noProgram op.program)
  | unfit {reason : String} (present : op.program ∉ r.missingPrograms)
      (refused : r.otherPrograms.lookup op.program = some reason) :
      Denies r op (.programRefused reason)
  | unloaded {reason : String} (present : op.program ∉ r.missingPrograms)
      (fits : r.otherPrograms.lookup op.program = .none)
      (refused : r.programs.lookup op.program = some reason) : Denies r op (.programRefused reason)
  | unattached {reason : String} (present : op.program ∉ r.missingPrograms)
      (fits : r.otherPrograms.lookup op.program = .none)
      (loads : r.programs.lookup op.program = .none)
      (refused : r.tracepoints.lookup op.tracepoint = some reason) :
      Denies r op (.notAttached op.program op.tracepoint reason)

/-- The first operation that must have a probe and is denied one. -/
structure FirstDenied (r : Refusals) (before : List Operation) (op : Operation)
    (later : List Operation) (e : ProbeError) : Prop where
  split : Operation.all = before ++ op :: later
  needed : op.portable
  denied : r.Denies op e
  earlier : ∀ op ∈ before, op.portable → r.Grants op

variable {r : Refusals} {op : Operation} {e : ProbeError}

theorem probe?_of_grants (h : r.Grants op) : r.probe? op = .none := by
  simp [probe?, program?, h.present, h.fits, h.loads, h.attaches]

theorem probe?_of_denies (h : r.Denies op e) : r.probe? op = some e := by
  cases h with
  | missing absent => simp [probe?, program?, absent]
  | unfit present refused => simp [probe?, program?, present, refused]
  | unloaded present fits refused => simp [probe?, program?, present, fits, refused]
  | unattached present fits loads refused => simp [probe?, program?, present, fits, loads, refused]

/-- A probe is granted, or it is denied for a reason. -/
theorem grants_or_denies (r : Refusals) (op : Operation) : r.Grants op ∨ ∃ e, r.Denies op e := by
  by_cases present : op.program ∈ r.missingPrograms
  · exact .inr ⟨_, .missing present⟩
  cases fits : r.otherPrograms.lookup op.program with
  | some reason => exact .inr ⟨_, .unfit present fits⟩
  | none =>
    cases loads : r.programs.lookup op.program with
    | some reason => exact .inr ⟨_, .unloaded present fits loads⟩
    | none =>
      cases attaches : r.tracepoints.lookup op.tracepoint with
      | some reason => exact .inr ⟨_, .unattached present fits loads attaches⟩
      | none => exact .inl ⟨present, fits, loads, attaches⟩

theorem probe?_eq_none : r.probe? op = .none ↔ r.Grants op := by
  constructor
  · intro free
    obtain granted | ⟨e, denied⟩ := r.grants_or_denies op
    · exact granted
    · rw [probe?_of_denies denied] at free
      cases free
  · exact probe?_of_grants

theorem probe?_eq_some : r.probe? op = some e ↔ r.Denies op e := by
  constructor
  · intro refused
    obtain granted | ⟨e', denied⟩ := r.grants_or_denies op
    · rw [probe?_of_grants granted] at refused
      cases refused
    · rw [probe?_of_denies denied] at refused
      exact Option.some.inj refused ▸ denied
  · exact probe?_of_denies

/-- Either all that must have a probe are granted one, or there is a first that is not. -/
theorem all_granted_or_firstDenied (r : Refusals) :
    (∀ op : Operation, op.portable → r.Grants op) ∨
      ∃ before op later e, r.FirstDenied before op later e := by
  cases found : Operation.all.find? fun op => op.portable && (r.probe? op).isSome with
  | none =>
    left
    intro op needed
    have passed := List.find?_eq_none.mp found op op.mem_all
    rw [← probe?_eq_none]
    simpa [needed] using passed
  | some op =>
    right
    obtain ⟨stops, before, later, split, passed⟩ := List.find?_eq_some_iff_append.mp found
    obtain ⟨needed, refused⟩ := Bool.and_eq_true_iff.mp stops
    obtain ⟨e, refused⟩ := Option.isSome_iff_exists.mp refused
    refine ⟨before, op, later, e, split, needed, probe?_eq_some.mp refused, ?_⟩
    intro earlier inside needed'
    have free := passed earlier inside
    rw [← probe?_eq_none]
    simpa [needed'] using free

theorem program?_of_mem_probeRequests {request : LoaderRequest} (h : request ∈ r.probeRequests op) :
    request.program? = some op.program := by
  unfold probeRequests at h
  split at h
  · cases h
  · obtain rfl := List.mem_singleton.mp h
    rfl
  · obtain rfl | second := List.mem_cons.mp h
    · rfl
    · obtain rfl := List.mem_singleton.mp second
      rfl

theorem Denies.ne_nothingAttached (h : r.Denies op e) : e ≠ .nothingAttached := by
  cases h <;> simp

theorem Denies.not_grants (h : r.Denies op e) : ¬ r.Grants op := by
  intro granted
  have refused := probe?_of_denies h
  rw [probe?_of_grants granted] at refused
  cases refused

/-- Of the operations behind the one that ends it no program is asked for. -/
theorem FirstDenied.program?_ne {before later : List Operation} (h : r.FirstDenied before op later e)
    {request : LoaderRequest} (made : request ∈ (before ++ [op]).flatMap r.probeRequests)
    {next : Operation} (behind : next ∈ later) : request.program? ≠ some next.program := by
  obtain ⟨own, tried, made⟩ := List.mem_flatMap.mp made
  rw [program?_of_mem_probeRequests made]
  intro same
  have equal : some own = some next := by
    rw [← own.ofProgram?_program, Option.some.inj same, next.ofProgram?_program]
  have once : ((before ++ [op]) ++ later).Nodup := by
    rw [List.append_assoc, List.singleton_append, ← h.split]
    exact Operation.nodup_all
  exact List.disjoint_of_nodup_append once tried (Option.some.inj equal ▸ behind)

/-- What becomes of operations that are all tried. -/
def attachment (r : Refusals) (ops : List Operation) : Attachment where
  attached := ops.filter fun op => (r.probe? op).isNone
  skipped := ops.filterMap fun op => (r.probe? op).map fun e => (op, e)

theorem mem_attached {ops : List Operation} :
    op ∈ (r.attachment ops).attached ↔ op ∈ ops ∧ r.Grants op := by
  simp [attachment, probe?_eq_none]

theorem mem_skipped {ops : List Operation} :
    (op, e) ∈ (r.attachment ops).skipped ↔ op ∈ ops ∧ r.Denies op e := by
  simp [attachment, probe?_eq_some]

theorem attachment_skipped (r : Refusals) (ops : List Operation) :
    (r.attachment ops).skipped.map Prod.fst = ops.filter fun op => ! (r.probe? op).isNone := by
  induction ops with
  | nil => rfl
  | cons op ops ih =>
    cases refused : r.probe? op <;> simp_all [attachment]

/-- Every operation is attached or skipped, and none is both. -/
theorem attachment_perm (r : Refusals) (ops : List Operation) :
    ((r.attachment ops).attached ++ (r.attachment ops).skipped.map Prod.fst).Perm ops := by
  rw [attachment_skipped]
  exact List.filter_append_perm _ ops

theorem attachment_append (r : Refusals) (ops ops' : List Operation) :
    r.attachment (ops ++ ops') = (r.attachment ops).followedBy (r.attachment ops') := by
  simp [attachment, Attachment.followedBy]

theorem attachment_of_none (h : r.probe? op = .none) : r.attachment [op] = ⟨[op], []⟩ := by
  simp [attachment, h]

theorem attachment_of_some (h : r.probe? op = some e) : r.attachment [op] = ⟨[], [(op, e)]⟩ := by
  simp [attachment, h]

/-! Of all operations each one has its place, in the order of the tags. -/

theorem attached_sorted (r : Refusals) :
    (r.attachment Operation.all).attached.Pairwise fun op op' => op.tag < op'.tag :=
  Operation.tags_sorted.sublist List.filter_sublist

theorem skipped_sorted (r : Refusals) :
    ((r.attachment Operation.all).skipped.map Prod.fst).Pairwise fun op op' => op.tag < op'.tag := by
  rw [attachment_skipped]
  exact Operation.tags_sorted.filter _

theorem attached_disjoint_skipped (r : Refusals) :
    (r.attachment Operation.all).attached.Disjoint
      ((r.attachment Operation.all).skipped.map Prod.fst) :=
  List.disjoint_of_nodup_append
    ((r.attachment_perm Operation.all).nodup_iff.mpr Operation.nodup_all)

theorem count_attachment (r : Refusals) (op : Operation) :
    ((r.attachment Operation.all).attached ++
      (r.attachment Operation.all).skipped.map Prod.fst).count op = 1 := by
  rw [(r.attachment_perm Operation.all).count_eq]
  exact List.count_eq_one_of_mem Operation.nodup_all op.mem_all

/-- Where all that must have a probe are granted one, the others alone can be skipped. -/
theorem optional_of_denies (granted : ∀ op : Operation, op.portable → r.Grants op)
    (h : r.Denies op e) : op = .recv ∨ op = .send := by
  rw [← op.optional_iff]
  by_contra needed
  exact h.not_grants (granted op (by simpa using needed))

end Refusals

end Kernel

/-! ### One operation after the other -/

namespace World

/-- What was asked of the kernel, in order. -/
def requests (w : World) : List Kernel.LoaderRequest :=
  w.effects.reverse.filterMap fun
    | .request r => some r
    | _ => none

/-- The world after requests to the kernel. -/
def asked (w : World) (requests : List Kernel.LoaderRequest) : World :=
  { w with effects := (requests.map Effect.request).reverse ++ w.effects }

/-- The world after a notice. -/
def noticed (w : World) (level : NoticeLevel) (text : String) : World :=
  { w with effects := .notice level text :: w.effects }

theorem requests_asked (w : World) (requests : List Kernel.LoaderRequest) :
    (w.asked requests).requests = w.requests ++ requests := by
  simp [World.requests, asked, List.filterMap_map]

theorem requests_noticed (w : World) (level : NoticeLevel) (text : String) :
    (w.noticed level text).requests = w.requests := by
  simp [World.requests, noticed]

/-- From one world to the next these operations were tried, in this order: nothing but their probes
was asked for, and those that were granted are attached. -/
structure Tried (w : World) (ops : List Operation) (w' : World) : Prop where
  refusals : w'.kernel.refusals = w.kernel.refusals
  attached : w'.kernel.attached =
    w.kernel.attached ++ (w.kernel.refusals.attachment ops).attached
  requests : w'.requests = w.requests ++ ops.flatMap w.kernel.refusals.probeRequests

namespace Tried

variable {w w' w'' : World} {ops ops' : List Operation} {op : Operation}

theorem nil (w : World) : w.Tried [] w :=
  ⟨rfl, (List.append_nil _).symm, (List.append_nil _).symm⟩

theorem trans (first : w.Tried ops w') (second : w'.Tried ops' w'') :
    w.Tried (ops ++ ops') w'' where
  refusals := second.refusals.trans first.refusals
  attached := by
    rw [second.attached, first.attached, first.refusals, List.append_assoc,
      Kernel.Refusals.attachment_append]
    rfl
  requests := by
    rw [second.requests, first.requests, first.refusals, List.append_assoc, List.flatMap_append]

theorem granted (h : w.kernel.refusals.probe? op = none) (level : NoticeLevel) (text : String) :
    w.Tried [op] (((w.asked (w.kernel.refusals.probeRequests op)).modifyKernel fun k =>
      k.attach op).noticed level text) where
  refusals := rfl
  attached := by
    simp [Kernel.Refusals.attachment, h, noticed, modifyKernel, Kernel.Host.attach, asked]
  requests := by
    have kept (w : World) : (w.modifyKernel fun k => k.attach op).requests = w.requests := rfl
    rw [requests_noticed, kept, requests_asked, List.flatMap_singleton]

theorem denied {e : ProbeError} (h : w.kernel.refusals.probe? op = some e) :
    w.Tried [op] (w.asked (w.kernel.refusals.probeRequests op)) where
  refusals := rfl
  attached := by simp [Kernel.Refusals.attachment, h, asked]
  requests := by rw [requests_asked, List.flatMap_singleton]

theorem noticed (h : w.Tried ops w') (level : NoticeLevel) (text : String) :
    w.Tried ops (w'.noticed level text) where
  refusals := h.refusals
  attached := h.attached
  requests := (requests_noticed w' level text).trans h.requests

end Tried

end World

namespace Run

variable {w : World} {op : Operation} {before later : List Operation} {e : ProbeError}

theorem result_bind_pure {α β : Type} (x : Run α) (f : α → β) (w : World) :
    result (x >>= fun a => pure (f a)) w = ((result x w).1.map f, (result x w).2) := by
  rw [result_bind]
  rcases result x w with ⟨_ | _, w'⟩ <;> rfl

theorem result_request (requests : List Kernel.LoaderRequest) (w : World) :
    result (requests.forM request) w = (.ok (), w.asked requests) := by
  induction requests generalizing w with
  | nil => rfl
  | cons first rest ih =>
    have first_then : result ((first :: rest).forM request) w =
        result (rest.forM request) { w with effects := .request first :: w.effects } :=
      result_bind_of_ok (result_emit _ w) _
    rw [first_then, ih]
    simp [World.asked]

theorem result_notice (level : NoticeLevel) (text : String) (w : World) :
    result (notice level text) w = (.ok (), w.noticed level text) := rfl

theorem result_modifyKernel (change : Kernel.Host → Kernel.Host) (w : World) :
    result (modifyKernel change) w = (.ok (), w.modifyKernel change) := rfl

/-- An operation that gets its probe, or may go without, lets the next ones be tried. -/
theorem result_attachAll_cons (passes : op.portable → w.kernel.refusals.Grants op)
    (rest : List Operation) : ∃ w', w.Tried [op] w' ∧ result (attachAll (op :: rest)) w =
      ((result (attachAll rest) w').1.map (w.kernel.refusals.attachment [op]).followedBy,
        (result (attachAll rest) w').2) := by
  have asking := result_request (w.kernel.refusals.probeRequests op) w
  cases refused : w.kernel.refusals.probe? op with
  | none =>
    refine ⟨_, .granted refused .info s!"✓ Attached tracepoint: syscalls/{op.tracepoint}", ?_⟩
    rw [attachAll, result_bind_of_ok (result_get w), result_bind_of_ok asking]
    simp only [refused]
    rw [result_bind_of_ok (result_modifyKernel _ _), result_bind_of_ok (result_notice _ _ _),
      result_bind_pure, Kernel.Refusals.attachment_of_none refused]
    rfl
  | some e =>
    have optional : op.portable = false := by
      cases portable : op.portable with
      | false => rfl
      | true =>
        rw [Kernel.Refusals.probe?_of_grants (passes portable)] at refused
        cases refused
    have tried := World.Tried.denied refused
    refine ⟨_, tried.noticed .warn s!"⚠️  Skipping {op.name}: {e.message}", ?_⟩
    rw [attachAll, result_bind_of_ok (result_get w), result_bind_of_ok asking]
    simp only [refused, optional, Bool.false_eq_true, if_false]
    rw [result_bind_of_ok (result_notice _ _ _), result_bind_pure,
      Kernel.Refusals.attachment_of_some refused]
    rfl

/-- So do several of them. -/
theorem result_attachAll_append {before : List Operation}
    (pass : ∀ op ∈ before, op.portable → w.kernel.refusals.Grants op) (later : List Operation) :
    ∃ w', w.Tried before w' ∧ result (attachAll (before ++ later)) w =
      ((result (attachAll later) w').1.map (w.kernel.refusals.attachment before).followedBy,
        (result (attachAll later) w').2) := by
  induction before generalizing w with
  | nil =>
    refine ⟨w, .nil w, ?_⟩
    rw [List.nil_append]
    rcases result (attachAll later) w with ⟨_ | _, _⟩ <;> rfl
  | cons op before ih =>
    obtain ⟨w₁, tried, first⟩ :=
      result_attachAll_cons (pass op List.mem_cons_self) (before ++ later)
    obtain ⟨w₂, tried', others⟩ := ih fun op inside => by
      rw [tried.refusals]
      exact pass op (List.mem_cons_of_mem _ inside)
    have both : w.kernel.refusals.attachment (op :: before) = _ :=
      w.kernel.refusals.attachment_append [op] before
    refine ⟨w₂, tried.trans tried', ?_⟩
    rw [List.cons_append, first, others, tried.refusals, both]
    rcases result (attachAll later) w₂ with ⟨_ | a, _⟩
    · rfl
    · simp only [Except.map, Attachment.followedBy_assoc]

/-- If no operation that must have a probe is denied one, all are tried. -/
theorem result_attachAll_of_grants {ops : List Operation}
    (pass : ∀ op ∈ ops, op.portable → w.kernel.refusals.Grants op) :
    ∃ w', w.Tried ops w' ∧
      result (attachAll ops) w = (.ok (w.kernel.refusals.attachment ops), w') := by
  obtain ⟨w', tried, ended⟩ := result_attachAll_append pass []
  have nothing : result (attachAll []) w' = (.ok ⟨[], []⟩, w') := rfl
  rw [List.append_nil, nothing] at ended
  refine ⟨w', tried, ended.trans ?_⟩
  simp [Except.map, Attachment.followedBy]

/-- The first denial that matters ends it. -/
theorem result_attachAll_of_denies {before : List Operation}
    (pass : ∀ op ∈ before, op.portable → w.kernel.refusals.Grants op) (needed : op.portable)
    (denied : w.kernel.refusals.Denies op e) (later : List Operation) :
    ∃ w', w.Tried (before ++ [op]) w' ∧
      result (attachAll (before ++ op :: later)) w = (.error (.attaching e), w') := by
  obtain ⟨w₁, tried, ended⟩ := result_attachAll_append pass (op :: later)
  have refused := Kernel.Refusals.probe?_of_denies denied
  rw [← tried.refusals] at refused
  have stopped : result (attachAll (op :: later)) w₁ =
      (.error (.attaching e), w₁.asked (w₁.kernel.refusals.probeRequests op)) := by
    rw [attachAll, result_bind_of_ok (result_get w₁),
      result_bind_of_ok (result_request (w₁.kernel.refusals.probeRequests op) w₁)]
    simp only [refused, needed, if_true]
    rfl
  rw [stopped] at ended
  exact ⟨_, tried.trans (.denied refused), ended⟩

/-! ### All operations -/

/-- The end of trying all operations: what became of all, or the first denial that matters. -/
theorem result_attachAll_all (w : World) :
    (∀ op : Operation, op.portable → w.kernel.refusals.Grants op) ∧
        (∃ w', w.Tried Operation.all w' ∧ result (attachAll Operation.all) w =
          (.ok (w.kernel.refusals.attachment Operation.all), w')) ∨
      ∃ before op later e w', w.kernel.refusals.FirstDenied before op later e ∧
        w.Tried (before ++ [op]) w' ∧
        result (attachAll Operation.all) w = (.error (.attaching e), w') := by
  obtain granted | ⟨before, op, later, e, first⟩ := w.kernel.refusals.all_granted_or_firstDenied
  · exact .inl ⟨granted, result_attachAll_of_grants fun op _ => granted op⟩
  · obtain ⟨w', tried, ended⟩ :=
      result_attachAll_of_denies first.earlier first.needed first.denied later
    rw [← first.split] at ended
    exact .inr ⟨before, op, later, e, w', first, tried, ended⟩

/-- There is always a probe, as there are operations that must have one. -/
theorem result_attachProbes (w : World) :
    result attachProbes w = result (attachAll Operation.all) w := by
  unfold attachProbes
  obtain ⟨granted, w', -, ended⟩ | ⟨before, op, later, e, w', -, -, ended⟩ := result_attachAll_all w
  · have write : Operation.write ∈ (w.kernel.refusals.attachment Operation.all).attached :=
      Kernel.Refusals.mem_attached.mpr ⟨Operation.mem_all _, granted .write rfl⟩
    have filled : (w.kernel.refusals.attachment Operation.all).attached.isEmpty = false := by
      simpa using List.ne_nil_of_mem write
    rw [result_bind_of_ok ended, filled, ended]
    rfl
  · rw [result_bind_of_error ended, ended]

/-- Probes are attached to all operations that must have one, or the first of them that is denied
one ends it and none behind it is asked for. In the end every operation is either attached or
skipped, in the order of the tags, and only the two that may go without are skipped, each with the
error that it met. -/
theorem attached_or_stopped (w : World) :
    let r := w.kernel.refusals
    let ended := result attachProbes w
    ((∃ a, ended.1 = .ok a) ↔ ∀ op : Operation, op.portable → r.Grants op) ∧
      (∀ a, ended.1 = .ok a →
        a.attached.Pairwise (fun op op' => op.tag < op'.tag) ∧
        (a.skipped.map Prod.fst).Pairwise (fun op op' => op.tag < op'.tag) ∧
        a.attached.Disjoint (a.skipped.map Prod.fst) ∧
        (∀ op, (a.attached ++ a.skipped.map Prod.fst).count op = 1) ∧
        (∀ op, op ∈ a.attached ↔ r.Grants op) ∧
        (∀ op e, (op, e) ∈ a.skipped → (op = .recv ∨ op = .send) ∧ r.Denies op e) ∧
        ended.2.kernel.attached = w.kernel.attached ++ a.attached) ∧
      (∀ f, ended.1 = .error f → ∃ before op later e, r.FirstDenied before op later e ∧
        f = .attaching e ∧ w.Tried (before ++ [op]) ended.2 ∧
        ∀ request ∈ (before ++ [op]).flatMap r.probeRequests, ∀ next ∈ later,
          request.program? ≠ some next.program) ∧
      ended.1 ≠ .error (.attaching .nothingAttached) := by
  intro r ended
  have all : ended = result (attachAll Operation.all) w := result_attachProbes w
  obtain ⟨granted, w', tried, gave⟩ | ⟨before, op, later, e, w', first, tried, failed⟩ :=
    result_attachAll_all w
  · rw [gave] at all
    rw [all]
    refine ⟨⟨fun _ => granted, fun _ => ⟨_, rfl⟩⟩, ?_, ?_, ?_⟩
    · rintro a ⟨⟩
      refine ⟨r.attached_sorted, r.skipped_sorted, r.attached_disjoint_skipped, r.count_attachment,
        fun op => ?_, fun op e skipped => ?_, tried.attached⟩
      · rw [Kernel.Refusals.mem_attached, and_iff_right op.mem_all]
      · have denied := (Kernel.Refusals.mem_skipped.mp skipped).2
        exact ⟨Kernel.Refusals.optional_of_denies granted denied, denied⟩
    · rintro f ⟨⟩
    · rintro ⟨⟩
  · rw [failed] at all
    rw [all]
    refine ⟨⟨?_, ?_⟩, ?_, ?_, ?_⟩
    · rintro ⟨a, ⟨⟩⟩
    · exact fun granted => absurd (granted op first.needed) first.denied.not_grants
    · rintro a ⟨⟩
    · rintro f ⟨⟩
      exact ⟨before, op, later, e, first, rfl, tried,
        fun request made next behind => first.program?_ne made behind⟩
    · rintro ⟨⟩
      exact first.denied.ne_nothingAttached rfl

/-- Without a tracepoint for `recv` that operation alone is skipped. -/
theorem attached_without_recv :
    let w : World := {
      machine := ⟨none, none, 0, 1, 4096, ⟨[], []⟩⟩
      kernel := Kernel.Host.fresh
        { Kernel.Refusals.none with tracepoints := [("sys_enter_recv", noSuchFile)] }
        (.empty 4096 1 Operation.number ProbeStat.number)
      gateway := fun _ => .unreachable
      effects := []
      looks := 0 }
    ∃ a, (result attachProbes w).1 = .ok a ∧ .send ∈ a.attached ∧
      ∀ op e, (op, e) ∈ a.skipped →
        op = .recv ∧ e = .notAttached "tap_recv" "sys_enter_recv" noSuchFile := by
  intro w
  have granted (op : Operation) (other : op ≠ .recv) : w.kernel.refusals.Grants op := by
    refine ⟨List.not_mem_nil, rfl, rfl, ?_⟩
    revert other
    cases op <;> decide
  obtain ⟨succeeds, reported, -⟩ := attached_or_stopped w
  obtain ⟨a, gave⟩ := succeeds.mpr fun op needed => granted op <| by
    rintro rfl
    cases needed
  obtain ⟨-, -, -, -, attached, skipped, -⟩ := reported a gave
  refine ⟨a, gave, (attached .send).mpr (granted .send (by decide)), fun op e inside => ?_⟩
  have denied := (skipped op e inside).2
  have own : op = .recv := by
    by_contra other
    exact denied.not_grants (granted op other)
  subst own
  have refused := Kernel.Refusals.probe?_of_denies denied
  exact ⟨rfl, Option.some.inj (refused.symm.trans (by decide))⟩

end Run

end SyscallMeter
