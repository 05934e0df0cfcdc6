import SyscallMeter.Proofs.Kernel.Probe
import SyscallMeter.Proofs.Kernel.Slots

/-! A kernel in use. Probes run for calls of any process, on any processor and any memory, and in
between the event ring is read and its room changes. What the maps hold at any time follows from the
outcomes of the calls so far. -/
namespace SyscallMeter.Kernel

/-- One thing that happens in a kernel. Nothing is assumed of the room in the event ring: it may
change before any call, so every reservation may be granted or refused. -/
inductive KernelStep
  /-- The probe of an operation runs for a call of a process with this memory. -/
  | probe (op : Operation) (entry : Entry) (memory : Memory)
  /-- The oldest entry is taken out of the event ring. -/
  | take
  | room (size used : Nat)

namespace KernelStep

/-- The call of a step, with what can be read of its process. -/
def invocation? : KernelStep → Option Invocation
  | probe op e memory => some (e.invocation op memory.reader)
  | _ => none

end KernelStep

/-- A kernel, and the entries that were taken out of its event ring so far. -/
structure Session where
  host : Host
  taken : List EventQueue.Entry

namespace Session

/-- A kernel with empty maps whose declared slots can all be looked up. -/
def fresh (g : Globals) (ringBytes processors : Nat) : Session where
  host := { Host.fresh .none (Maps.empty ringBytes processors Operation.number ProbeStat.number) with
    globals := g }
  taken := []

def setEvents (s : Session) (events : EventQueue) : Session :=
  { s with host := { s.host with maps := { s.host.maps with events } } }

def step (s : Session) : KernelStep → Session
  | .probe op e memory => { s with host := ({ s.host with memory } : Host).probed op e }
  | .take =>
    match s.host.maps.events.pop? with
    | none => s
    | some (entry, events) => { s.setEvents events with taken := s.taken ++ [entry] }
  | .room size used => s.setEvents { s.host.maps.events with size, used }

def run (s : Session) (steps : List KernelStep) : Session := steps.foldl step s

/-- The calls of a run, and whether the event ring granted what they asked of it. -/
def trace (s : Session) : List KernelStep → List (Invocation × Bool)
  | [] => []
  | .probe op e memory :: rest =>
    (e.invocation op memory.reader,
        (runProbe s.host.globals memory.reader op e s.host.maps).granted) ::
      (s.step (.probe op e memory)).trace rest
  | step :: rest => (s.step step).trace rest

/-- How the calls of a run end. -/
def ends (s : Session) (settings : ProbeSettings) (steps : List KernelStep) : List Outcome :=
  (s.trace steps).map fun (i, granted) => i.outcome settings granted

/-- Every entry that was left in the event ring, in order. -/
def entries (s : Session) : List EventQueue.Entry := s.taken ++ s.host.maps.events.toList

/-- The records that were submitted to the event ring, in order. -/
def submitted (s : Session) : List Octets :=
  (s.entries.filter fun entry => ! entry.discarded).map (·.bytes)

theorem trace_fst (s : Session) (steps : List KernelStep) :
    (s.trace steps).map (·.1) = steps.filterMap KernelStep.invocation? := by
  induction steps generalizing s with
  | nil => rfl
  | cons step rest ih =>
    cases step with
    | probe op e memory => exact congrArg (_ :: ·) (ih _)
    | take => exact ih _
    | room size used => exact ih _

/-! ### What the outcomes decide -/

/-- What the event ring and the totals hold after calls that ended in these ways. Each transport
leaves the map of the other one alone. -/
def Published (mode : Mode) (entries : List EventQueue.Entry) (totals : TotalsTable)
    (outcomes : List Outcome) : Prop :=
  match mode with
  | .stream => entries = outcomes.filterMap Outcome.residue? ∧ totals = TotalsTable.empty
  | .counters =>
    entries = [] ∧
      totals = (outcomes.filterMap Outcome.event?).foldl TotalsTable.add TotalsTable.empty

theorem Published.append {mode : Mode} {entries entries' : List EventQueue.Entry}
    {totals totals' : TotalsTable} {outcomes : List Outcome} {o : Outcome}
    (before : Published mode entries totals outcomes)
    (stream : mode = .stream → entries' = entries ++ o.residue?.toList ∧ totals' = totals)
    (counters : mode = .counters →
      entries' = entries ∧ totals' = o.event?.toList.foldl TotalsTable.add totals) :
    Published mode entries' totals' (outcomes ++ [o]) := by
  have last {α : Type} (f : Outcome → Option α) :
      (outcomes ++ [o]).filterMap f = outcomes.filterMap f ++ (f o).toList := by
    cases made : f o <;> simp [made]
  cases mode with
  | stream =>
    obtain ⟨left, same⟩ := stream rfl
    exact ⟨by rw [left, before.1, last], same.trans before.2⟩
  | counters =>
    obtain ⟨same, added⟩ := counters rfl
    exact ⟨same.trans before.1, by rw [added, before.2, last, List.foldl_append]⟩

/-- What a kernel holds after calls that ended in these ways. -/
structure Follows (s : Session) (g : Globals) (processors : Nat) (outcomes : List Outcome) :
    Prop where
  globals : s.host.globals = g
  refusals : s.host.refusals = .none
  length_stats : s.host.maps.stats.length = processors
  statSlots : s.host.maps.statSlots = ProbeStat.number
  totalSlots : s.host.maps.totalSlots = Operation.number
  counts : 0 < processors → ∀ stat,
    (s.host.maps.statOf stat).sum = (outcomes.map (·.raises stat)).sum
  published : Published (Mode.ofByte g.mode) s.entries s.host.maps.totals outcomes

variable {s : Session} {g : Globals} {processors : Nat} {outcomes : List Outcome}

theorem follows_fresh (g : Globals) (ringBytes processors : Nat) :
    (fresh g ringBytes processors).Follows g processors [] where
  globals := rfl
  refusals := rfl
  length_stats := List.length_replicate
  statSlots := rfl
  totalSlots := rfl
  counts _ stat := by
    have zeros : (fresh g ringBytes processors).host.maps.statOf stat =
        List.replicate processors 0 := by
      have zero : (Vector.replicate ProbeStat.number 0).get stat.index = 0 :=
        Vector.getElem_replicate stat.index.isLt
      simp only [fresh, Host.fresh, Maps.empty, Maps.statOf, List.map_replicate, zero]
    rw [zeros, List.sum_replicate_nat]
    rfl
  published := by cases Mode.ofByte g.mode <;> exact ⟨rfl, rfl⟩

/-- The event ring may change as long as no entry is lost. -/
theorem Follows.setEvents (h : s.Follows g processors outcomes) {events : EventQueue}
    {taken : List EventQueue.Entry} (kept : taken ++ events.toList = s.entries) :
    { s.setEvents events with taken }.Follows g processors outcomes where
  globals := h.globals
  refusals := h.refusals
  length_stats := h.length_stats
  statSlots := h.statSlots
  totalSlots := h.totalSlots
  counts := h.counts
  published := by
    have published := h.published
    rw [← kept] at published
    exact published

theorem Follows.take (h : s.Follows g processors outcomes) :
    (s.step .take).Follows g processors outcomes := by
  simp only [step]
  split
  · exact h
  · rename_i entry events popped
    refine h.setEvents ?_
    rw [entries, EventQueue.toList_pop popped, List.append_assoc, List.singleton_append]

theorem Follows.hasTotals (h : s.Follows g processors outcomes) (op : Operation) :
    s.host.maps.hasTotals op := by
  simp only [Maps.hasTotals, h.totalSlots, decide_eq_true_eq, op.index.isLt]

/-- A call leaves what its outcome tells. -/
theorem Follows.probe (h : s.Follows g processors outcomes) (op : Operation) (e : Entry)
    (memory : Memory) :
    let run := runProbe g memory.reader op e s.host.maps
    (s.step (.probe op e memory)).Follows g processors
      (outcomes ++ [(e.invocation op memory.reader).outcome g.settings run.granted]) := by
  intro run
  let o := (e.invocation op memory.reader).outcome g.settings run.granted
  have after : (s.step (.probe op e memory)).host.maps = run.maps := by
    simp only [step, Host.probed, Host.probeRun, h.globals, run]
  obtain ⟨events, totals, maps, stream, counters⟩ :=
    runProbe_maps g memory.reader op e s.host.maps (h.hasTotals op)
  obtain ⟨length_stats, statSlots, totalSlots⟩ :=
    s.host.maps.counted_slots e.processor o
  refine
    { globals := h.globals, refusals := h.refusals
      length_stats := ?_, statSlots := ?_, totalSlots := ?_, counts := ?_, published := ?_ }
  · rw [after, maps]
    exact length_stats.trans h.length_stats
  · rw [after, maps]
    exact statSlots.trans h.statSlots
  · rw [after, maps]
    exact totalSlots.trans h.totalSlots
  · intro some_processor stat
    rw [after, maps, List.map_append, List.sum_append, ← h.counts some_processor stat]
    rw [← h.length_stats] at some_processor
    exact s.host.maps.sum_statOf_counted e.processor o stat some_processor h.statSlots
  · have entries : (s.step (.probe op e memory)).entries = s.taken ++ events.toList := by
      rw [Session.entries, after, maps]
      rfl
    rw [after, maps, entries]
    refine h.published.append (fun mode => ?_) (fun mode => ?_)
    · obtain ⟨left, same⟩ := stream mode
      exact ⟨by rw [left, Session.entries, List.append_assoc], same⟩
    · obtain ⟨rfl, added⟩ := counters mode
      exact ⟨rfl, added⟩

theorem Follows.run (h : s.Follows g processors outcomes) (steps : List KernelStep) :
    (s.run steps).Follows g processors (outcomes ++ s.ends g.settings steps) := by
  induction steps generalizing s outcomes with
  | nil => simpa [Session.run, ends, trace] using h
  | cons step rest ih =>
    cases step with
    | probe op e memory =>
      have next := ih (h.probe op e memory)
      simpa [Session.run, ends, trace, h.globals] using next
    | take => exact ih h.take
    | room size used => exact ih (h.setEvents rfl)

/-- Through the totals every call finds room. -/
theorem Follows.ends_counters (h : s.Follows g processors outcomes)
    (mode : Mode.ofByte g.mode = .counters) (steps : List KernelStep) :
    s.ends g.settings steps =
      (steps.filterMap KernelStep.invocation?).map (·.verdict g.settings) := by
  induction steps generalizing s outcomes with
  | nil => rfl
  | cons step rest ih =>
    cases step with
    | probe op e memory =>
      obtain ⟨away, -⟩ := runProbe_counters mode memory.reader op e s.host.maps (h.hasTotals op)
      have room := ProbeRun.granted_of_usesEvents away
      have others := ih (h.probe op e memory)
      unfold ends at others ⊢
      simp only [trace, h.globals, List.map_cons, room, Invocation.outcome_of_room, others,
        KernelStep.invocation?, List.filterMap_cons]
    | take => exact ih h.take
    | room size used => exact ih (h.setEvents rfl)

theorem Follows.readTotals (h : s.Follows g processors outcomes) :
    s.host.readTotals = .ok s.host.maps.totals := by
  have granted : Refusals.none.firstSlots? totalsMap Operation.number = none := by decide
  rw [Host.readTotals_eq, h.refusals, granted]

theorem Follows.published_stream (h : s.Follows g processors outcomes)
    (mode : Mode.ofByte g.mode = .stream) :
    s.entries = outcomes.filterMap Outcome.residue? ∧ s.host.maps.totals = TotalsTable.empty := by
  have published := h.published
  rw [mode] at published
  exact published

theorem Follows.published_counters (h : s.Follows g processors outcomes)
    (mode : Mode.ofByte g.mode = .counters) :
    s.entries = [] ∧ s.host.maps.totals =
      (outcomes.filterMap Outcome.event?).foldl TotalsTable.add TotalsTable.empty := by
  have published := h.published
  rw [mode] at published
  exact published

/-- The records that were submitted are the encoded events. -/
theorem Follows.submitted_stream (h : s.Follows g processors outcomes)
    (mode : Mode.ofByte g.mode = .stream) :
    s.submitted = (outcomes.filterMap Outcome.event?).map Event.encode := by
  obtain ⟨entries, -⟩ := h.published_stream mode
  rw [submitted, entries]
  exact Outcome.records_eq_events outcomes

end Session

end SyscallMeter.Kernel
