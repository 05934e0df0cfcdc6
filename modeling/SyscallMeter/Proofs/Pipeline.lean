import SyscallMeter.Proofs.Handler
import SyscallMeter.Proofs.Ring.Room
import SyscallMeter.Proofs.Tally

/-! Probes that send events through a ring to one tally, which takes them out at any time. Whatever
the calls were, what the tally holds after a last drain are the events that the calls emitted. -/
namespace SyscallMeter
open RingBlock

/-- One step of a measured run: a call, with what can be read of its process at that time, or a
drain of the ring. -/
inductive PipelineStep
  | call (call : Call) (reader : Reader)
  | drain

/-- A run so far. -/
structure Pipeline (c : RingCapacity) where
  ring : Ring c
  tally : Tally
  /-- The outcomes of the calls in their order. -/
  outcomes : List Outcome
  /-- What the tally made of the records that it was given, in their order. -/
  ingested : List (Except RecordError Event)

namespace Pipeline

variable {c : RingCapacity}

def fresh (c : RingCapacity) : Pipeline c := ⟨Ring.empty c, Tally.empty, [], []⟩

def step (settings : ProbeSettings) (p : Pipeline c) : PipelineStep → Pipeline c
  | .call call reader =>
    let handled := handle (Ring.transport c) settings reader call p.ring
    { p with ring := handled.state, outcomes := p.outcomes ++ [handled.outcome] }
  | .drain =>
    match p.ring.claim? with
    | none => p
    | some ring =>
      let (records, ring) := ring.drain
      let (ingested, tally) := p.tally.ingestAll records
      { p with ring := ring.release, tally := tally, ingested := p.ingested ++ ingested }

def run (settings : ProbeSettings) (p : Pipeline c) (steps : List PipelineStep) : Pipeline c :=
  steps.foldl (step settings) p

/-- The events that the calls emitted. -/
def emitted (p : Pipeline c) : List Event := p.outcomes.filterMap Outcome.event?

end Pipeline

namespace Ring

variable {c : RingCapacity} {r : Ring c} {front : List RingBlock} {w : RingWindow}

/-- A reservation appends a record that holds back nothing in front of it. -/
theorem claims_split (r : Ring c) (length : Nat) : ∃ gap,
    r.claims length = gap ++ [.record ⟨⟨r.producer + r.padding (footprintWords length), length⟩,
      none⟩ (List.replicate length 0)] ∧ deliverable gap = [] ∧ held gap = [] := by
  refine ⟨_, rfl, ?_, ?_⟩ <;> split <;> rfl

/-- What one call leaves in the ring: its event behind those that were there, or nothing. -/
structure Adds (r s : Ring c) (front : List RingBlock) (event? : Option Event) : Prop where
  same_claim : s.claimed = r.claimed
  layout : ∃ blocks, s.Layout blocks ∧ held blocks = [] ∧
    deliverable blocks = deliverable front ++ event?.toList.map Event.encode

theorem adds_self (h : r.Layout front) (complete : held front = []) : Adds r r front none :=
  ⟨rfl, front, h, complete, by simp⟩

/-- A window that is ended leaves its event if it was written and committed. -/
theorem finish_adds (op : Operation) (measured : Traced UInt32)
    (h : r.Layout (front ++ [.record ⟨w, none⟩ (List.replicate Event.recordSize 0)]))
    (complete : held front = []) :
    Adds r (finish (Ring.transport c) op measured w r).state front
      (finish (Ring.transport c) op measured w r).outcome.event? := by
  obtain ⟨accesses, answer⟩ := measured
  cases answer with
  | ok length =>
    have written := h.write (Event.encode ⟨op, length⟩)
    rw [Octets.overwrite_eq_self (by simp)] at written
    have committed := written.finish .commit
    refine ⟨?_, _, committed, ?_, ?_⟩
    · simp [finish, Ring.transport, commit, setHeader, setWord, write]
    · rw [held_append complete]
      rfl
    · rw [deliverable_append complete]
      simp [finish, deliverable, Ending.publishes, Outcome.event?]
  | error obstacle =>
    have discarded := h.finish .discard
    refine ⟨rfl, _, discarded, ?_, ?_⟩
    · rw [held_append complete]
      rfl
    · rw [deliverable_append complete]
      simp [finish, deliverable, Ending.publishes, Outcome.event?]

/-- A call whose windows before it are all ended adds the event that it emits, and only that. -/
theorem handle_adds (h : r.Layout front) (complete : held front = []) (settings : ProbeSettings)
    (reader : Reader) (call : Call) :
    Adds r (handle (Ring.transport c) settings reader call r).state front
      (handle (Ring.transport c) settings reader call r).outcome.event? := by
  by_cases admitted : settings.target.admits call.caller
  · cases granted : r.reserve? Event.recordSize with
    | none =>
      simpa [handle, admitted, Ring.transport, granted, Outcome.event?] using adds_self h complete
    | some reserved =>
      obtain ⟨w, s⟩ := reserved
      obtain ⟨-, -, rfl, -, -, claim, -⟩ := reserve?_eq_some granted
      obtain ⟨gap, claims, nothing, gap_complete⟩ := r.claims_split Event.recordSize
      have layout := h.reserve granted
      rw [claims, ← List.append_assoc] at layout
      have front_complete : held (front ++ gap) = [] := by rw [held_append complete, gap_complete]
      have same : deliverable (front ++ gap) = deliverable front := by
        rw [deliverable_append complete, nothing, List.append_nil]
      let measured := measure call.op.lengthSource call.arguments reader settings.policy
      obtain ⟨finished, blocks, left, done, records⟩ :=
        finish_adds call.op measured layout front_complete
      rw [same] at records
      simp only [handle, admitted, if_true]
      simp only [Ring.transport, granted] at finished left records ⊢
      exact ⟨finished.trans claim, blocks, left, done, records⟩
  · simpa [handle, admitted, Outcome.event?] using adds_self h complete

end Ring

namespace Pipeline

variable {c : RingCapacity} {p : Pipeline c} {counted pending : List Event}

/-- Of the emitted events some were counted, and the others wait in the ring behind each other. -/
structure Accounts (p : Pipeline c) (counted pending : List Event) : Prop where
  emitted : p.emitted = counted ++ pending
  ingested : p.ingested = counted.map .ok
  tally : p.tally = Tally.empty.addAll counted
  unclaimed : p.ring.claimed = false
  waiting : ∃ blocks, p.ring.Layout blocks ∧ held blocks = [] ∧
    deliverable blocks = pending.map Event.encode

/-- Nothing waits in the ring, all of its storage is free, and every emitted event was counted. -/
structure Idle (p : Pipeline c) : Prop where
  accounts : p.Accounts p.emitted []
  empty : p.ring.consumer = p.ring.producer

theorem accounts_fresh (c : RingCapacity) : (fresh c).Accounts [] [] :=
  ⟨rfl, rfl, rfl, rfl, [], Ring.Layout.empty c, rfl, rfl⟩

namespace Accounts

theorem call (h : p.Accounts counted pending) (settings : ProbeSettings) (call : Call)
    (reader : Reader) : ∃ more, (p.step settings (.call call reader)).Accounts counted more := by
  obtain ⟨blocks, layout, complete, records⟩ := h.waiting
  obtain ⟨claim, blocks', layout', complete', records'⟩ :=
    Ring.handle_adds layout complete settings reader call
  let event? := (handle (Ring.transport c) settings reader call p.ring).outcome.event?
  refine ⟨pending ++ event?.toList, ?_, h.ingested, h.tally, claim.trans h.unclaimed, blocks',
    layout', complete', ?_⟩
  · have before := h.emitted
    simp only [Pipeline.emitted] at before
    simp only [Pipeline.emitted, step, List.filterMap_append, before, List.append_assoc,
      List.append_cancel_left_eq, event?]
    rw [List.filterMap_cons, List.filterMap_nil]
    split <;> simp [*]
  · rw [records', records, List.map_append]

theorem drain (h : p.Accounts counted pending) (settings : ProbeSettings) :
    (p.step settings .drain).Idle := by
  obtain ⟨blocks, layout, complete, records⟩ := h.waiting
  have claimed : p.ring.claim? = some { p.ring with claimed := true } := by
    simp [Ring.claim?, h.unclaimed]
  have layout' : Ring.Layout { p.ring with claimed := true } blocks := layout.of_cursors rfl rfl rfl
  obtain ⟨taken, left⟩ := layout'.drain
  rw [records] at taken
  rw [complete] at left
  have emitted : (p.step settings .drain).emitted = counted ++ pending := by
    rw [← h.emitted]
    simp only [Pipeline.emitted, step, claimed]
  refine ⟨?_, ?_⟩
  · rw [emitted]
    simp only [step, claimed, taken, Tally.ingestAll_encode] at emitted ⊢
    refine ⟨emitted.trans (List.append_nil _).symm, ?_, ?_, rfl, [],
      left.of_cursors rfl rfl rfl, rfl, rfl⟩
    · rw [h.ingested, List.map_append]
    · rw [h.tally, Tally.addAll_append]
  · simp only [step, claimed]
    exact left.tiles

theorem run (h : p.Accounts counted pending) (settings : ProbeSettings)
    (steps : List PipelineStep) :
    ∃ counted' pending', (p.run settings steps).Accounts counted' pending' := by
  induction steps generalizing p counted pending with
  | nil => exact ⟨counted, pending, h⟩
  | cons step rest ih =>
    cases step with
    | call call reader =>
      obtain ⟨more, h'⟩ := h.call settings call reader
      exact ih h'
    | drain => exact ih (h.drain settings).accounts

end Accounts

theorem idle_run_drain (c : RingCapacity) (settings : ProbeSettings) (steps : List PipelineStep) :
    ((fresh c).run settings (steps ++ [.drain])).Idle := by
  obtain ⟨counted, pending, before⟩ := (accounts_fresh c).run settings steps
  rw [Pipeline.run, List.foldl_append]
  exact before.drain settings

/-! ### A ring that is drained after every call -/

theorem Idle.room (h : p.Idle) : (p.ring.reserve? Event.recordSize).isSome := by
  rw [Ring.reserve?_of_drained h.empty (by decide)]
  have holds := c.holds_record
  have below := Nat.mod_lt p.ring.producer c.words_pos
  simp only [Ring.footprintWords, payloadWords, maxRecordLength, Event.recordSize] at holds ⊢
  omega

theorem outcomes_drain (p : Pipeline c) (settings : ProbeSettings) :
    (p.step settings .drain).outcomes = p.outcomes := by
  simp only [step]
  split <;> rfl

namespace Idle

end Idle

end Pipeline

end SyscallMeter
