import Mathlib.Data.List.Forall2
import SyscallMeter.Proofs.Handler
import SyscallMeter.Proofs.Pipeline

/-! The same calls through both transports: a ring, which may lack room and is drained at any time,
and totals that are updated in place. They agree on every call that the ring had room for, and what
the totals have more than the tally of the ring are the events that the ring had no room for. -/
namespace SyscallMeter

def PipelineStep.invocation? : PipelineStep → Option Invocation
  | .call entered reader => some ⟨entered, reader⟩
  | .drain => none

instance : Add Totals := ⟨fun s t => ⟨s.calls + t.calls, s.bytes + t.bytes⟩⟩

namespace Totals

theorem add_def (s t : Totals) : s + t = ⟨s.calls + t.calls, s.bytes + t.bytes⟩ := rfl

theorem ofEvents_append (op : Operation) (first second : List Event) :
    ofEvents op (first ++ second) = ofEvents op first + ofEvents op second := by
  simp [ofEvents, add_def]

/-- Totals do not depend on the order of the events. -/
theorem ofEvents_perm {op : Operation} {first second : List Event} (same : first.Perm second) :
    ofEvents op first = ofEvents op second := by
  have own := same.filter (·.op = op)
  simp only [ofEvents, own.length_eq, (own.map (·.length.toNat)).sum_nat]

end Totals

/-- A call through the totals finds room, and adds its event if it publishes one. -/
theorem handle_totals (settings : ProbeSettings) (i : Invocation) (table : TotalsTable) :
    (handle TotalsTable.transport settings i.reader i.call table).state =
      (i.verdict settings).event?.toList.foldl TotalsTable.add table := by
  by_cases admitted : settings.target.admits i.call.caller
  · simp only [handle, admitted, if_true, TotalsTable.transport, finish, Invocation.verdict,
      Invocation.admitted, Invocation.measured]
    cases (measure i.call.op.lengthSource i.call.arguments i.reader settings.policy).answer with
    | ok length => simp [Outcome.event?]
    | error obstacle => rfl
  · simp [handle, admitted, Invocation.verdict, Invocation.admitted, Outcome.event?]

/-- Calls through the totals end as their arguments tell, and the totals are those of the events. -/
theorem handleAll_totals (settings : ProbeSettings) (calls : List Invocation)
    (table : TotalsTable) :
    handleAll TotalsTable.transport settings calls table =
      (calls.map (·.verdict settings),
        (calls.filterMap fun i => (i.verdict settings).event?).foldl TotalsTable.add table) := by
  induction calls generalizing table with
  | nil => rfl
  | cons i rest ih =>
    have room : (TotalsTable.transport.reserve? i.call.op table).isSome = true := rfl
    have ended := handle_outcome TotalsTable.transport settings i table
    rw [room, Invocation.outcome_of_room] at ended
    unfold handleAll at ih
    simp only [handleAll, List.map_cons, handleEach, ih, ended, handle_totals, List.filterMap_cons]
    cases (i.verdict settings).event? <;> rfl

/-- The tally that is made of the totals is the tally of the published events. -/
theorem ofTotals_handleAll (settings : ProbeSettings) (calls : List Invocation) :
    Tally.ofTotals (handleAll TotalsTable.transport settings calls TotalsTable.empty).2.snapshot =
      Tally.empty.addAll (calls.filterMap fun i => (i.verdict settings).event?) := by
  let events := calls.filterMap fun i => (i.verdict settings).event?
  have table : events.foldl TotalsTable.add TotalsTable.empty =
      (Tally.empty.addAll events).table := (Tally.table_addAll Tally.empty events).symm
  rw [TotalsTable.snapshot_eq, handleAll_totals, table]
  exact Tally.ofTotals_table (Tally.summed_empty.addAll events) (Tally.malformed_addAll _ _)

/-- How calls may end, each with or without room. -/
def EndAs (settings : ProbeSettings) : List Invocation → List Outcome → Prop :=
  List.Forall₂ fun i o => ∃ room, o = i.outcome settings room

/-- The events of the calls that found no room, as far as their arguments can be measured. -/
def lostEvents (settings : ProbeSettings) (calls : List Invocation) (outcomes : List Outcome) :
    List Event :=
  (calls.zip outcomes).filterMap fun (i, o) =>
    if o = .dropped .saturated then i.event? settings else none

namespace EndAs

variable {settings : ProbeSettings} {calls : List Invocation} {outcomes : List Outcome}

/-- Where there was room, a call ended as it does with room. -/
theorem verdict_of_room (h : EndAs settings calls outcomes) {k : Nat} {o : Outcome}
    (at_k : outcomes[k]? = some o) (room : o ≠ .dropped .saturated) :
    (calls.map (·.verdict settings))[k]? = some o := by
  induction h generalizing k with
  | nil => simp at at_k
  | cons ends _ ih =>
    obtain ⟨granted, rfl⟩ := ends
    cases k with
    | zero =>
      obtain rfl := Option.some.inj at_k
      simp [Invocation.outcome_of_ne_saturated room]
    | succ k => exact ih at_k

theorem eq_verdicts (h : EndAs settings calls outcomes)
    (room : Outcome.dropped .saturated ∉ outcomes) : outcomes = calls.map (·.verdict settings) := by
  induction h with
  | nil => rfl
  | cons ends _ ih =>
    obtain ⟨granted, rfl⟩ := ends
    obtain ⟨first, others⟩ := not_or.mp (mt List.mem_cons.mpr room)
    rw [List.map_cons, ← ih others, Invocation.outcome_of_ne_saturated (Ne.symm first)]

/-- With room, exactly the lost events would have been published besides the others. -/
theorem events_perm (h : EndAs settings calls outcomes) :
    (calls.filterMap fun i => (i.verdict settings).event?).Perm
      (outcomes.filterMap Outcome.event? ++ lostEvents settings calls outcomes) := by
  induction h with
  | nil => exact .nil
  | @cons i o calls outcomes ends _ ih =>
    obtain ⟨granted, rfl⟩ := ends
    simp only [lostEvents, List.filterMap_eq_flatMap_toList, List.zip_cons_cons,
      List.flatMap_cons] at ih ⊢
    by_cases lost : i.outcome settings granted = .dropped .saturated
    · obtain ⟨admitted, -⟩ := Invocation.outcome_eq_saturated_iff.mp lost
      rw [if_pos lost, lost, Invocation.event?_verdict admitted]
      simpa [Outcome.event?] using (ih.append_left _).trans (List.perm_append_comm_assoc _ _ _)
    · rw [if_neg lost, Invocation.outcome_of_ne_saturated lost]
      simpa only [Option.toList_none, List.nil_append, List.append_assoc] using ih.append_left _

end EndAs

namespace Pipeline

variable {c : RingCapacity}

theorem endAs_run (settings : ProbeSettings) (p : Pipeline c) (steps : List PipelineStep) :
    ∃ outcomes, (p.run settings steps).outcomes = p.outcomes ++ outcomes ∧
      EndAs settings (steps.filterMap PipelineStep.invocation?) outcomes := by
  induction steps generalizing p with
  | nil => exact ⟨[], by simp [run], .nil⟩
  | cons step rest ih =>
    obtain ⟨outcomes, same, ends⟩ := ih (p.step settings step)
    cases step with
    | call call reader =>
      let i : Invocation := ⟨call, reader⟩
      refine ⟨i.outcome settings ((Ring.transport c).reserve? call.op p.ring).isSome :: outcomes,
        ?_, .cons ⟨_, rfl⟩ ends⟩
      have ended := handle_outcome (Ring.transport c) settings i p.ring
      rw [← ended]
      simpa [run, step] using same
    | drain =>
      refine ⟨outcomes, ?_, ends⟩
      rw [← p.outcomes_drain settings]
      exact same

end Pipeline

/-- The calls of a run that had room in the ring end alike through the totals, where none lacks
room. The totals are those of the drained ring and of the events that were lost there, so that
without a loss both transports end in the same tally. -/
theorem transports_agree (c : RingCapacity) (settings : ProbeSettings)
    (steps : List PipelineStep) :
    let ring := (Pipeline.fresh c).run settings (steps ++ [.drain])
    let calls := steps.filterMap PipelineStep.invocation?
    let counted := handleAll TotalsTable.transport settings calls TotalsTable.empty
    let tally := Tally.ofTotals counted.2.snapshot
    (∀ (k : Nat) (o : Outcome), ring.outcomes[k]? = some o → o ≠ .dropped .saturated →
        counted.1[k]? = some o) ∧
      ring.outcomes.length = calls.length ∧ counted.1.length = calls.length ∧
      .dropped .saturated ∉ counted.1 ∧
      (∀ op, tally.totals op = ring.tally.totals op +
        Totals.ofEvents op (lostEvents settings calls ring.outcomes)) ∧
      (.dropped .saturated ∉ ring.outcomes → tally = ring.tally) := by
  intro ring calls counted tally
  obtain ⟨ended, same, ends⟩ := Pipeline.endAs_run settings (.fresh c) (steps ++ [.drain])
  have outcomes : ended = ring.outcomes := same.symm
  have all : (steps ++ [PipelineStep.drain]).filterMap PipelineStep.invocation? = calls := by
    simp [calls, PipelineStep.invocation?]
  rw [outcomes, all] at ends
  have verdicts : counted.1 = calls.map (·.verdict settings) := by
    simp only [counted, handleAll_totals]
  have drained : ring.tally = Tally.empty.addAll ring.emitted :=
    (Pipeline.idle_run_drain c settings steps).accounts.tally
  have totals : tally = Tally.empty.addAll (calls.filterMap fun i => (i.verdict settings).event?) :=
    ofTotals_handleAll settings calls
  rw [verdicts, totals, drained]
  refine ⟨fun k o => ends.verdict_of_room, ends.length_eq.symm, List.length_map _, ?_, ?_, ?_⟩
  · intro saturated
    obtain ⟨i, -, lost⟩ := List.mem_map.mp saturated
    exact i.verdict_ne_saturated settings lost
  · intro op
    rw [Tally.totals_addAll_empty, Tally.totals_addAll_empty, ← Totals.ofEvents_append]
    exact Totals.ofEvents_perm ends.events_perm
  · intro room
    rw [Pipeline.emitted, ends.eq_verdicts room, List.filterMap_map]
    rfl

end SyscallMeter
