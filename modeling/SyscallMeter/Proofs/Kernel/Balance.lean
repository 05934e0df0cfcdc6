import SyscallMeter.Proofs.Kernel.Session

/-! The counts of the probes balance. Every call of the measured process is counted once as admitted
and once by how it ended, on whatever processor it ran, so that nothing is lost without being
counted. -/
namespace SyscallMeter

namespace Outcome

theorem sum_raises_admitted (outcomes : List Outcome) :
    (outcomes.map (·.raises .admitted)).sum = outcomes.countP (· ≠ .filteredOut) := by
  induction outcomes with
  | nil => rfl
  | cons o rest ih =>
    have one : o.raises .admitted = if o ≠ .filteredOut then 1 else 0 := by
      rcases o with _ | _ | (_ | _ | _) <;> rfl
    rw [List.map_cons, List.sum_cons, ih, one, List.countP_cons, Nat.add_comm]
    simp only [decide_eq_true_eq]

/-- Every admitted call is counted once more, by how it ended. -/
theorem sum_raises_balance (outcomes : List Outcome) :
    (outcomes.map (·.raises .admitted)).sum =
      (outcomes.map (·.raises .emitted)).sum + (outcomes.map (·.raises .saturated)).sum +
        (outcomes.map (·.raises .faulted)).sum + (outcomes.map (·.raises .missingArgument)).sum := by
  induction outcomes with
  | nil => rfl
  | cons o rest ih =>
    have one : o.raises .admitted = o.raises .emitted + o.raises .saturated + o.raises .faulted +
        o.raises .missingArgument := by
      rcases o with _ | _ | (_ | _ | _) <;> rfl
    simp only [List.map_cons, List.sum_cons, ih, one]
    omega

theorem sum_raises_emitted (outcomes : List Outcome) :
    (outcomes.map (·.raises .emitted)).sum = (outcomes.filterMap event?).length := by
  induction outcomes with
  | nil => rfl
  | cons o rest ih =>
    have one : o.raises .emitted = o.event?.toList.length := by
      rcases o with _ | _ | (_ | _ | _) <;> rfl
    rw [List.map_cons, List.sum_cons, ih, one, List.filterMap_cons]
    cases o.event? with
    | none => exact Nat.zero_add _
    | some e => exact Nat.add_comm 1 _

theorem sum_raises_saturated {outcomes : List Outcome} (room : .dropped .saturated ∉ outcomes) :
    (outcomes.map (·.raises .saturated)).sum = 0 := by
  refine List.sum_eq_zero_iff_forall_eq_nat.mpr fun n raised => ?_
  obtain ⟨o, inside, rfl⟩ := List.mem_map.mp raised
  rcases o with _ | _ | (_ | _ | _) <;> first | rfl | exact absurd inside room

end Outcome

namespace Kernel

/-- Whether a step is a call of a process. Process 0 stands for no process. -/
def KernelStep.isBy (tgid : UInt32) : KernelStep → Bool
  | probe _ e _ => tgid != 0 && (e.caller >>> 32).toUInt32 == tgid
  | _ => false

namespace Session

variable {s : Session} {g : Globals} {processors : Nat} {outcomes : List Outcome}

/-- The calls that are counted as admitted are those of the measured process. -/
theorem countP_ends (s : Session) (g : Globals) (steps : List KernelStep) :
    (s.ends g.settings steps).countP (· ≠ .filteredOut) = steps.countP (·.isBy g.tgid) := by
  induction steps generalizing s with
  | nil => rfl
  | cons step rest ih =>
    cases step with
    | probe op e memory =>
      have own : (KernelStep.probe op e memory).isBy g.tgid = g.settings.target.admits e.caller := by
        simp only [KernelStep.isBy, ← callerProcess_eq_shift]
        rfl
      have counted (granted : Bool) :
          decide ((e.invocation op memory.reader).outcome g.settings granted ≠ .filteredOut) =
            g.settings.target.admits e.caller := by
        simp [Invocation.outcome_eq_filteredOut_iff, Invocation.admitted, Entry.invocation]
      have others := ih (s.step (.probe op e memory))
      unfold ends at others ⊢
      rw [trace, List.map_cons, List.countP_cons, List.countP_cons, others, counted, own]
    | take => exact ih _
    | room size used => exact ih _

/-- The counts are read as they are as long as they fit 64-bit numbers. -/
theorem Follows.readCounts (h : s.Follows g processors outcomes) (some_processor : 0 < processors)
    (no_wrap : (outcomes.map (·.raises .admitted)).sum < UInt64.size) :
    ∃ counts, s.host.readCounts = .ok counts ∧
      ∀ stat, counts.get stat = (outcomes.map (·.raises stat)).sum := by
  have granted : Refusals.none.firstSlots? statsMap ProbeStat.number = none := by decide
  refine ⟨ProbeCounts.sumOver s.host.maps.stats, ?_, fun stat => ?_⟩
  · simp only [Host.readCounts, h.refusals, granted]
  · have sum := h.counts some_processor stat
    have balance := Outcome.sum_raises_balance outcomes
    -- No count exceeds that of the admitted calls, so none of the sums is cut off.
    have fits : (outcomes.map (·.raises stat)).sum ≤ UInt64.size - 1 := by
      cases stat <;> omega
    rw [ProbeCounts.get_sumOver, ProbeCounts.sumProcessors_eq]
    exact (congrArg (min · _) sum).trans (Nat.min_eq_left fits)

end Session

/-- The calls of the measured process are counted as admitted, and each of them once more as emitted
or by what it was dropped for. Through the event ring the emitted ones are the submitted records and
the totals stay as they were; through the totals they are the calls in all rows, no call lacks room,
and nothing is asked of the event ring. -/
theorem probe_counts_balance (g : Globals) (ringBytes processors : Nat) (steps : List KernelStep)
    (some_processor : 0 < processors)
    (no_wrap : steps.countP (·.isBy g.tgid) < UInt64.size) :
    let s := (Session.fresh g ringBytes processors).run steps
    ∃ counts totals, s.host.readCounts = .ok counts ∧ s.host.readTotals = .ok totals ∧
      counts.get .admitted = steps.countP (·.isBy g.tgid) ∧
      counts.get .admitted = counts.get .emitted + counts.get .saturated + counts.get .faulted +
        counts.get .missingArgument ∧
      (Mode.ofByte g.mode = .stream →
        counts.get .emitted = s.submitted.length ∧ totals = TotalsTable.empty) ∧
      (Mode.ofByte g.mode = .counters →
        counts.get .emitted = (Operation.all.map fun op => (totals.row op).calls).sum ∧
          counts.get .saturated = 0 ∧ s.entries = [] ∧
          ∀ op e memory, let run := ({ s.host with memory } : Host).probeRun op e
            run.maps.events = s.host.maps.events ∧
              ∀ request ∈ run.requests, request.usesEvents = false) := by
  intro s
  let start := Session.fresh g ringBytes processors
  let outcomes := start.ends g.settings steps
  have holds : s.Follows g processors outcomes :=
    (Session.follows_fresh g ringBytes processors).run steps
  have admitted : (outcomes.map (·.raises .admitted)).sum = steps.countP (·.isBy g.tgid) := by
    rw [Outcome.sum_raises_admitted, start.countP_ends]
  obtain ⟨counts, read, sums⟩ := holds.readCounts some_processor (admitted ▸ no_wrap)
  refine ⟨counts, s.host.maps.totals, read, holds.readTotals, ?_, ?_, fun mode => ?_,
    fun mode => ?_⟩
  · rw [sums, admitted]
  · simp only [sums, Outcome.sum_raises_balance]
  · obtain ⟨-, totals⟩ := holds.published_stream mode
    refine ⟨?_, totals⟩
    rw [sums, Outcome.sum_raises_emitted, holds.submitted_stream mode, List.length_map]
  · obtain ⟨entries, totals⟩ := holds.published_counters mode
    refine ⟨?_, ?_, entries, fun op e memory => ?_⟩
    · rw [sums, Outcome.sum_raises_emitted, totals, Tally.sum_calls]
    · have verdicts : outcomes = _ :=
        (Session.follows_fresh g ringBytes processors).ends_counters mode steps
      have room : .dropped .saturated ∉ outcomes := by
        intro lost
        obtain ⟨i, -, saturated⟩ := List.mem_map.mp (verdicts ▸ lost)
        exact i.verdict_ne_saturated g.settings saturated
      rw [sums, Outcome.sum_raises_saturated room]
    · obtain ⟨away, maps⟩ :=
        runProbe_counters mode memory.reader op e s.host.maps (holds.hasTotals op)
      simp only [Host.probeRun, holds.globals, maps, Maps.counted_events]
      exact ⟨trivial, away⟩

/-- Of three writes the second is made by another process, and the third finds no room. -/
theorem probe_counts_balance_of_three_writes :
    let write (caller : UInt64) (processor : Nat) : KernelStep :=
      .probe .write ⟨caller, tracepointRecord [1, 2, 3], processor⟩ Memory.empty
    let steps := [write (callerId 7 1) 0, write (callerId 9 1) 1, .room 16 0,
      write (callerId 7 2) 1]
    let s := (Session.fresh ⟨7, 0, 0, 0, 0⟩ 4096 2).run steps
    0 < 2 ∧ steps.countP (·.isBy 7) < UInt64.size ∧
      s.submitted = [Event.encode ⟨.write, 3⟩] ∧
      ∃ counts, s.host.readCounts = .ok counts ∧ counts.get .admitted = 2 ∧
        counts.get .emitted = 1 ∧
        counts.get .saturated + counts.get .faulted + counts.get .missingArgument = 1 := by
  intro write steps s
  have no_wrap : steps.countP (·.isBy 7) < UInt64.size := by decide
  have submitted : s.submitted = [Event.encode ⟨.write, 3⟩] := by decide
  obtain ⟨counts, totals, read, -, admitted, balance, stream, -⟩ :=
    probe_counts_balance ⟨7, 0, 0, 0, 0⟩ 4096 2 steps (by decide) no_wrap
  have two : steps.countP (·.isBy 7) = 2 := by decide
  obtain ⟨emitted, -⟩ := stream rfl
  change counts.get .emitted = s.submitted.length at emitted
  rw [submitted] at emitted
  refine ⟨by decide, no_wrap, submitted, counts, read, admitted.trans two, emitted, ?_⟩
  have all : counts.get .admitted = 2 := admitted.trans two
  simp only [List.length_singleton] at emitted
  omega

end Kernel

end SyscallMeter
