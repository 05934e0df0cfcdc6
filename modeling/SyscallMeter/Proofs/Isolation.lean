import SyscallMeter.Proofs.Transports

/-! Calls of other processes than the measured one. They may be left out, and calls may be given to
other threads, without any change to what the transport holds or how the remaining calls end. -/
namespace SyscallMeter

/-- Whether a caller's id has another process in its high half. -/
def isForeign (tgid : UInt32) (caller : UInt64) : Bool := (caller >>> 32).toUInt32 != tgid

/-- Ids that differ in their low half at most. -/
def SameProcess (caller caller' : UInt64) : Prop := caller' >>> 32 = caller >>> 32

theorem Target.not_admits_of_foreign {t : Target} {caller : UInt64}
    (foreign : isForeign t.tgid caller = true) : t.admits caller = false := by
  have other : (callerProcess caller == t.tgid) = false := by
    rw [callerProcess_eq_shift]
    simpa [isForeign] using foreign
  rw [admits, other, Bool.and_false]

theorem Target.admits_sameProcess {caller caller' : UInt64} (same : SameProcess caller caller')
    (t : Target) : t.admits caller' = t.admits caller := by
  have process : callerProcess caller' = callerProcess caller := by
    rw [callerProcess_eq_shift, callerProcess_eq_shift, same]
  rw [admits, admits, process]

/-- An id whose high half is a process is that of its thread 0, but for the thread. -/
theorem sameProcess_callerId {tgid : UInt32} {caller : UInt64}
    (own : isForeign tgid caller = false) : SameProcess caller (callerId tgid 0) := by
  have process : (caller >>> 32).toUInt32 = tgid := by simpa [isForeign] using own
  have high : caller.toNat / 2 ^ 32 < 2 ^ 32 := by
    have small := caller.toNat_lt
    omega
  apply UInt64.toNat_inj.mp
  rw [← process]
  simp only [callerId, UInt64.toNat_shiftRight, UInt64.toNat_ofNat', UInt64.toNat_toUInt32,
    UInt32.toNat_zero, UInt32.size, Nat.shiftRight_eq_div_pow, UInt64.reduceToNat,
    Nat.reduceMod, Nat.reducePow]
  omega

theorem Target.not_admits_of_zero {t : Target} (zero : t.tgid = 0) (caller : UInt64) :
    t.admits caller = false := by
  simp [admits, zero]

/-! ### Calls through a transport -/

section

variable {σ ω : Type} {settings : ProbeSettings}

theorem handle_of_not_admitted {call : Call} (away : settings.target.admits call.caller = false)
    (t : Transport σ ω) (r : Reader) (s : σ) :
    handle t settings r call s = ⟨.filteredOut, s, []⟩ := by
  simp [handle, away]

theorem handle_sameProcess {call : Call} {caller : UInt64}
    (same : SameProcess call.caller caller) (t : Transport σ ω) (r : Reader) (s : σ) :
    handle t settings r { call with caller } s = handle t settings r call s := by
  simp only [handle, Target.admits_sameProcess same]

/-- The same call, made by another thread. -/
inductive Invocation.SameButThread : Invocation → Invocation → Prop
  | mk {i : Invocation} {caller : UInt64} (same : SameProcess i.call.caller caller) :
      SameButThread i { i with call := { i.call with caller } }

def Invocation.isForeign (tgid : UInt32) (i : Invocation) : Bool :=
  SyscallMeter.isForeign tgid i.call.caller

/-- The outcomes of the calls that are no other process's. -/
def remaining (tgid : UInt32) (calls : List Invocation) (outcomes : List Outcome) :
    List Outcome :=
  ((calls.zip outcomes).filter fun (i, _) => ! i.isForeign tgid).map (·.2)

theorem remaining_cons_foreign {tgid : UInt32} {i : Invocation} (foreign : i.isForeign tgid = true)
    (calls : List Invocation) (o : Outcome) (outcomes : List Outcome) :
    remaining tgid (i :: calls) (o :: outcomes) = remaining tgid calls outcomes := by
  simp [remaining, foreign]

theorem remaining_cons_own {tgid : UInt32} {i : Invocation} (own : i.isForeign tgid = false)
    (calls : List Invocation) (o : Outcome) (outcomes : List Outcome) :
    remaining tgid (i :: calls) (o :: outcomes) = o :: remaining tgid calls outcomes := by
  simp [remaining, own]

theorem handleAll_cons (t : Transport σ ω) (settings : ProbeSettings) (i : Invocation)
    (rest : List Invocation) (s : σ) :
    let h := handle t settings i.reader i.call s
    handleAll t settings (i :: rest) s =
      (h.outcome :: (handleAll t settings rest h.state).1,
        (handleAll t settings rest h.state).2) := rfl

/-- Without the calls of other processes the others end alike and leave the transport alike. -/
theorem handleAll_own (t : Transport σ ω) (settings : ProbeSettings) (calls : List Invocation)
    (s : σ) :
    let tgid := settings.target.tgid
    let all := handleAll t settings calls s
    let own := handleAll t settings (calls.filter fun i => ! i.isForeign tgid) s
    own.2 = all.2 ∧ own.1 = remaining tgid calls all.1 := by
  intro tgid all own
  induction calls generalizing s with
  | nil => exact ⟨rfl, rfl⟩
  | cons i rest ih =>
    cases foreign : i.isForeign tgid with
    | true =>
      have away := handle_of_not_admitted (Target.not_admits_of_foreign foreign) t i.reader s
      obtain ⟨state, outcomes⟩ := ih s
      simp only [all, own, List.filter_cons, foreign, handleAll_cons, away]
      exact ⟨state, outcomes.trans (remaining_cons_foreign foreign ..).symm⟩
    | false =>
      obtain ⟨state, outcomes⟩ := ih (handle t settings i.reader i.call s).state
      simp only [all, own, List.filter_cons, foreign, handleAll_cons, remaining_cons_own foreign]
      exact ⟨state, congrArg (_ :: ·) outcomes⟩

theorem handleAll_threads (t : Transport σ ω) (settings : ProbeSettings)
    {calls calls' : List Invocation} (same : List.Forall₂ Invocation.SameButThread calls calls')
    (s : σ) : handleAll t settings calls' s = handleAll t settings calls s := by
  induction same generalizing s with
  | nil => rfl
  | cons first _ ih =>
    obtain ⟨same⟩ := first
    simp only [handleAll_cons, handle_sameProcess same, ih]

/-- Where no process is measured, calls leave the transport as it is. -/
theorem handleAll_nobody (t : Transport σ ω) (nobody : settings.target.tgid = 0)
    (calls : List Invocation) (s : σ) : (handleAll t settings calls s).2 = s := by
  induction calls generalizing s with
  | nil => rfl
  | cons i rest ih =>
    have away : settings.target.admits i.call.caller = false :=
      Target.not_admits_of_zero nobody i.call.caller
    simp only [handleAll_cons, handle_of_not_admitted away, ih]

end

/-! ### Calls through a ring that is drained at any time -/

def PipelineStep.isForeign (tgid : UInt32) (step : PipelineStep) : Bool :=
  step.invocation?.any (·.isForeign tgid)

namespace Pipeline

variable {c : RingCapacity}

/-- A drain neither reads nor changes the outcomes. -/
theorem step_drain_with_outcomes (settings : ProbeSettings) (p : Pipeline c)
    (outcomes : List Outcome) :
    (p.step settings .drain).outcomes = p.outcomes ∧
      step settings { p with outcomes } .drain = { p.step settings .drain with outcomes } := by
  simp only [step]
  cases p.ring.claim? <;> exact ⟨rfl, rfl⟩

/-- Without the calls of other processes the ring and the tally are as with them, and the others
end alike. -/
theorem run_own (settings : ProbeSettings) (p : Pipeline c) (before : List Outcome)
    (steps : List PipelineStep) :
    let tgid := settings.target.tgid
    let all := p.run settings steps
    let own := run settings { p with outcomes := before }
      (steps.filter fun step => ! step.isForeign tgid)
    own.ring = all.ring ∧ own.tally = all.tally ∧ own.ingested = all.ingested ∧
      ∃ outcomes, all.outcomes = p.outcomes ++ outcomes ∧ own.outcomes = before ++
        remaining tgid (steps.filterMap PipelineStep.invocation?) outcomes := by
  intro tgid all own
  induction steps generalizing p before with
  | nil => exact ⟨rfl, rfl, rfl, [], (List.append_nil _).symm, (List.append_nil _).symm⟩
  | cons step rest ih =>
    cases step with
    | call call reader =>
      let i : Invocation := ⟨call, reader⟩
      let h := handle (Ring.transport c) settings reader call p.ring
      let next : Pipeline c := { p with ring := h.state, outcomes := p.outcomes ++ [h.outcome] }
      cases foreign : i.isForeign tgid with
      | true =>
        have away : h = ⟨.filteredOut, p.ring, []⟩ :=
          handle_of_not_admitted (Target.not_admits_of_foreign foreign) (Ring.transport c) reader
            p.ring
        have left_out : own = run settings { next with outcomes := before }
            (rest.filter fun step => ! step.isForeign tgid) := by
          have skipped : (PipelineStep.call call reader).isForeign tgid = true := foreign
          simp only [own, next, away, List.filter_cons, skipped]
          rfl
        obtain ⟨ring, tally, ingested, outcomes, all_end, own_end⟩ := ih next before
        rw [left_out]
        refine ⟨ring, tally, ingested, h.outcome :: outcomes, ?_, ?_⟩
        · exact all_end.trans (List.append_assoc ..)
        · rw [own_end]
          exact congrArg (before ++ ·) (remaining_cons_foreign foreign ..).symm
      | false =>
        have kept : own = run settings { next with outcomes := before ++ [h.outcome] }
            (rest.filter fun step => ! step.isForeign tgid) := by
          have mine : (PipelineStep.call call reader).isForeign tgid = false := foreign
          simp only [own, List.filter_cons, mine]
          rfl
        obtain ⟨ring, tally, ingested, outcomes, all_end, own_end⟩ :=
          ih next (before ++ [h.outcome])
        rw [kept]
        refine ⟨ring, tally, ingested, h.outcome :: outcomes, ?_, ?_⟩
        · exact all_end.trans (List.append_assoc ..)
        · rw [own_end, List.append_assoc]
          exact congrArg (before ++ ·) (remaining_cons_own foreign ..).symm
    | drain =>
      obtain ⟨same, alike⟩ := step_drain_with_outcomes settings p before
      have kept : own = run settings { p.step settings .drain with outcomes := before }
          (rest.filter fun step => ! step.isForeign tgid) := by
        rw [← alike]
        rfl
      have later := ih (p.step settings .drain) before
      rw [same, ← kept] at later
      exact later

end Pipeline

end SyscallMeter
