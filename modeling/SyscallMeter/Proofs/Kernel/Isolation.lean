import SyscallMeter.Proofs.Isolation
import SyscallMeter.Proofs.Kernel.Session

/-! Nobody but the measured process has any part in what a kernel publishes. What the maps hold is a
function of the calls of that process, without their threads, and of whether the event ring granted
what each of them asked. -/
namespace SyscallMeter.Kernel

variable {g : Globals} {op : Operation} {e : Entry} {r : Reader} {m : Maps}

theorem runProbe_sameProcess {caller : UInt64} (same : SameProcess e.caller caller) :
    runProbe g r op { e with caller } m = runProbe g r op e m := by
  have call (entered : Maps) : handleCall g r ⟨op, caller, recordArguments e.record⟩ entered =
      handleCall g r ⟨op, e.caller, recordArguments e.record⟩ entered := by
    simp only [handleCall, handle, Target.admits_sameProcess same]
  simp only [runProbe, Target.admits_sameProcess same, call]

namespace KernelStep

/-- Whether a step is a call of another process than the measured one. -/
def isForeign (tgid : UInt32) : KernelStep → Bool
  | probe _ e _ => SyscallMeter.isForeign tgid e.caller
  | _ => false

/-- A call that the probes leave alone. -/
def Ignored (target : Target) : KernelStep → Prop
  | probe _ e _ => target.admits e.caller = false
  | _ => False

theorem ignored_of_foreign {target : Target} {step : KernelStep}
    (foreign : step.isForeign target.tgid = true) : step.Ignored target := by
  cases step with
  | probe op e memory => exact Target.not_admits_of_foreign foreign
  | take | room => cases foreign

theorem ignored_of_nobody {target : Target} (nobody : target.tgid = 0) (step : KernelStep)
    (call : step.invocation?.isSome = true) : step.Ignored target := by
  cases step with
  | probe op e memory => exact Target.not_admits_of_zero nobody e.caller
  | take | room => cases call

/-- The same step, made by another thread if it is a call. -/
inductive SameButThread : KernelStep → KernelStep → Prop
  | probe {op : Operation} {e : Entry} {memory : Memory} {caller : UInt64}
      (same : SameProcess e.caller caller) :
      SameButThread (probe op e memory) (probe op { e with caller } memory)
  | take : SameButThread take take
  | room (size used : Nat) : SameButThread (room size used) (room size used)

end KernelStep

namespace Session

/-- The same but for the memory of the last process that made a call. -/
def Twin (s s' : Session) : Prop :=
  ∃ memory, s' = { s with host := { s.host with memory } }

theorem globals_step (s : Session) (step : KernelStep) :
    (s.step step).host.globals = s.host.globals := by
  cases step with
  | probe op e memory => rfl
  | take =>
    simp only [Session.step]
    split <;> rfl
  | room size used => rfl

theorem Twin.step {s s' : Session} (twin : s.Twin s') (step : KernelStep) :
    (s.step step).Twin (s'.step step) := by
  obtain ⟨memory, rfl⟩ := twin
  cases step with
  | probe op e memory' => exact ⟨memory', rfl⟩
  | take =>
    refine ⟨memory, ?_⟩
    simp only [Session.step]
    split <;> rfl
  | room size used => exact ⟨memory, rfl⟩

theorem Twin.ignored {s s' : Session} (twin : s.Twin s') {step : KernelStep}
    (ignored : step.Ignored s.host.globals.settings.target) : (s.step step).Twin s' := by
  obtain ⟨memory, rfl⟩ := twin
  cases step with
  | probe op e memory' =>
    have nothing : runProbe s.host.globals memory'.reader op e s.host.maps =
        ⟨s.host.maps, [], [], probeReturn⟩ := runProbe_filtered ignored
    refine ⟨memory, ?_⟩
    simp only [Session.step, Host.probed, Host.probeRun, nothing]
    rfl
  | take | room => exact ignored.elim

/-- Calls that the probes leave alone may be left out. -/
theorem Twin.run {s s' : Session} (twin : s.Twin s') (out : KernelStep → Bool)
    (ignored : ∀ step, out step = true → step.Ignored s.host.globals.settings.target)
    (steps : List KernelStep) :
    (s.run steps).Twin (s'.run (steps.filter fun step => ! out step)) := by
  induction steps generalizing s s' with
  | nil => exact twin
  | cons step rest ih =>
    have ignored' : ∀ step', out step' = true →
        step'.Ignored (s.step step).host.globals.settings.target := by
      rw [s.globals_step step]
      exact ignored
    cases left_out : out step with
    | true =>
      rw [List.filter_cons_of_neg (by simp [left_out])]
      exact ih (twin.ignored (ignored step left_out)) ignored'
    | false =>
      rw [List.filter_cons_of_pos (by simp [left_out])]
      exact ih (twin.step step) ignored'

theorem step_sameButThread {step step' : KernelStep} (same : step.SameButThread step')
    (s : Session) : s.step step' = s.step step := by
  cases same with
  | probe same =>
    simp only [Session.step, Host.probed, Host.probeRun, runProbe_sameProcess same]
  | take => rfl
  | room size used => rfl

theorem run_sameButThread {steps steps' : List KernelStep}
    (same : List.Forall₂ KernelStep.SameButThread steps steps') (s : Session) :
    s.run steps' = s.run steps := by
  induction same generalizing s with
  | nil => rfl
  | cons first _ ih =>
    simp only [run, List.foldl_cons, step_sameButThread first] at ih ⊢
    exact ih _

end Session

/-! ### The maps as a function of the calls -/

/-- A call of the measured process without its thread, and whether the event ring granted what its
probe asked. -/
structure OwnCall where
  op : Operation
  record : Octets
  processor : Nat
  memory : Memory
  granted : Bool

/-- All that the maps hold: every entry that was left in the event ring, also those that were taken
out since, and the other maps as they are. -/
structure Contents where
  entries : List EventQueue.Entry
  others : Maps

namespace Session

/-- The calls of the measured process in a run. -/
def ownCalls (s : Session) : List KernelStep → List OwnCall
  | [] => []
  | .probe op e memory :: rest =>
    let later := (s.step (.probe op e memory)).ownCalls rest
    if isForeign s.host.globals.tgid e.caller then later
    else ⟨op, e.record, e.processor, memory,
      (runProbe s.host.globals memory.reader op e s.host.maps).granted⟩ :: later
  | step :: rest => (s.step step).ownCalls rest

def contents (s : Session) : Contents :=
  ⟨s.entries, { s.host.maps with events := EventQueue.empty 0 }⟩

end Session

/-- The call, made by thread 0. -/
def OwnCall.entry (tgid : UInt32) (call : OwnCall) : Entry :=
  ⟨callerId tgid 0, call.record, call.processor⟩

def OwnCall.outcome (g : Globals) (call : OwnCall) : Outcome :=
  ((call.entry g.tgid).invocation call.op call.memory.reader).outcome g.settings call.granted

/-- What the maps hold after one more call. -/
def Contents.after (g : Globals) (c : Contents) (call : OwnCall) : Contents :=
  let o := call.outcome g
  let counted := c.others.counted call.processor o
  match Mode.ofByte g.mode with
  | .stream => ⟨c.entries ++ o.residue?.toList, counted⟩
  | .counters => ⟨c.entries, { counted with totals := c.others.totalsAfter call.op o }⟩

theorem Maps.counted_setEvents (m : Maps) (events : EventQueue) (processor : Nat) (o : Outcome) :
    ({ m with events } : Maps).counted processor o = { m.counted processor o with events } := by
  cases counts : o.stat? with
  | none => simp only [counted, counts]
  | some stat => simp only [counted_of_stat? counts, bump_setEvents]

namespace Session

/-- A call leaves in the maps what its outcome tells. -/
theorem contents_probe (s : Session) (call : OwnCall)
    (answered : (runProbe s.host.globals call.memory.reader call.op
      (call.entry s.host.globals.tgid) s.host.maps).granted = call.granted) :
    (s.step (.probe call.op (call.entry s.host.globals.tgid) call.memory)).contents =
      s.contents.after s.host.globals call := by
  let g := s.host.globals
  let run := runProbe g call.memory.reader call.op (call.entry g.tgid) s.host.maps
  have left : (s.step (.probe call.op (call.entry g.tgid) call.memory)).contents =
      ⟨s.taken ++ run.maps.events.toList, { run.maps with events := EventQueue.empty 0 }⟩ := rfl
  rw [left]
  cases mode : Mode.ofByte g.mode with
  | stream =>
    obtain ⟨events, maps, entries⟩ :=
      runProbe_stream mode call.memory.reader call.op (call.entry g.tgid) s.host.maps
    rw [answered] at maps entries
    simp only [run, Contents.after, g, mode, maps, entries, contents, Session.entries,
      Maps.counted_setEvents, List.append_assoc]
    rfl
  | counters =>
    obtain ⟨away, maps⟩ :=
      runProbe_totals mode call.memory.reader call.op (call.entry g.tgid) s.host.maps
    have room : call.granted = true := answered.symm.trans (ProbeRun.granted_of_usesEvents away)
    have ended : call.outcome g =
        ((call.entry g.tgid).invocation call.op call.memory.reader).verdict g.settings := by
      rw [OwnCall.outcome, room, Invocation.outcome_of_room]
    have events : run.maps.events = s.host.maps.events := by
      simp only [run, maps, Maps.counted_events]
    rw [events, show run.maps = _ from maps, ← ended]
    simp only [Contents.after, g, mode, contents, Session.entries, Maps.counted_setEvents]
    rfl

theorem Twin.contents {s s' : Session} (twin : s.Twin s') : s'.contents = s.contents := by
  obtain ⟨memory, rfl⟩ := twin
  rfl

theorem contents_take (s : Session) : (s.step .take).contents = s.contents := by
  simp only [Session.step]
  split
  · rfl
  · rename_i entry events popped
    have kept : s.taken ++ [entry] ++ events.toList = s.entries := by
      rw [Session.entries, EventQueue.toList_pop popped, List.append_assoc, List.singleton_append]
    exact congrArg (Contents.mk · _) kept

/-- Whatever is done to the event ring between the calls, the maps hold what the calls of the
measured process and the answers to them tell. -/
theorem contents_run (s : Session) (steps : List KernelStep) :
    (s.run steps).contents =
      (s.ownCalls steps).foldl (Contents.after s.host.globals) s.contents := by
  induction steps generalizing s with
  | nil => rfl
  | cons step rest ih =>
    have later := ih (s.step step)
    rw [s.globals_step step] at later
    cases step with
    | probe op e memory =>
      let tgid := s.host.globals.tgid
      let granted := (runProbe s.host.globals memory.reader op e s.host.maps).granted
      have calls : s.ownCalls (.probe op e memory :: rest) =
          if isForeign tgid e.caller then (s.step (.probe op e memory)).ownCalls rest
          else ⟨op, e.record, e.processor, memory, granted⟩ ::
            (s.step (.probe op e memory)).ownCalls rest := rfl
      cases foreign : isForeign tgid e.caller with
      | true =>
        have twin : (s.step (.probe op e memory)).Twin s :=
          Twin.ignored ⟨s.host.memory, rfl⟩ (Target.not_admits_of_foreign foreign)
        rw [calls, if_pos foreign, twin.contents]
        exact later
      | false =>
        let call : OwnCall := ⟨op, e.record, e.processor, memory, granted⟩
        have same : SameProcess e.caller (callerId tgid 0) := sameProcess_callerId foreign
        have first : (s.step (.probe op e memory)).contents =
            s.contents.after s.host.globals call := by
          rw [← step_sameButThread (.probe same)]
          refine s.contents_probe call ?_
          exact congrArg ProbeRun.granted (runProbe_sameProcess same)
        rw [calls, if_neg (by simp [foreign]), List.foldl_cons, ← first]
        exact later
    | take =>
      rw [contents_take] at later
      exact later
    | room size used => exact later

end Session

/-- Other processes and the threads of the measured one have no part in what is measured. Without
the calls of other processes the maps, the entries taken out and the log are as with them, and it
makes no difference which thread makes a call; where no process is measured, no call changes any
map. More generally, the maps hold the same after any two runs with the same calls of the measured
process whose reservations were answered alike. The same is so for calls through any transport, and
for calls through a ring that is drained in between: without those of other processes the others
end alike and leave the same state. -/
theorem other_callers_leave_no_trace (s : Session) (steps : List KernelStep) :
    let tgid := s.host.globals.tgid
    let all := s.run steps
    let alone := s.run (steps.filter fun step => ! step.isForeign tgid)
    (alone.host.maps = all.host.maps ∧ alone.taken = all.taken ∧ alone.host.log = all.host.log) ∧
      (∀ steps', List.Forall₂ KernelStep.SameButThread steps steps' → s.run steps' = all) ∧
      (tgid = 0 → (∀ step ∈ steps, step.invocation?.isSome) → all.host.maps = s.host.maps) ∧
      (∀ (s' : Session) steps', s'.host.globals = s.host.globals → s'.contents = s.contents →
        s'.ownCalls steps' = s.ownCalls steps → (s'.run steps').contents = all.contents) ∧
      (∀ {σ ω : Type} (t : Transport σ ω) (settings : ProbeSettings) (calls : List Invocation)
          (state : σ),
        let target := settings.target.tgid
        let all := handleAll t settings calls state
        let alone := handleAll t settings (calls.filter fun i => ! i.isForeign target) state
        alone.2 = all.2 ∧ alone.1 = remaining target calls all.1 ∧
          (∀ calls', List.Forall₂ Invocation.SameButThread calls calls' →
            handleAll t settings calls' state = all) ∧
          (target = 0 → all.2 = state)) ∧
      ∀ (c : RingCapacity) (settings : ProbeSettings) (steps : List PipelineStep),
        let target := settings.target.tgid
        let all := (Pipeline.fresh c).run settings steps
        let alone := (Pipeline.fresh c).run settings
          (steps.filter fun step => ! step.isForeign target)
        alone.ring = all.ring ∧ alone.tally = all.tally ∧ alone.ingested = all.ingested ∧
          alone.outcomes =
            remaining target (steps.filterMap PipelineStep.invocation?) all.outcomes := by
  intro tgid all alone
  have self : s.Twin s := ⟨s.host.memory, rfl⟩
  refine ⟨?_, fun steps' same => s.run_sameButThread same, ?_, ?_, ?_, ?_⟩
  · have ignored : ∀ step : KernelStep, step.isForeign tgid = true →
        step.Ignored s.host.globals.settings.target := by
      intro step foreign
      exact KernelStep.ignored_of_foreign foreign
    obtain ⟨memory, same⟩ := self.run (KernelStep.isForeign tgid) ignored steps
    change alone = _ at same
    rw [same]
    exact ⟨rfl, rfl, rfl⟩
  · intro nobody calls
    have nothing : steps.filter (fun step => ! step.invocation?.isSome) = [] := by
      rw [List.filter_eq_nil_iff]
      intro step member
      simp [calls step member]
    obtain ⟨memory, same⟩ := self.run (fun step => step.invocation?.isSome)
      (KernelStep.ignored_of_nobody nobody) steps
    rw [nothing] at same
    exact congrArg (·.host.maps) same.symm
  · intro s' steps' globals contents calls
    rw [Session.contents_run, Session.contents_run, globals, contents, calls]
  · intro σ ω t settings calls state target all alone
    obtain ⟨final, ends⟩ := handleAll_own t settings calls state
    exact ⟨final, ends, fun calls' same => handleAll_threads t settings same state,
      fun nobody => handleAll_nobody t nobody calls state⟩
  · intro c settings steps target all alone
    obtain ⟨ring, tally, ingested, outcomes, all_end, alone_end⟩ :=
      (Pipeline.fresh c).run_own settings [] steps
    refine ⟨ring, tally, ingested, ?_⟩
    change all.outcomes = [] ++ outcomes at all_end
    rw [all_end]
    exact alone_end

end SyscallMeter.Kernel
