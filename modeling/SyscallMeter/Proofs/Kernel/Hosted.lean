import SyscallMeter.Proofs.Kernel.Session
import SyscallMeter.Proofs.Transports

/-! The probes in a kernel and the same calls handled outside of it. The kernel gets its settings as
raw bytes, reads its arguments from the records of tracepoints and has transports of its own; what it
publishes is what handling the calls publishes. -/
namespace SyscallMeter

/-- A transport that may be kept from giving any room. -/
def Transport.onlyIf {σ ω : Type} (t : Transport σ ω) (granted : Bool) : Transport σ ω :=
  { t with reserve? := fun op s => if granted then t.reserve? op s else none }

/-- Calls through a transport with room end as their arguments tell, unless it is kept from giving
room. -/
theorem handleEach_onlyIf {σ ω : Type} {t : Transport σ ω}
    (room : ∀ op s, (t.reserve? op s).isSome) (settings : ProbeSettings)
    (calls : List (Invocation × Bool)) (s : σ) :
    (handleEach settings (calls.map fun (i, granted) => (t.onlyIf granted, i)) s).1 =
      calls.map fun (i, granted) => i.outcome settings granted := by
  induction calls generalizing s with
  | nil => rfl
  | cons call rest ih =>
    obtain ⟨i, granted⟩ := call
    have given : ((t.onlyIf granted).reserve? i.call.op s).isSome = granted := by
      cases granted with
      | false => rfl
      | true => exact room i.call.op s
    have ended := handle_outcome (t.onlyIf granted) settings i s
    rw [given] at ended
    simp only [List.map_cons, handleEach, ended, ih]

/-- The settings of a run, for handling calls outside of a kernel. -/
def Settings.probe (settings : Settings) : ProbeSettings := ⟨⟨settings.pid⟩, settings.policy⟩

namespace Kernel

/-- The globals carry the settings of a run as bytes, from which the probes have them back. -/
theorem Globals.settings_ofSettings (settings : Settings) :
    (ofSettings settings).settings = settings.probe := by
  simp [ofSettings, Globals.settings, ProbeSettings.ofRaw, Settings.probe]

theorem Globals.mode_ofSettings (settings : Settings) :
    Mode.ofByte (ofSettings settings).mode = settings.mode :=
  Mode.ofByte_toByte settings.mode

/-- What is set by name is found by name. -/
theorem Globals.afterSetting_assigned (settings : Settings) :
    afterSetting (assigned settings) = ofSettings settings := by
  have tgid : UInt32.ofNat (held (assigned settings) "TARGET_TGID") = settings.pid :=
    Octets.ofNat_toNat_word _
  have mode : UInt8.ofNat (held (assigned settings) "TRANSPORT_MODE") = settings.mode.toByte :=
    Octets.ofNat_toNat_byte _
  have fault : UInt8.ofNat (held (assigned settings) "FAULT_POLICY") =
      settings.policy.fault.toByte := Octets.ofNat_toNat_byte _
  have batch : UInt8.ofNat (held (assigned settings) "BATCH_POLICY") =
      settings.policy.batch.toByte := Octets.ofNat_toNat_byte _
  have log : UInt8.ofNat (held (assigned settings) "LOG_LEVEL") = settings.logLevel.toByte :=
    Octets.ofNat_toNat_byte _
  rw [afterSetting, tgid, mode, fault, batch, log, ofSettings]

/-- A kernel with empty maps in which the probes were loaded for a run. -/
def Session.loaded (settings : Settings) (processors : Nat) : Session where
  host := (Host.fresh .none
    (Maps.empty defaultRingBytes processors Operation.number ProbeStat.number)).load settings
  taken := []

theorem Session.loaded_eq (settings : Settings) (processors : Nat) :
    loaded settings processors =
      fresh (Globals.ofSettings settings) settings.ringBytes.toNat processors := by
  rw [loaded, Host.load, Globals.afterSetting_assigned]
  rfl

/-- The probes publish what handling the same calls publishes. The totals that are read from the
kernel are those of a table that the calls are handled with, and the submitted records are the events
of any transport with room that is kept from giving it just to the calls whose reservation the event
ring refused. -/
theorem probes_agree_with_handling (settings : Settings) (processors : Nat)
    (steps : List KernelStep) :
    let start := Session.loaded settings processors
    let s := start.run steps
    let calls := steps.filterMap KernelStep.invocation?
    (∀ op e memory, (({ s.host with memory } : Host).probeRun op e).answer = 0) ∧
      (settings.mode = .counters →
        let counted := handleAll TotalsTable.transport settings.probe calls TotalsTable.empty
        s.host.readTotals = .ok counted.2.snapshot) ∧
      (settings.mode = .stream → ∀ {σ ω : Type} (t : Transport σ ω) (state : σ),
        (∀ op s, (t.reserve? op s).isSome) →
          let asked := (start.trace steps).map fun (i, granted) => (t.onlyIf granted, i)
          asked.map (·.2) = calls ∧ s.submitted =
            ((handleEach settings.probe asked state).1.filterMap Outcome.event?).map
              Event.encode) := by
  intro start s calls
  let g := Globals.ofSettings settings
  have begins : (Session.loaded settings processors).Follows g processors [] := by
    rw [Session.loaded_eq]
    exact Session.follows_fresh g settings.ringBytes.toNat processors
  have holds : s.Follows g processors (start.ends g.settings steps) := begins.run steps
  have globals : g.settings = settings.probe := Globals.settings_ofSettings settings
  refine ⟨fun op e memory => runProbe_answer _ _ op e _, fun counters => ?_,
    fun stream σ ω t state room => ?_⟩
  · have mode : Mode.ofByte g.mode = .counters := (Globals.mode_ofSettings settings).trans counters
    obtain ⟨-, totals⟩ := holds.published_counters mode
    intro counted
    have snapshot : counted.2.snapshot =
        (calls.filterMap fun i => (i.verdict settings.probe).event?).foldl TotalsTable.add
          TotalsTable.empty := by
      rw [TotalsTable.snapshot_eq]
      simp only [counted, handleAll_totals]
    rw [holds.readTotals, totals, begins.ends_counters mode, globals, snapshot, List.filterMap_map]
    rfl
  · have mode : Mode.ofByte g.mode = .stream := (Globals.mode_ofSettings settings).trans stream
    refine ⟨?_, ?_⟩
    · rw [List.map_map]
      exact start.trace_fst steps
    · rw [holds.submitted_stream mode, handleEach_onlyIf room, globals]
      rfl

/-- Of two writes the second finds no room in the ring. Handled through totals that give no room to
it either, they publish the one event that the ring holds. Counted in place, both are found in the
kernel. -/
theorem probes_agree_with_handling_of_two_writes :
    let settings : Settings :=
      ⟨7, "", .stream, ⟨.emitPartial, .skipEntry⟩, 4096, .off, false, none, []⟩
    let entry : Entry := ⟨callerId 7 1, tracepointRecord [1, 2, 3], 0⟩
    let steps : List KernelStep :=
      [.probe .write entry Memory.empty, .room 16 0, .probe .write entry Memory.empty]
    let start := Session.loaded settings 1
    let asked := (start.trace steps).map fun (i, granted) =>
      (TotalsTable.transport.onlyIf granted, i)
    settings.mode = .stream ∧ (∀ op table, (TotalsTable.transport.reserve? op table).isSome) ∧
      (start.trace steps).map (·.2) = [true, false] ∧
      (start.run steps).submitted = ((handleEach settings.probe asked
        TotalsTable.empty).1.filterMap Outcome.event?).map Event.encode ∧
      (start.run steps).submitted = [Event.encode ⟨.write, 3⟩] ∧
      ∃ totals, ((Session.loaded { settings with mode := .counters } 1).run
        steps).host.readTotals = .ok totals ∧ totals.row .write = ⟨2, 6⟩ := by
  intro settings entry steps start asked
  obtain ⟨-, -, stream⟩ := probes_agree_with_handling settings 1 steps
  obtain ⟨-, submitted⟩ := stream rfl TotalsTable.transport TotalsTable.empty fun _ _ => rfl
  obtain ⟨-, counters, -⟩ := probes_agree_with_handling { settings with mode := .counters } 1 steps
  exact ⟨rfl, fun _ _ => rfl, by decide, submitted, by decide, _, counters rfl, by decide⟩

end Kernel

end SyscallMeter
