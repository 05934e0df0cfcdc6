import SyscallMeter.Proofs.Kernel.Slots
import SyscallMeter.Proofs.Run.Attachment
import SyscallMeter.Proofs.Run.Capture
import SyscallMeter.Proofs.Run.Ending

/-! What stops a run on its way to the report. It shows in the surroundings of the run alone, and a
run that is stopped leaves neither a report nor a push. -/
namespace SyscallMeter

/-- Why one of the operations that every kernel has gets no probe. -/
def attaching? (ops : List Operation) (around : Surroundings) : Option Failure :=
  ops.findSome? fun op => if op.portable then (around.refusals.probe? op).map .attaching else none

namespace Plan

/-- Why the probe object is not loaded. -/
def loading? (p : Plan) (around : Surroundings) : Option Failure :=
  if around.files.isFile p.settings.object then
    around.refusals.object?.map fun reason => .loading (.notLoaded p.settings.object reason)
  else some (.loading (.noObject p.settings.object))

/-- Why the event ring cannot be read. -/
def events? (p : Plan) (around : Surroundings) : Option Failure :=
  if p.settings.mode = .stream then
    (around.refusals.map? Kernel.eventsMap).map fun
      | .noMap _ => .noEvents
      | e => .events e.message
  else none

/-- Why the totals cannot be read in the end. -/
def totals? (p : Plan) (around : Surroundings) : Option Failure :=
  if p.settings.mode = .counters then
    (around.refusals.firstSlots? Kernel.totalsMap Operation.number).map .totals
  else none

/-- What stops a run before its report. -/
def obstacle? (p : Plan) (around : Surroundings) : Option Failure :=
  (p.loading? around <|> attaching? Operation.all around) <|> p.events? around <|> p.totals? around

end Plan

namespace Run

variable {w : World}

theorem ends_say (p : Plan) (line : String) (w : World) : Ends (say p line) w none := by
  unfold say
  split
  · exact ends_pure ()
  · exact ends_emit rfl

/-! ### The parts of a run before its report -/

theorem ends_banner (p : Plan) : Ends (banner p) w none := by
  unfold banner
  refine (ends_say p _ w).next fun _ _ _ => .get_bind ?_
  split <;> exact (ends_say p _ _).next fun _ _ _ => ends_say p _ _

/-- The kernel is asked to load the probe object, which is there. -/
theorem ends_load (p : Plan) (asked w : World)
    (there : asked.machine.files.isFile p.settings.object) :
    Ends (do
      request (.loadObject p.settings.object)
      match asked.kernel.refusals.object? with
      | some reason => throw (.loading (.notLoaded p.settings.object reason))
      | none => do
        modifyKernel fun k => k.load p.settings
        notice .info s!"✓ Loaded {p.settings.object} (ring {p.settings.ringBytes.toNat} bytes)")
      w (p.loading? asked.surroundings) := by
  refine (ends_emit rfl).next fun _ _ _ => ?_
  simp only [Plan.loading?, World.surroundings, there, if_true]
  cases asked.kernel.refusals.object? with
  | some reason => exact ends_throw _
  | none => exact (ends_modifyKernel rfl).next fun _ _ _ => ends_emit rfl

theorem ends_loadObject (p : Plan) :
    Ends (loadObject p.settings) w (p.loading? w.surroundings) := by
  unfold loadObject
  refine .get_bind ?_
  cases file : w.machine.files.isFile p.settings.object with
  | false =>
    have missing : p.loading? w.surroundings = some (.loading (.noObject p.settings.object)) := by
      simp [Plan.loading?, World.surroundings, file]
    have refused : checkObject w.machine p.settings = .error (.noObject p.settings.object) := by
      simp [checkObject, file]
    rw [missing, refused]
    exact ⟨w, rfl, .refl w⟩
  | true =>
    have there : checkObject w.machine p.settings = .ok () := by simp [checkObject, file]
    have object : Ends (of .loading (checkObject w.machine p.settings)) w none := by
      rw [there]
      exact ends_pure ()
    refine object.next fun _ _ _ => (ends_forM (fun _ _ => ends_emit rfl) _).next fun _ _ _ =>
      (ends_emit rfl).next fun _ _ _ => ?_
    exact ends_ite ((ends_emit rfl).next fun _ _ _ => ends_load p w _ file) (ends_load p w _ file)

theorem ends_startLogger (level : LogLevel) : Ends (startLogger level) w none := by
  unfold startLogger
  split
  · exact ends_pure ()
  · refine (ends_emit rfl).next fun _ _ _ => .get_bind ?_
    split
    · exact ends_emit rfl
    · exact ends_pure ()

theorem ends_attachAll (ops : List Operation) :
    Ends (attachAll ops) w (attaching? ops w.surroundings) := by
  induction ops generalizing w with
  | nil => exact ends_pure _
  | cons op rest ih =>
    unfold attachAll
    refine .get_bind ((ends_forM (fun _ _ => ends_emit rfl) _).next fun _ w₁ did => ?_)
    have around : w₁.surroundings = w.surroundings := did.surroundings
    have refusals : w.surroundings.refusals = w.kernel.refusals := rfl
    cases refused : w.kernel.refusals.probe? op with
    | none =>
      have later : attaching? (op :: rest) w.surroundings = attaching? rest w.surroundings := by
        simp [attaching?, refusals, refused]
      rw [later, ← around]
      refine (ends_modifyKernel rfl).next fun _ w₂ did₂ =>
        (ends_emit rfl).next fun _ w₃ did₃ => ?_
      rw [← did₂.surroundings, ← did₃.surroundings]
      exact ih.before fun _ _ _ => ends_pure _
    | some e =>
      cases portable : op.portable with
      | true =>
        have now : attaching? (op :: rest) w.surroundings = some (.attaching e) := by
          simp [attaching?, refusals, refused, portable]
        rw [now]
        exact (ends_throw _).stop
      | false =>
        have later : attaching? (op :: rest) w.surroundings = attaching? rest w.surroundings := by
          simp [attaching?, portable]
        rw [later, ← around]
        refine (ends_emit rfl).next fun _ w₂ did₂ => ?_
        rw [← did₂.surroundings]
        exact ih.before fun _ _ _ => ends_pure _

theorem ends_attachProbes : Ends attachProbes w (attaching? Operation.all w.surroundings) :=
  (ends_attachAll _).congr (result_attachProbes w)

theorem ends_instrument (p : Plan) : Ends (instrument p) w
    (p.loading? w.surroundings <|> attaching? Operation.all w.surroundings) := by
  unfold instrument
  refine (ends_loadObject p).bind fun _ w₁ did₁ => (ends_startLogger _).next fun _ w₂ did₂ => ?_
  rw [← did₁.surroundings, ← did₂.surroundings]
  exact ends_attachProbes.before fun _ _ _ => (ends_say p _ _).next fun _ _ _ =>
    ends_forM (fun _ w => ends_say p _ w) _

theorem ends_openEvents (p : Plan) : Ends (openEvents p) w (p.events? w.surroundings) := by
  unfold openEvents Plan.events?
  by_cases stream : p.settings.mode = .stream
  · rw [if_pos stream, if_pos stream]
    refine .get_bind ?_
    have asked : w.kernel.events? = w.surroundings.refusals.map? Kernel.eventsMap := rfl
    rw [asked]
    cases w.surroundings.refusals.map? Kernel.eventsMap with
    | none => exact ends_pure ()
    | some e => cases e <;> exact ends_throw _
  · rw [if_neg stream, if_neg stream]
    exact ends_pure ()

theorem ends_sayGroup (p : Plan) (w : World) : Ends (do
    if let some address := p.group then say p s!"push: {address.text}") w none := by
  split
  · exact ends_say p _ w
  · exact ends_pure ()

theorem ends_announceResults (p : Plan) : Ends (announceResults p) w none := by
  unfold announceResults
  cases p.reportFile with
  | none => exact ends_sayGroup p w
  | some path => exact (ends_say p _ w).next fun _ _ _ => ends_sayGroup p _

theorem ends_drainEvents (t : Tally) : Ends (drainEvents t) w none := by
  unfold drainEvents
  refine .get_bind ((ends_modifyKernel rfl).next fun _ _ _ =>
    (ends_forM (fun result w => ?_) _).next fun _ _ _ => ends_pure _)
  cases result with
  | ok event => exact ends_pure ()
  | error e => exact ends_emit rfl

theorem ends_takeEvents (watch : Watch) : Ends (takeEvents watch) w none := by
  unfold takeEvents
  refine (ends_drainEvents _).next fun tally _ _ => ?_
  exact ends_ite ((ends_emit rfl).next fun _ _ _ => ends_pure _) (ends_pure _)

theorem ends_showTotals (mode : Mode) (watch : Watch) : Ends (showTotals mode watch) w none := by
  unfold showTotals
  split
  · cases mode with
    | stream => exact (ends_emit rfl).next fun _ _ _ => ends_pure _
    | counters =>
      refine .get_bind ?_
      split <;> exact (ends_emit rfl).next fun _ _ _ => ends_pure _
  · exact ends_pure _

theorem ends_probeCounts : Ends probeCounts w none := by
  unfold probeCounts
  refine .get_bind ?_
  split
  · exact ends_pure _
  · exact (ends_emit rfl).next fun _ _ _ => ends_pure _

theorem ends_showReport (p : Plan) (r : Report) (counts : Option ProbeCounts) :
    Ends (showReport p r counts) w none := by
  unfold showReport
  split
  · refine (ends_emit rfl).next fun _ _ _ => ?_
    split
    · exact ends_emit rfl
    · exact ends_pure ()
  · exact ends_pure ()

theorem ends_finalTally (p : Plan) (t : Tally) :
    Ends (finalTally p.settings t) w (p.totals? w.surroundings) := by
  cases mode : p.settings.mode with
  | stream =>
    have none : p.totals? w.surroundings = none := by simp [Plan.totals?, mode]
    rw [none, finalTally, mode]
    exact ends_drainEvents t
  | counters =>
    have asked : p.totals? w.surroundings =
        (w.kernel.refusals.firstSlots? Kernel.totalsMap Operation.number).map .totals := by
      simp [Plan.totals?, mode, World.surroundings]
    have read : (finalTally p.settings t).result w = _ := result_finalTally_counters mode
    rw [asked]
    rw [Kernel.Host.readTotals_eq] at read
    cases refused : w.kernel.refusals.firstSlots? Kernel.totalsMap Operation.number with
    | none =>
      rw [refused] at read
      exact ⟨_, w, read, .refl w⟩
    | some e =>
      rw [refused] at read
      exact ⟨w, read, .refl w⟩

theorem ends_read (s : Settings) (quiet : Bool) (watch : Watch) :
    Ends (read s quiet watch) w none := by
  unfold read
  have shown (watch : Watch) (w : World) :
      Ends (if quiet then pure watch else showTotals s.mode watch) w none :=
    ends_ite (ends_pure _) (ends_showTotals _ _)
  exact ends_ite ((ends_takeEvents _).next fun _ _ _ => shown _ _)
    ((ends_pure _).next fun _ _ _ => shown _ _)

theorem ends_look (s : Settings) (quiet : Bool) (watch : Watch) (happenings : List Happening) :
    Ends (look s quiet watch happenings) w none := by
  unfold look
  refine (ends_modify (.pass w happenings)).next fun _ _ _ => .get_bind ?_
  exact ends_ite ((ends_read _ _ _).next fun _ _ _ => ends_pure _) (ends_pure _)

theorem ends_watch (s : Settings) (quiet : Bool) (w₀ : Watch) (course : Course) :
    Ends (watch s quiet w₀ course) w none := by
  induction course generalizing w₀ w with
  | nil => exact ends_pure _
  | cons happenings rest ih =>
    rw [watch_cons]
    refine ends_ite (ends_pure _) ((ends_look _ _ _ _).next fun looked _ _ => ?_)
    split
    · exact ends_pure _
    · exact ih _

theorem ends_capture (p : Plan) (course : Course) :
    Ends (capture p course []) w (p.totals? w.surroundings) := by
  unfold capture
  refine (ends_watch _ _ _ _).next fun _ w₁ did₁ =>
    (ends_modify (.refl w₁)).next fun _ w₂ did₂ => ?_
  rw [← did₁.surroundings, ← did₂.surroundings]
  exact (ends_finalTally p _).before fun _ _ _ => ends_probeCounts.next fun _ _ _ => ends_pure _

/-- All of a run that comes before the report is saved. -/
def reported (p : Plan) (course : Course) : Run Findings := do
  banner p
  instrument p
  openEvents p
  announceResults p
  let found ← capture p course []
  showReport p found.report found.counts
  return found

/-- Up to the report a run ends in what stands in its way, and leaves nothing behind. -/
theorem ends_reported (p : Plan) (course : Course) :
    Ends (reported p course) w (p.obstacle? w.surroundings) := by
  unfold reported
  refine (ends_banner p).next fun _ w₁ did₁ => ?_
  rw [← did₁.surroundings]
  refine (ends_instrument p).bind fun _ w₂ did₂ => ?_
  rw [← did₂.surroundings]
  refine (ends_openEvents p).bind fun _ w₃ did₃ =>
    (ends_announceResults p).next fun _ w₄ did₄ => ?_
  rw [← did₃.surroundings, ← did₄.surroundings]
  exact (ends_capture p course).before fun _ _ _ =>
    (ends_showReport p _ _).next fun _ _ _ => ends_pure _

end Run

end SyscallMeter
