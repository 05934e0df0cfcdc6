import SyscallMeter.Proofs.Run.Obstacles
import SyscallMeter.Proofs.Run.Refusal

/-! What a run leaves behind. A run that may not begin does nothing; one that is stopped on its way
to the report leaves neither a report nor a push; and no push is made before the report is saved,
nor does anything depend on it. -/
namespace SyscallMeter

namespace Plan

/-- Why the report is not saved. -/
def unsaved? (p : Plan) (around : Surroundings) : Option Failure :=
  p.reportFile.bind fun path =>
    match around.files.create path with
    | .error e => some (.report ⟨path, e.message⟩)
    | .ok place => (around.writing place).map fun fault => .unwritten fault.reason

/-- The report file, as far as it is written. -/
def saved (p : Plan) (around : Surroundings) (r : Report) : List Effect :=
  match p.reportFile.map around.files.create with
  | some (.ok place) =>
    match around.writing place with
    | none => [.save place r.toJson]
    | some fault => [.save place (String.ofList (r.toJson.toList.take fault.written))]
  | _ => []

/-- The push, if there is to be one and its metrics are gathered. -/
def pushed (p : Plan) (w : World) (t : Tally) : List Effect :=
  match p.group, w.gathering t with
  | some address, none => [.push ⟨address, Metrics.text t⟩ (w.gateway ⟨address, Metrics.text t⟩)]
  | _, _ => []

end Plan

namespace Run

variable {w : World}

/-! ### The report and the push -/

/-- Saving fails for what stands in its way, and leaves what it has written. -/
theorem saveReport_did (p : Plan) (r : Report) (w : World) : ∃ w',
    w.Did w' (p.saved w.surroundings r) ∧ result (saveReport p r) w =
      (match p.unsaved? w.surroundings with
        | none => .ok ()
        | some f => .error f, w') := by
  unfold saveReport Plan.saved Plan.unsaved?
  cases p.reportFile with
  | none => exact ⟨w, .refl w, rfl⟩
  | some path =>
    have files : w.surroundings.files = w.machine.files := rfl
    have writing : w.surroundings.writing = w.writing := rfl
    simp only [Option.bind_some, Option.map_some, files, writing]
    cases created : w.machine.files.create path with
    | error e =>
      refine ⟨w, .refl w, ?_⟩
      rw [result_bind_of_ok (result_get w), created]
      rfl
    | ok place =>
      cases fault : w.writing place with
      | some fault' =>
        simp only [fault]
        let e : Effect := .save place (String.ofList (r.toJson.toList.take fault'.written))
        refine ⟨_, .emit w e, ?_⟩
        rw [result_bind_of_ok (result_get w), created]
        simp only [result_bind_of_ok (result_get w), fault]
        rfl
      | none =>
        simp only [fault]
        let e : Effect := .save place r.toJson
        obtain ⟨_, w', said, did⟩ :=
          ends_say p s!"saved: {path}" { w with effects := e :: w.effects }
        refine ⟨w', (World.Did.emit w e).trans did, ?_⟩
        rw [result_bind_of_ok (result_get w), created]
        simp only [result_bind_of_ok (result_get w), fault]
        rw [result_bind_of_ok (result_emit _ w), said]
        rfl

/-- Whatever the gateway answers, just a line about it follows. -/
theorem ends_sayPushed (p : Plan) (answer? : Option String) (w : World) :
    Ends (match answer? with
      | none => say p "pushed: per-kind totals"
      | some reason =>
        notice .error s!"Failed to push metrics: Push to gateway failed: {reason}") w none := by
  cases answer? with
  | none => exact ends_say p _ w
  | some reason => exact ends_emit rfl

/-- A push may fail or be left out, but that fails nothing else. -/
theorem pushMetrics_did (p : Plan) (t : Tally) (w : World) : ∃ w',
    w.Did w' (p.pushed w t) ∧ result (pushMetrics p t) w = (.ok (), w') := by
  unfold pushMetrics Plan.pushed
  cases p.group with
  | none => exact ⟨w, .refl w, rfl⟩
  | some address =>
    rw [result_bind_of_ok (result_get w)]
    cases gathered : w.gathering t with
    | some reason =>
      have said : Ends (notice .error s!"Failed to push metrics: {reason}") w none := ends_emit rfl
      obtain ⟨_, w', told, did⟩ := said
      exact ⟨w', did, told⟩
    | none =>
      let push : Push := ⟨address, Metrics.text t⟩
      let first : Effect :=
        .notice .info s!"Pushing {push.body.utf8ByteSize} bytes of metrics to {address.text}"
      let told : World := { w with effects := first :: w.effects }
      let second : Effect := .push push (w.gateway push)
      let sent : World := { told with effects := second :: told.effects }
      have did : w.Did sent [second] := (World.Did.emit w first).trans (.emit told second)
      obtain ⟨_, w', ended, did'⟩ := ends_sayPushed p ((w.gateway push).error? push) sent
      exact ⟨w', did.trans did', ended⟩

/-! ### Whole runs -/

variable {o : Options} {p : Plan} {f : Failure}

theorem result_measure_of_plan (begun : o.plan w.machine = .ok p)
    (course : Course) : result (measure o course) w = result (do
      let found ← reported p course
      saveReport p found.report
      pushMetrics p found.tally) w := by
  rw [← measureUntil_nil]
  simp only [measureUntil, prepare, publish, reported, bind_assoc, pure_bind]
  rw [result_bind_of_ok (result_get w), begun, result_bind_of_ok (result_of_ok id p w)]

/-- A run that cannot begin does nothing. -/
theorem result_of_plan_error (course : Course) (refused : o.plan w.machine = .error f) :
    result (measure o course) w = (.error f, w) := by
  unfold measure
  rw [result_bind_of_ok (result_get w), refused]
  rfl

theorem result_of_obstacle (begun : o.plan w.machine = .ok p) (course : Course)
    (obstacle : p.obstacle? w.surroundings = some f) :
    ∃ w', result (measure o course) w = (.error f, w') ∧ w.Did w' [] := by
  have report := ends_reported (w := w) p course
  rw [obstacle] at report
  obtain ⟨w', stopped, did⟩ := report
  rw [result_measure_of_plan begun, result_bind_of_error stopped]
  exact ⟨w', rfl, did⟩

theorem result_of_unsaved (begun : o.plan w.machine = .ok p) (course : Course)
    (free : p.obstacle? w.surroundings = none) (unsaved : p.unsaved? w.surroundings = some f) :
    ∃ w' report, result (measure o course) w = (.error f, w') ∧
      w.Did w' (p.saved w.surroundings report) := by
  have report := ends_reported (w := w) p course
  rw [free] at report
  obtain ⟨found, w₁, gave, did₁⟩ := report
  obtain ⟨w₂, did₂, saving⟩ := saveReport_did p found.report w₁
  rw [did₁.surroundings] at did₂ saving
  rw [unsaved] at saving
  rw [result_measure_of_plan begun, result_bind_of_ok gave, result_bind_of_error saving]
  exact ⟨w₂, found.report, rfl, did₁.trans did₂⟩

theorem result_of_saved (begun : o.plan w.machine = .ok p) (course : Course)
    (free : p.obstacle? w.surroundings = none) (saved : p.unsaved? w.surroundings = none) :
    ∃ w' report tally, result (measure o course) w = (.ok (), w') ∧
      w.Did w' (p.saved w.surroundings report ++ p.pushed w tally) := by
  have report := ends_reported (w := w) p course
  rw [free] at report
  obtain ⟨found, w₁, gave, did₁⟩ := report
  obtain ⟨w₂, did₂, saving⟩ := saveReport_did p found.report w₁
  obtain ⟨w₃, did₃, pushing⟩ := pushMetrics_did p found.tally w₂
  rw [did₁.surroundings] at did₂ saving
  rw [saved] at saving
  have same : p.pushed w₂ found.tally = p.pushed w found.tally := by
    have did := did₁.trans did₂
    rw [Plan.pushed, Plan.pushed, did.gateway, did.gathering]
  rw [same] at did₃
  rw [result_measure_of_plan begun, result_bind_of_ok gave, result_bind_of_ok saving, pushing]
  exact ⟨w₃, found.report, found.tally, rfl, (did₁.trans did₂).trans did₃⟩

/-- Whatever keeps the report from being saved has exit code 1. -/
theorem exitCode_of_unsaved {around : Surroundings} (unsaved : p.unsaved? around = some f) :
    f.exitCode = 1 := by
  have general : exitCodeOfText "Failed to export report" = 1 := by decide +kernel
  obtain ⟨path, -, cause⟩ := Option.bind_eq_some_iff.mp unsaved
  split at cause
  · cases cause
    exact general
  · obtain ⟨fault, -, rfl⟩ := Option.map_eq_some_iff.mp cause
    exact general

theorem push_not_mem_saved (p : Plan) (around : Surroundings) (r : Report) (push : Push)
    (answer : GatewayAnswer) : .push push answer ∉ p.saved around r := by
  unfold Plan.saved
  split
  · split <;> simp
  · simp

/-- A run that is barred does nothing at all. Any other one is stopped by the first thing that
stands in its way before its report, and then it leaves nothing behind; or the report is not saved,
and then nothing is pushed and the exit code is 1; or it succeeds, and has saved the report before
it pushed, whatever became of the push. -/
theorem effects_of_run (o : Options) (course : Course) (w : World) :
    let ended := result (measure o course) w
    (∀ f, Barred o w.machine f → ended = (.error f, w)) ∧
      ((∀ f, ¬ Barred o w.machine f) → ∃ p lasting,
        o.plan w.machine = .ok p ∧ w.Did ended.2 lasting ∧
          match p.obstacle? w.surroundings, p.unsaved? w.surroundings with
          | some f, _ => ended.1 = .error f ∧ lasting = []
          | none, some f => ended.1 = .error f ∧ exitCodeOfRun ended.1 = 1 ∧
            (∃ report, lasting = p.saved w.surroundings report) ∧
            ∀ push answer, .push push answer ∉ lasting
          | none, none => ended.1 = .ok () ∧ exitCodeOfRun ended.1 = 0 ∧
            ∃ report tally, lasting = p.saved w.surroundings report ++ p.pushed w tally) := by
  intro ended
  constructor
  · intro f barred
    exact result_of_plan_error course (barred_iff.mp barred)
  · intro free
    obtain ⟨p, begun⟩ : ∃ p, o.plan w.machine = .ok p := by
      cases planned : o.plan w.machine with
      | ok p => exact ⟨p, rfl⟩
      | error f => exact absurd (barred_iff.mpr planned) (free f)
    cases obstacle : p.obstacle? w.surroundings with
    | some f =>
      obtain ⟨w', stopped, did⟩ := result_of_obstacle begun course obstacle
      have parts : ended = (.error f, w') := stopped
      rw [parts]
      refine ⟨p, [], begun, did, ?_⟩
      simp only [obstacle]
      exact ⟨trivial, trivial⟩
    | none =>
      cases unsaved : p.unsaved? w.surroundings with
      | some f =>
        obtain ⟨w', report, stopped, did⟩ := result_of_unsaved begun course obstacle unsaved
        have parts : ended = (.error f, w') := stopped
        rw [parts]
        refine ⟨p, _, begun, did, ?_⟩
        simp only [obstacle, unsaved]
        exact ⟨trivial, exitCode_of_unsaved unsaved, ⟨report, rfl⟩, push_not_mem_saved p _ report⟩
      | none =>
        obtain ⟨w', report, tally, gave, did⟩ := result_of_saved begun course obstacle unsaved
        have parts : ended = (.ok (), w') := gave
        rw [parts]
        refine ⟨p, _, begun, did, ?_⟩
        simp only [obstacle, unsaved]
        exact ⟨trivial, rfl, report, tally, rfl⟩

end Run

end SyscallMeter
