import SyscallMeter.Proofs.Run.Effects

/-! The failures of a run that has begun: none of them is a reason to refuse a run. So a run ends in
a failure with a documented exit code exactly if it is refused. -/
namespace SyscallMeter

/-- The failures of a run that has begun. -/
inductive Failure.Late : Failure → Prop
  | loading (e : ProbeError) : Late (.loading e)
  | attaching (e : ProbeError) : Late (.attaching e)
  | noEvents : Late .noEvents
  | events (reason : String) : Late (.events reason)
  | totals (e : ProbeError) : Late (.totals e)
  | report (e : WriteError) : Late (.report e)
  | unwritten (reason : String) : Late (.unwritten reason)

theorem Failure.Late.undocumented {f : Failure} (late : f.Late) : f.documentedCode? = none := by
  cases late <;> rfl

theorem late_of_attaching {ops : List Operation} {around : Surroundings} {f : Failure}
    (failed : attaching? ops around = some f) : f.Late := by
  obtain ⟨op, -, refused⟩ := List.exists_of_findSome?_eq_some failed
  split at refused
  · obtain ⟨e, -, rfl⟩ := Option.map_eq_some_iff.mp refused
    exact .attaching e
  · cases refused

namespace Plan

variable {p : Plan} {around : Surroundings} {f : Failure}

theorem late_of_loading (failed : p.loading? around = some f) : f.Late := by
  unfold loading? at failed
  split at failed
  · obtain ⟨reason, -, rfl⟩ := Option.map_eq_some_iff.mp failed
    exact .loading _
  · cases failed
    exact .loading _

theorem late_of_events (failed : p.events? around = some f) : f.Late := by
  unfold events? at failed
  split at failed
  · obtain ⟨e, -, cause⟩ := Option.map_eq_some_iff.mp failed
    split at cause
    · exact cause ▸ .noEvents
    · exact cause ▸ .events _
  · cases failed

theorem late_of_totals (failed : p.totals? around = some f) : f.Late := by
  unfold totals? at failed
  split at failed
  · obtain ⟨e, -, rfl⟩ := Option.map_eq_some_iff.mp failed
    exact .totals e
  · cases failed

theorem late_of_obstacle (failed : p.obstacle? around = some f) : f.Late := by
  simp only [obstacle?, Option.orElse_eq_orElse, Option.orElse_eq_or,
    Option.or_eq_some_iff] at failed
  obtain (loading | ⟨-, attaching⟩) | ⟨-, events | ⟨-, totals⟩⟩ := failed
  · exact late_of_loading loading
  · exact late_of_attaching attaching
  · exact late_of_events events
  · exact late_of_totals totals

theorem late_of_unsaved (failed : p.unsaved? around = some f) : f.Late := by
  obtain ⟨path, -, cause⟩ := Option.bind_eq_some_iff.mp failed
  split at cause
  · cases cause
    exact .report _
  · obtain ⟨fault, -, rfl⟩ := Option.map_eq_some_iff.mp cause
    exact .unwritten _

end Plan

namespace Run

/-- A run that may begin fails for none of the reasons to refuse one. -/
theorem late_of_plan {o : Options} {course : Course} {w w' : World} {p : Plan} {f : Failure}
    (begun : o.plan w.machine = .ok p) (failed : result (measure o course) w = (.error f, w')) :
    f.Late := by
  cases obstacle : p.obstacle? w.surroundings with
  | some f' =>
    obtain ⟨_, stopped, -⟩ := result_of_obstacle begun course obstacle
    rw [stopped] at failed
    cases failed
    exact Plan.late_of_obstacle obstacle
  | none =>
    cases unsaved : p.unsaved? w.surroundings with
    | some f' =>
      obtain ⟨_, _, stopped, -⟩ := result_of_unsaved begun course obstacle unsaved
      rw [stopped] at failed
      cases failed
      exact Plan.late_of_unsaved unsaved
    | none =>
      obtain ⟨_, _, _, gave, -⟩ := result_of_saved begun course obstacle unsaved
      rw [gave] at failed
      cases failed

/-- A run ends in a failure with a documented exit code exactly if it is refused, and then it has
done nothing. -/
theorem result_eq_error_iff (o : Options) (course : Course) (w : World) {f : Failure} {code : Nat}
    (documented : f.documentedCode? = some code) :
    (result (measure o course) w).1 = .error f ↔ Refusal o w.machine f := by
  constructor
  · intro failed
    cases begun : o.plan w.machine with
    | ok p =>
      have late := late_of_plan begun (Prod.ext failed rfl)
      rw [late.undocumented] at documented
      cases documented
    | error refused =>
      rw [result_of_plan_error course begun, Except.error.injEq] at failed
      exact .of_plan documented (failed ▸ begun)
  · intro refused
    rw [result_of_plan_error course refused.plan]

end Run

end SyscallMeter
