import SyscallMeter.Proofs.Run.Result

/-! How computations end that do nothing which lasts: with which failure, if with any. What may
stand in the way of a run stays as it is meanwhile, so the failure of a computation is that of its
first part that fails. -/
namespace SyscallMeter

/-- What may stand in the way of a run that has begun. None of it changes while the run goes on. -/
structure Surroundings where
  files : Files
  refusals : Kernel.Refusals
  writing : FilePlace → Option WriteFault

def World.surroundings (w : World) : Surroundings := ⟨w.machine.files, w.kernel.refusals, w.writing⟩

namespace Kernel.Host

theorem refusals_enter (h : Host) (tracepoint : String) (e : Entry) :
    (h.enter tracepoint e).refusals = h.refusals := by
  unfold enter
  induction h.attached.filter (fun op => op.tracepoint == tracepoint) generalizing h with
  | nil => rfl
  | cons op rest ih => exact ih (h.probed op e)

theorem refusals_enterTimes (h : Host) (tracepoint : String) (e : Entry) (times : Nat) :
    (h.enterTimes tracepoint e times).refusals = h.refusals := by
  induction times generalizing h with
  | zero => rfl
  | succ times ih => exact (ih (h.enter tracepoint e)).trans (h.refusals_enter tracepoint e)

end Kernel.Host

/-- From one world to the next just these effects were added of those that last, in this order, and
all that a run depends on stayed as it was. -/
structure World.Did (w w' : World) (lasting : List Effect) : Prop where
  effects : ∃ done, w'.effects = done ++ w.effects ∧ done.reverse.filter Effect.isLasting = lasting
  surroundings : w'.surroundings = w.surroundings
  gateway : w'.gateway = w.gateway
  gathering : w'.gathering = w.gathering

namespace World.Did

variable {w w' w'' : World} {lasting lasting' : List Effect}

theorem refl (w : World) : w.Did w [] := ⟨⟨[], rfl, rfl⟩, rfl, rfl, rfl⟩

theorem trans (first : w.Did w' lasting) (second : w'.Did w'' lasting') :
    w.Did w'' (lasting ++ lasting') := by
  obtain ⟨done, added, rfl⟩ := first.effects
  obtain ⟨done', added', rfl⟩ := second.effects
  refine ⟨⟨done' ++ done, ?_, ?_⟩, second.surroundings.trans first.surroundings,
    second.gateway.trans first.gateway, second.gathering.trans first.gathering⟩
  · rw [added', added, List.append_assoc]
  · rw [List.reverse_append, List.filter_append]

theorem emit (w : World) (e : Effect) :
    w.Did { w with effects := e :: w.effects } ([e].filter Effect.isLasting) :=
  ⟨⟨[e], rfl, rfl⟩, rfl, rfl, rfl⟩

theorem happen (w : World) (h : Happening) : w.Did (w.happen h) [] := by
  cases h with
  | syscall tracepoint entry times =>
    refine ⟨⟨[], rfl, rfl⟩, ?_, rfl, rfl⟩
    simp only [World.surroundings, World.happen, modifyKernel, Kernel.Host.refusals_enterTimes]
  | memory | inject | setStat | exit | exitAll | interrupt =>
    exact ⟨⟨[], rfl, rfl⟩, rfl, rfl, rfl⟩

theorem pass (w : World) (happenings : List Happening) : w.Did (w.pass happenings) [] := by
  have all : w.Did (happenings.foldl World.happen w) [] := by
    induction happenings generalizing w with
    | nil => exact refl w
    | cons h rest ih => exact (happen w h).trans (ih (w.happen h))
  exact ⟨all.effects, all.surroundings, all.gateway, all.gathering⟩

end World.Did

namespace Run

variable {α β : Type} {w : World} {f? : Option Failure}

/-- From a world, the computation ends in this failure or in none, and does nothing that lasts. -/
def Ends (x : Run α) (w : World) : Option Failure → Prop
  | none => Gives x w fun _ w' => w.Did w' []
  | some f => ∃ w', result x w = (.error f, w') ∧ w.Did w' []

theorem ends_pure (a : α) : Ends (pure a) w none := Gives.pure (.refl w)

theorem ends_throw (f : Failure) : Ends (throw f : Run α) w (some f) := ⟨w, rfl, .refl w⟩

theorem ends_emit {e : Effect} (passing : e.isLasting = false) : Ends (emit e) w none := by
  have did := World.Did.emit w e
  rw [List.filter_cons_of_neg (by simp [passing]), List.filter_nil] at did
  exact ⟨(), _, rfl, did⟩

theorem ends_modify {change : World → World} (quiet : w.Did (change w) []) :
    Ends (modify change : Run Unit) w none := ⟨(), _, rfl, quiet⟩

theorem Ends.congr {x y : Run α} (h : Ends y w f?) (same : result x w = result y w) :
    Ends x w f? := by
  cases f? <;> simpa only [Ends, Gives, same] using h

theorem Ends.get_bind {next : World → Run α} (h : Ends (next w) w f?) :
    Ends (get >>= next) w f? := by
  cases f? <;> exact h

theorem Ends.stop {x : Run α} {next : α → Run β} {f : Failure} (hx : Ends x w (some f)) :
    Ends (x >>= next) w (some f) := by
  obtain ⟨w', failed, did⟩ := hx
  exact ⟨w', result_bind_of_error failed next, did⟩

/-- The first failure is that of the whole. -/
theorem Ends.bind {x : Run α} {next : α → Run β} {first second : Option Failure}
    (hx : Ends x w first) (hnext : ∀ a w', w.Did w' [] → Ends (next a) w' second) :
    Ends (x >>= next) w (first <|> second) := by
  cases first with
  | some f => exact hx.stop
  | none =>
    obtain ⟨a, w', gave, did⟩ := hx
    cases second with
    | none =>
      obtain ⟨b, w'', gave', did'⟩ := hnext a w' did
      exact ⟨b, w'', (result_bind_of_ok gave next).trans gave', did.trans did'⟩
    | some f =>
      obtain ⟨w'', failed, did'⟩ := hnext a w' did
      exact ⟨w'', (result_bind_of_ok gave next).trans failed, did.trans did'⟩

/-- Behind a part that does not fail. -/
theorem Ends.next {x : Run α} {next : α → Run β} (hx : Ends x w none)
    (hnext : ∀ a w', w.Did w' [] → Ends (next a) w' f?) : Ends (x >>= next) w f? := by
  have both := hx.bind hnext
  cases f? <;> exact both

/-- In front of a part that does not fail. -/
theorem Ends.before {x : Run α} {next : α → Run β} (hx : Ends x w f?)
    (hnext : ∀ a w', w.Did w' [] → Ends (next a) w' none) : Ends (x >>= next) w f? := by
  have both := hx.bind hnext
  cases f? <;> exact both

theorem ends_forM {action : α → Run Unit} (h : ∀ a w, Ends (action a) w none) (list : List α) :
    Ends (list.forM action) w none := by
  induction list generalizing w with
  | nil => exact ends_pure ()
  | cons a rest ih => exact (h a w).next fun _ _ _ => ih

/-- A change of the kernel that lets it refuse the same. -/
theorem ends_modifyKernel {change : Kernel.Host → Kernel.Host}
    (same : (change w.kernel).refusals = w.kernel.refusals) :
    Ends (modifyKernel change) w none := by
  refine ends_modify ⟨⟨[], rfl, rfl⟩, ?_, rfl, rfl⟩
  simp only [World.surroundings, World.modifyKernel, same]

theorem ends_ite {c : Prop} [Decidable c] {x y : Run α} (hx : Ends x w f?) (hy : Ends y w f?) :
    Ends (if c then x else y) w f? := by
  split
  · exact hx
  · exact hy

end Run

end SyscallMeter
