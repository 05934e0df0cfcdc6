import SyscallMeter.Run.Measurement

/-! What a computation in the world gives: its outcome and the world that it leaves, from those of
its parts. -/
namespace SyscallMeter.Run

variable {α β : Type}

/-- The outcome of a computation, and the world that it leaves. -/
def result (x : Run α) (w : World) : Except Failure α × World := x.run.run w

@[simp] theorem result_get (w : World) : result get w = (.ok w, w) := rfl

@[simp] theorem result_modify (change : World → World) (w : World) :
    result (modify change) w = (.ok (), change w) := rfl

theorem result_bind (x : Run α) (next : α → Run β) (w : World) :
    result (x >>= next) w = match result x w with
      | (.ok a, w') => result (next a) w'
      | (.error f, w') => (.error f, w') := by
  simp only [result, ExceptT.run_bind, StateT.run_bind]
  rcases hx : StateT.run x.run w with ⟨_ | _, w'⟩ <;> rfl

theorem result_bind_of_ok {x : Run α} {a : α} {w w' : World} (h : result x w = (.ok a, w'))
    (next : α → Run β) : result (x >>= next) w = result (next a) w' := by
  rw [result_bind, h]

theorem result_bind_of_error {x : Run α} {f : Failure} {w w' : World}
    (h : result x w = (.error f, w')) (next : α → Run β) :
    result (x >>= next) w = (.error f, w') := by
  rw [result_bind, h]

@[simp] theorem result_of_ok {ε : Type} (cause : ε → Failure) (a : α) (w : World) :
    result (of cause (.ok a)) w = (.ok a, w) := rfl

@[simp] theorem result_emit (e : Effect) (w : World) :
    result (emit e) w = (.ok (), { w with effects := e :: w.effects }) := rfl

/-- From a world, the computation succeeds with an outcome and a world for which this holds. -/
def Gives (x : Run α) (w : World) (post : α → World → Prop) : Prop :=
  ∃ a w', result x w = (.ok a, w') ∧ post a w'

section Gives

variable {w : World} {post : α → World → Prop}

theorem Gives.pure {a : α} (h : post a w) : Gives (Pure.pure a) w post := ⟨a, w, rfl, h⟩

theorem Gives.bind {x : Run α} {next : α → Run β} {mid : α → World → Prop}
    {post : β → World → Prop} (hx : Gives x w mid)
    (hnext : ∀ a w', mid a w' → Gives (next a) w' post) : Gives (x >>= next) w post := by
  obtain ⟨a, w', hw, hm⟩ := hx
  rw [Gives, result_bind_of_ok hw]
  exact hnext a w' hm

theorem Gives.bind_of_ok {x : Run α} {a : α} {w' : World} {next : α → Run β}
    {post : β → World → Prop} (hx : result x w = (.ok a, w')) (hnext : Gives (next a) w' post) :
    Gives (x >>= next) w post := by
  rwa [Gives, result_bind_of_ok hx]

theorem Gives.imp {post' : α → World → Prop} {x : Run α} (hx : Gives x w post)
    (h : ∀ a w', post a w' → post' a w') : Gives x w post' := by
  obtain ⟨a, w', hw, hp⟩ := hx
  exact ⟨a, w', hw, h a w' hp⟩

theorem Gives.get_bind {next : World → Run α} (h : Gives (next w) w post) :
    Gives (get >>= next) w post := h

theorem Gives.modify_bind {change : World → World} {next : Unit → Run α}
    (h : Gives (next ()) (change w) post) : Gives (modify change >>= next) w post := h

end Gives

end SyscallMeter.Run
