import SyscallMeter.Web.Address

/-! The parts of an address besides its path: the scheme of an address that was read is one of the
web, and adding segments changes nothing but the path. -/
namespace SyscallMeter.Web.Address

theorem ok_of_bind {ε α β : Type} {x : Except ε α} {f : α → Except ε β} {b : β}
    (done : (x >>= f) = .ok b) : ∃ a, x = .ok a ∧ f a = .ok b := by
  cases x with
  | error reason => cases done
  | ok a => exact ⟨a, rfl, done⟩

theorem scheme_of_parseWeb {scheme : String} {usualPort : Nat} {s : List Char} {a : Address}
    (parsed : parseWeb scheme usualPort s = .ok a) : a.scheme = scheme := by
  obtain ⟨authority, -, built⟩ := ok_of_bind parsed
  cases built
  rfl

theorem scheme_of_parse {text : String} {a : Address} (parsed : parse text = .ok a) :
    a.scheme = "http" ∨ a.scheme = "https" := by
  unfold parse at parsed
  split at parsed
  · cases parsed
  · split at parsed
    · obtain ⟨address, read, kept⟩ := ok_of_bind parsed
      split at kept
      · rename_i web
        cases kept
        rw [scheme_of_parseWeb read]
        exact web
      · cases kept
    · obtain ⟨_, -, other⟩ := ok_of_bind parsed
      cases other
    · obtain ⟨_, -, other⟩ := ok_of_bind parsed
      cases other

theorem popIfEmpty_eq (a : Address) :
    a.popIfEmpty = { a with segments := a.popIfEmpty.segments } := by
  unfold popIfEmpty
  split <;> rfl

theorem push_eq (a : Address) (segment : String) :
    a.push segment = { a with segments := (a.push segment).segments } := by
  unfold push
  split <;> rfl

theorem foldl_push (segments : List String) (a : Address) :
    segments.foldl push a = { a with segments := (segments.foldl push a).segments } := by
  induction segments generalizing a with
  | nil => rfl
  | cons segment rest ih =>
    rw [List.foldl_cons, push_eq]
    exact ih _

end SyscallMeter.Web.Address
