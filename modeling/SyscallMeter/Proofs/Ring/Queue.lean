import SyscallMeter.Proofs.Ring.Session

/-! The queue that a ring is to its users: windows in the order of their reservations, each with
its bytes and how far it has come. Words, headers, padding and positions play no part in it. -/
namespace SyscallMeter

inductive Stage
  | pending
  | committed
  | discarded
  | delivered
  deriving DecidableEq, Repr

/-- A window as its users know it. -/
structure QueuedWindow where
  length : Nat
  bytes : Octets
  stage : Stage
  deriving DecidableEq, Repr

namespace QueuedWindow

/-- A new window is all zeros. -/
def fresh (length : Nat) : QueuedWindow := ⟨length, List.replicate length 0, .pending⟩

def write (v : QueuedWindow) (bytes : Octets) : QueuedWindow :=
  if v.stage = .pending then { v with bytes := v.bytes.overwrite bytes } else v

def finish (v : QueuedWindow) (e : Ending) : QueuedWindow :=
  if v.stage = .pending then
    { v with stage := if e.publishes then .committed else .discarded }
  else v

/-- The window holds nothing back and is not delivered any more. -/
def Past (v : QueuedWindow) : Prop := v.stage = .discarded ∨ v.stage = .delivered

end QueuedWindow

namespace WindowQueue

/-- One use of the queue. Whether a reservation is granted is left open. The consumer is given the
first committed window that was not delivered, if all windows reserved before it were finished. -/
inductive Step : List QueuedWindow → RingAction → RingAnswer → List QueuedWindow → Prop
  | refuse (q length) : Step q (.reserve length) (.reserved false) q
  | grant (q length) : Step q (.reserve length) (.reserved true) (q ++ [.fresh length])
  | write (q number bytes) : Step q (.write number bytes) .done (q.modify number (·.write bytes))
  | finish (q number e) : Step q (.finish number e) .done (q.modify number (·.finish e))
  | deliver (before v after) (past : ∀ u ∈ before, QueuedWindow.Past u)
      (committed : v.stage = .committed) :
      Step (before ++ v :: after) .next (.taken (some v.bytes))
        (before ++ { v with stage := .delivered } :: after)
  | wait (q) (held : ∀ before v after, q = before ++ v :: after → v.stage = .committed →
        ∃ u ∈ before, u.stage = .pending) :
      Step q .next (.taken none) q

/-- A run of the queue with its answers. -/
inductive Run : List QueuedWindow → List RingAction → List RingAnswer → List QueuedWindow → Prop
  | nil (q) : Run q [] [] q
  | cons {q q' q'' action answer actions answers} (first : Step q action answer q')
      (rest : Run q' actions answers q'') : Run q (action :: actions) (answer :: answers) q''

/-- The records delivered so far, in the order of their reservations. -/
def delivered (q : List QueuedWindow) : List Octets :=
  (q.filter fun v => v.stage = .delivered).map (·.bytes)

/-- Before a delivered window there is none that is open or waits for delivery. -/
def InOrder (q : List QueuedWindow) : Prop :=
  q.Pairwise fun u v => v.stage = .delivered → u.Past

/-- Every window has as many bytes as were reserved. -/
def Sized (q : List QueuedWindow) : Prop := ∀ v ∈ q, v.bytes.length = v.length

variable {q q' : List QueuedWindow}

/-- A change that leaves finished windows alone is a change of one open window, or none at all. -/
theorem modify_cases {f : QueuedWindow → QueuedWindow} (q : List QueuedWindow) (number : Nat)
    (only_open : ∀ v, v.stage ≠ .pending → f v = v) :
    q.modify number f = q ∨ ∃ before v after, q = before ++ v :: after ∧ before.length = number ∧
      v.stage = .pending ∧ q.modify number f = before ++ f v :: after := by
  by_cases inside : number < q.length
  · obtain ⟨before, v, after, split, count, changed⟩ := List.exists_of_modify f inside
    by_cases pending : v.stage = .pending
    · exact .inr ⟨before, v, after, split, count, pending, changed⟩
    · exact .inl (by rw [changed, only_open v pending, split])
  · exact .inl (List.modify_eq_self (Nat.le_of_not_lt inside))

theorem write_of_finished (bytes : Octets) (v : QueuedWindow) (h : v.stage ≠ .pending) :
    v.write bytes = v := if_neg h

theorem finish_of_finished (e : Ending) (v : QueuedWindow) (h : v.stage ≠ .pending) :
    v.finish e = v := if_neg h

theorem write_undelivered (bytes : Octets) (v : QueuedWindow) (h : v.stage = .pending) :
    (v.write bytes).stage ≠ .delivered := by simp [QueuedWindow.write, h]

theorem finish_undelivered (e : Ending) (v : QueuedWindow) (h : v.stage = .pending) :
    (v.finish e).stage ≠ .delivered := by
  cases e <;> simp [QueuedWindow.finish, h, Ending.publishes]

/-- An open window may become anything but delivered. -/
theorem InOrder.modify {f : QueuedWindow → QueuedWindow} (h : InOrder q) (number : Nat)
    (only_open : ∀ v, v.stage ≠ .pending → f v = v)
    (undelivered : ∀ v, v.stage = .pending → (f v).stage ≠ .delivered) :
    InOrder (q.modify number f) := by
  rcases modify_cases q number only_open with same | ⟨before, v, after, rfl, -, pending, changed⟩
  · rwa [same]
  rw [changed]
  obtain ⟨front, back, across⟩ := List.pairwise_append.mp h
  obtain ⟨first, rest⟩ := List.pairwise_cons.mp back
  refine List.pairwise_append.mpr ⟨front, List.pairwise_cons.mpr ⟨?_, rest⟩, ?_⟩
  · intro x mem gone
    rcases first x mem gone with past | past <;> simp [pending] at past
  · intro x mem y behind gone
    rcases List.mem_cons.mp behind with rfl | behind
    · exact absurd gone (undelivered v pending)
    · exact across x mem y (List.mem_cons_of_mem _ behind) gone

theorem Step.inOrder {action : RingAction} {answer : RingAnswer} (h : Step q action answer q')
    (ordered : InOrder q) : InOrder q' := by
  cases h with
  | refuse => exact ordered
  | grant =>
    refine List.pairwise_append.mpr ⟨ordered, List.pairwise_singleton _ _, ?_⟩
    intro u _ v mem gone
    rw [List.mem_singleton.mp mem] at gone
    cases gone
  | write _ number bytes =>
    exact ordered.modify number (write_of_finished bytes) (write_undelivered bytes)
  | finish _ number e =>
    exact ordered.modify number (finish_of_finished e) (finish_undelivered e)
  | deliver before v after past committed =>
    obtain ⟨front, back, across⟩ := List.pairwise_append.mp ordered
    obtain ⟨first, rest⟩ := List.pairwise_cons.mp back
    exact List.pairwise_append.mpr ⟨front, List.pairwise_cons.mpr ⟨fun _ _ _ => .inr rfl, rest⟩,
      fun u mem _ _ _ => past u mem⟩
  | wait => exact ordered

/-- Nothing behind a window that still waits was delivered. -/
theorem InOrder.delivered_behind {before after : List QueuedWindow} {v : QueuedWindow}
    (h : InOrder (before ++ v :: after)) (waits : ¬ v.Past) : delivered after = [] := by
  obtain ⟨first, -⟩ := List.pairwise_cons.mp (List.pairwise_append.mp h).2.1
  have none_delivered : ∀ u ∈ after, ¬ u.stage = .delivered := fun u mem gone =>
    waits (first u mem gone)
  simpa [delivered, List.filter_eq_nil_iff] using none_delivered

theorem delivered_append (front back : List QueuedWindow) :
    delivered (front ++ back) = delivered front ++ delivered back := by simp [delivered]

theorem delivered_cons (v : QueuedWindow) (rest : List QueuedWindow) :
    delivered (v :: rest) =
      if v.stage = .delivered then v.bytes :: delivered rest else delivered rest := by
  by_cases gone : v.stage = .delivered <;> simp [delivered, gone]

theorem delivered_modify {f : QueuedWindow → QueuedWindow} (q : List QueuedWindow) (number : Nat)
    (only_open : ∀ v, v.stage ≠ .pending → f v = v)
    (undelivered : ∀ v, v.stage = .pending → (f v).stage ≠ .delivered) :
    delivered (q.modify number f) = delivered q := by
  rcases modify_cases q number only_open with same | ⟨before, v, after, rfl, -, pending, changed⟩
  · rw [same]
  · simp [changed, delivered_append, delivered_cons, pending, undelivered v pending]

/-- One use delivers what it answers. -/
theorem Step.delivered_eq {action : RingAction} {answer : RingAnswer}
    (h : Step q action answer q') (ordered : InOrder q) :
    delivered q' = delivered q ++ answer.record?.toList := by
  cases h with
  | refuse => simp [RingAnswer.record?]
  | grant => simp [delivered, QueuedWindow.fresh, RingAnswer.record?]
  | write _ number bytes =>
    simp [delivered_modify q number (write_of_finished bytes) (write_undelivered bytes),
      RingAnswer.record?]
  | finish _ number e =>
    simp [delivered_modify q number (finish_of_finished e) (finish_undelivered e),
      RingAnswer.record?]
  | deliver before v after past committed =>
    have behind := ordered.delivered_behind (by simp [QueuedWindow.Past, committed])
    simp [delivered_append, delivered_cons, behind, committed, RingAnswer.record?]
  | wait => simp [RingAnswer.record?]

theorem Sized.modify {f : QueuedWindow → QueuedWindow} (h : Sized q) (number : Nat)
    (keeps : ∀ v, v.bytes.length = v.length → (f v).bytes.length = (f v).length) :
    Sized (q.modify number f) := by
  intro v mem
  obtain ⟨i, inside, rfl⟩ := List.getElem_of_mem mem
  rw [List.length_modify] at inside
  have old := h q[i] (List.getElem_mem inside)
  rw [List.getElem_modify]
  split
  · exact keeps _ old
  · exact old

theorem Step.sized {action : RingAction} {answer : RingAnswer} (h : Step q action answer q')
    (sized : Sized q) : Sized q' := by
  cases h with
  | refuse => exact sized
  | grant =>
    exact List.forall_mem_append.mpr
      ⟨sized, List.forall_mem_singleton.mpr List.length_replicate⟩
  | write _ number bytes =>
    apply sized.modify
    intro v same
    rw [QueuedWindow.write]
    split
    · simpa using same
    · exact same
  | finish _ number e =>
    apply sized.modify
    intro v same
    rw [QueuedWindow.finish]
    split <;> exact same
  | deliver before v after past committed =>
    rw [Sized, List.forall_mem_append, List.forall_mem_cons] at sized ⊢
    exact sized
  | wait => exact sized

/-- A run on an empty queue delivers every window at most once, in the order of the reservations
and past none that is open, and answers exactly the records that it delivers. -/
theorem Run.delivered_eq {actions : List RingAction} {answers : List RingAnswer}
    (h : Run q actions answers q') (ordered : InOrder q) (sized : Sized q) :
    InOrder q' ∧ Sized q' ∧ delivered q' = delivered q ++ answers.filterMap RingAnswer.record? := by
  induction h with
  | nil => simp [ordered, sized]
  | cons first rest ih =>
    obtain ⟨ordered', sized', all⟩ := ih (first.inOrder ordered) (first.sized sized)
    refine ⟨ordered', sized', ?_⟩
    rw [all, first.delivered_eq ordered, List.append_assoc]
    congr 1
    rw [List.filterMap_cons]
    split <;> simp [*]

end WindowQueue

end SyscallMeter
