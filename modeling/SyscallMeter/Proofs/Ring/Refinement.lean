import SyscallMeter.Proofs.Ring.Delivery
import SyscallMeter.Proofs.Ring.Queue

/-! A ring is a queue of windows. The blocks of its layout are the end of the queue, whose front has
been consumed, and every use of the ring is the same use of the queue. -/
namespace SyscallMeter
open RingBlock WindowQueue

def Stage.ofEnding : Option Ending → Stage
  | none => .pending
  | some e => if e.publishes then .committed else .discarded

/-- The window of a record as its users know it. -/
def queued (x : Reservation × Octets) : QueuedWindow :=
  ⟨x.1.window.length, x.2, Stage.ofEnding x.1.ending⟩

variable {c : RingCapacity}

/-- The session is at this queue. The windows before those in the ring have been consumed. -/
structure Tracks (s : RingSession c) (q : List QueuedWindow) (gone : List Reservation)
    (past : List QueuedWindow) (blocks : List RingBlock) : Prop where
  layout : s.ring.Layout blocks
  reservations : s.reservations = gone ++ (records blocks).map Prod.fst
  queue : q = past ++ (records blocks).map queued
  same_number : gone.length = past.length
  consumed : ∀ v ∈ gone, v.ending.isSome ∧ v.window.start < s.ring.consumer
  all_past : ∀ v ∈ past, v.Past
  padded : Padded blocks

theorem tracks_fresh (c : RingCapacity) : Tracks (RingSession.fresh c) [] [] [] [] where
  layout := Ring.Layout.empty c
  reservations := rfl
  queue := rfl
  same_number := rfl
  consumed := by simp
  all_past := by simp
  padded := trivial

theorem modify_append_cons {α : Type} (front back : List α) (x : α) (f : α → α) :
    (front ++ x :: back).modify front.length f = front ++ f x :: back := by
  induction front with
  | nil => rfl
  | cons y front ih => simp [ih]

namespace Tracks

variable {s : RingSession c} {q past : List QueuedWindow} {gone : List Reservation}
  {blocks front back : List RingBlock} {w : RingWindow} {number length : Nat}

/-- The number of an open window leads to its block. -/
theorem window_some (h : Tracks s q gone past blocks) (opened : s.window? number = some w) :
    ∃ front bytes back, blocks = front ++ .record ⟨w, none⟩ bytes :: back ∧
      gone.length + (records front).length = number := by
  simp only [RingSession.window?] at opened
  split at opened
  · rename_i w' found
    obtain rfl := Option.some.inj opened
    rw [h.reservations, List.getElem?_append] at found
    split at found
    · have ended := (h.consumed _ (List.mem_of_getElem? found)).1
      cases ended
    · rename_i live
      rw [List.getElem?_map] at found
      obtain ⟨⟨v, bytes⟩, at_number, rfl⟩ := Option.map_eq_some_iff.mp found
      obtain ⟨front, back, split, count⟩ := exists_of_getElem?_records at_number
      exact ⟨front, bytes, back, split, by omega⟩
  · cases opened

/-- A number without an open window belongs to no pending window of the queue. -/
theorem window_none (h : Tracks s q gone past blocks) (closed : s.window? number = none)
    {v : QueuedWindow} (found : q[number]? = some v) : v.stage ≠ .pending := by
  intro pending
  have same := h.same_number
  rw [h.queue, List.getElem?_append] at found
  split at found
  · rcases h.all_past v (List.mem_of_getElem? found) with past | past <;> simp [pending] at past
  · rename_i live
    rw [List.getElem?_map] at found
    obtain ⟨⟨⟨w, ending⟩, bytes⟩, at_number, rfl⟩ := Option.map_eq_some_iff.mp found
    have unfinished : ending = none := by
      cases ending with
      | none => rfl
      | some e => cases e <;> cases pending
    have opened : s.reservations[number]? = some ⟨w, none⟩ := by
      rw [h.reservations, List.getElem?_append_right (by omega), List.getElem?_map, same, at_number,
        unfinished]
      rfl
    simp [RingSession.window?, opened] at closed

/-- Using a window that is not open changes nothing. -/
theorem modify_closed (h : Tracks s q gone past blocks) (closed : s.window? number = none)
    {f : QueuedWindow → QueuedWindow} (only_open : ∀ v, v.stage ≠ .pending → f v = v) :
    q.modify number f = q := by
  rcases modify_cases q number only_open with same | ⟨before, v, after, split, count, pending, -⟩
  · exact same
  · exact absurd pending (h.window_none closed (by rw [split, ← count]; simp))

/-- A change of one record is a change of one reservation and of one window of the queue. -/
theorem update {ring : Ring c} {u v : Reservation} {old new : Octets}
    {f : QueuedWindow → QueuedWindow} {g : Reservation → Reservation}
    (h : Tracks s q gone past (front ++ .record u old :: back))
    (layout : ring.Layout (front ++ .record v new :: back))
    (consumer : ring.consumer = s.ring.consumer)
    (at_number : gone.length + (records front).length = number)
    (reserved : g u = v) (same : v.window = u.window)
    (window : f (queued (u, old)) = queued (v, new)) :
    Tracks ⟨ring, s.reservations.modify number g⟩ (q.modify number f) gone past
      (front ++ .record v new :: back) where
  layout := layout
  reservations := by
    have before : (gone ++ (records front).map Prod.fst).length = number := by simpa using at_number
    have split : s.reservations =
        (gone ++ (records front).map Prod.fst) ++ u :: (records back).map Prod.fst := by
      simpa using h.reservations
    change s.reservations.modify number g = _
    rw [split, ← before, modify_append_cons, reserved]
    simp
  queue := by
    have before : (past ++ (records front).map queued).length = number := by
      simpa [← h.same_number] using at_number
    have split : q = (past ++ (records front).map queued) ++
        queued (u, old) :: (records back).map queued := by
      simpa using h.queue
    rw [split, ← before, modify_append_cons, window]
    simp
  same_number := h.same_number
  consumed := by
    rw [consumer]
    exact h.consumed
  all_past := h.all_past
  padded := h.padded.exchange same new

/-- A use of the ring is matched by the same use of the queue with the same answer. -/
def Matched (q : List QueuedWindow) (action : RingAction) (answer : RingAnswer)
    (s : RingSession c) : Prop :=
  ∃ q' gone past blocks, WindowQueue.Step q action answer q' ∧ Tracks s q' gone past blocks

theorem write (h : Tracks s q gone past blocks) (number : Nat) (bytes : Octets) :
    Matched q (.write number bytes) (s.step (.write number bytes)).1
      (s.step (.write number bytes)).2 := by
  refine ⟨q.modify number (·.write bytes), gone, past, ?_⟩
  cases window : s.window? number with
  | none =>
    have same := h.modify_closed window (write_of_finished bytes)
    simp only [RingSession.step, window]
    refine ⟨blocks, .write q number bytes, ?_⟩
    rwa [same]
  | some w =>
    obtain ⟨front, old, back, rfl, at_number⟩ := h.window_some window
    simp only [RingSession.step, window]
    have tracks := h.update (g := id) (f := (·.write bytes)) (h.layout.write bytes)
      (by simp [Ring.write]) at_number rfl rfl rfl
    rw [List.modify_id] at tracks
    exact ⟨_, .write q number bytes, tracks⟩

theorem finish (h : Tracks s q gone past blocks) (number : Nat) (e : Ending) :
    Matched q (.finish number e) (s.step (.finish number e)).1 (s.step (.finish number e)).2 := by
  refine ⟨q.modify number (·.finish e), gone, past, ?_⟩
  cases window : s.window? number with
  | none =>
    have same := h.modify_closed window (finish_of_finished e)
    simp only [RingSession.step, window]
    refine ⟨blocks, .finish q number e, ?_⟩
    rwa [same]
  | some w =>
    obtain ⟨front, bytes, back, rfl, at_number⟩ := h.window_some window
    simp only [RingSession.step, window]
    have tracks := h.update (g := (·.finish e)) (f := (·.finish e)) (h.layout.finish e)
      (by rw [e.apply_eq]; rfl) at_number rfl rfl rfl
    exact ⟨_, .finish q number e, tracks⟩

/-- The reservation is refused, or its record is the last in the ring and its window the last in
the queue. -/
theorem reserve (h : Tracks s q gone past blocks) (length : Nat) :
    Matched q (.reserve length) (s.step (.reserve length)).1 (s.step (.reserve length)).2 := by
  cases granted : s.ring.reserve? length with
  | none =>
    simp only [RingSession.step, granted]
    exact ⟨q, gone, past, blocks, .refuse q length, h⟩
  | some reserved =>
    obtain ⟨w, ring⟩ := reserved
    obtain ⟨-, -, rfl, -, consumer, -⟩ := Ring.reserve?_eq_some granted
    simp only [RingSession.step, granted]
    refine ⟨q ++ [.fresh length], gone, past, blocks ++ s.ring.claims length,
      .grant q length, ?_⟩
    refine ⟨h.layout.reserve granted, ?_, ?_, h.same_number, ?_, h.all_past,
      h.padded.append (s.ring.claims_padded length)⟩
    · simp [Ring.records_claims, h.reservations]
    · simp [Ring.records_claims, h.queue, queued, QueuedWindow.fresh, Stage.ofEnding]
    · rw [consumer]
      exact h.consumed

/-- An open window that has only consumed ones before it holds back all that are committed. -/
theorem open_holds {past after : List QueuedWindow} {x : QueuedWindow}
    (all_past : ∀ v ∈ past, v.Past) (pending : x.stage = .pending) :
    WindowQueue.Step (past ++ x :: after) .next (.taken none) (past ++ x :: after) := by
  refine .wait _ fun before v rest split committed => ?_
  rcases List.append_eq_append_iff.mp split with
    ⟨more, before_eq, rest_eq⟩ | ⟨more, past_eq, rest_eq⟩
  · cases more with
    | nil =>
      obtain ⟨rfl, -⟩ := List.cons.inj rest_eq
      simp [pending] at committed
    | cons y more =>
      obtain ⟨rfl, -⟩ := List.cons.inj rest_eq
      exact ⟨x, by simp [before_eq], pending⟩
  · cases more with
    | nil =>
      obtain ⟨rfl, -⟩ := List.cons.inj rest_eq
      simp [pending] at committed
    | cons y more =>
      obtain ⟨rfl, -⟩ := List.cons.inj rest_eq
      rcases all_past v (by simp [past_eq]) with gone | gone <;> simp [gone] at committed

/-- What the consumer passes is consumed from then on: it is delivered or was discarded. -/
theorem delivery_step (blocks : List RingBlock) {past : List QueuedWindow}
    (all_past : ∀ v ∈ past, v.Past) :
    ∃ past', WindowQueue.Step (past ++ (records blocks).map queued) .next
        (.taken (delivery blocks).1) (past' ++ (records (delivery blocks).2).map queued) ∧
      (∀ v ∈ past', v.Past) ∧
      past'.length + (records (delivery blocks).2).length =
        past.length + (records blocks).length := by
  -- a discarded record that is passed joins `past`, which is therefore not fixed
  fun_induction delivery blocks generalizing past with
  | case1 =>
    refine ⟨past, .wait _ fun before v after split committed => ?_, all_past, rfl⟩
    rw [records_nil, List.map_nil, List.append_nil] at split
    rcases all_past v (by simp [split]) with gone | gone <;> simp [gone] at committed
  | case2 start words rest ih => exact ih all_past
  | case3 w bytes rest => exact ⟨past, open_holds all_past rfl, all_past, rfl⟩
  | case4 w e bytes rest published =>
    have committed : (queued (⟨w, some e⟩, bytes)).stage = .committed := by
      simp [queued, Stage.ofEnding, published]
    refine ⟨past ++ [{ queued (⟨w, some e⟩, bytes) with stage := .delivered }], ?_, ?_, ?_⟩
    · rw [List.append_assoc]
      exact .deliver past _ _ all_past committed
    · exact List.forall_mem_append.mpr ⟨all_past, List.forall_mem_singleton.mpr (.inr rfl)⟩
    · simp only [List.length_append, records_record, List.length_cons, List.length_nil]
      omega
  | case5 w e bytes rest hidden ih =>
    have discarded : (queued (⟨w, some e⟩, bytes)).stage = .discarded := by
      simp [queued, Stage.ofEnding, hidden]
    have more_past : ∀ v ∈ past ++ [queued (⟨w, some e⟩, bytes)], v.Past :=
      List.forall_mem_append.mpr ⟨all_past, List.forall_mem_singleton.mpr (.inl discarded)⟩
    obtain ⟨past', step, all_past', count⟩ := ih more_past
    refine ⟨past', ?_, all_past', ?_⟩
    · rw [List.append_assoc] at step
      exact step
    · simp only [List.length_append, List.length_singleton] at count
      simp only [records_record, List.length_cons]
      omega

/-- The consumer is given the first committed window, or waits for the first open one. -/
theorem next (h : Tracks s q gone past blocks) :
    Matched q .next (s.step .next).1 (s.step .next).2 := by
  obtain ⟨found, left⟩ := h.layout.next
  obtain ⟨passed, split, finished⟩ := delivery_suffix blocks
  obtain ⟨past', step, all_past, count⟩ := delivery_step blocks h.all_past
  have layout := h.layout
  have padded := h.padded
  rw [split] at layout padded
  have consumer := layout.consumer_of_suffix left (Ring.nextWithin_producer s.ring c.words)
  simp only [RingSession.step, found]
  rw [← h.queue] at step
  refine ⟨_, gone ++ (records passed).map Prod.fst, past', (delivery blocks).2, step, left, ?_, rfl,
    ?_, List.forall_mem_append.mpr ⟨?_, ?_⟩, all_past, padded.suffix⟩
  · have reserved := h.reservations
    rw [split, records_append] at reserved
    simpa using reserved
  · have same := h.same_number
    have parts := congrArg (fun l => (records l).length) split
    simp only [records_append, List.length_append] at parts
    simp only [List.length_append, List.length_map]
    omega
  · intro v mem
    obtain ⟨ended, before⟩ := h.consumed v mem
    exact ⟨ended, by simp only; omega⟩
  · intro v mem
    obtain ⟨⟨u, bytes⟩, among, rfl⟩ := List.mem_map.mp mem
    have block := mem_of_mem_records among
    have ended := finished _ block
    have bounds := (tiles_append.mp layout.tiles).1.bounds block
    have pos := (layout.fits _ (List.mem_append_left _ block)).words_pos
    refine ⟨by simpa [header?] using ended, ?_⟩
    simp only [RingBlock.start] at bounds
    simp only
    omega

/-- Every use of the ring is matched. -/
theorem step (h : Tracks s q gone past blocks) (action : RingAction) :
    Matched q action (s.step action).1 (s.step action).2 := by
  cases action with
  | reserve length => exact h.reserve length
  | write number bytes => exact h.write number bytes
  | finish number e => exact h.finish number e
  | next => exact h.next

/-- Every run of the ring is a run of the queue with the same answers. -/
theorem run (h : Tracks s q gone past blocks) (actions : List RingAction) :
    ∃ q' gone' past' blocks', WindowQueue.Run q actions (s.run actions).1 q' ∧
      Tracks (s.run actions).2 q' gone' past' blocks' := by
  induction actions generalizing s q gone past blocks with
  | nil => exact ⟨q, gone, past, blocks, .nil q, h⟩
  | cons action rest ih =>
    obtain ⟨q₁, _, _, _, first, tracks⟩ := h.step action
    obtain ⟨q', gone', past', blocks', others, tracks'⟩ := ih tracks
    exact ⟨q', gone', past', blocks', .cons first others, tracks'⟩

end Tracks

/-- A ring is a first-in, first-out queue of committed windows. Whatever is done with a ring of any
capacity, a queue does the same with the same answers. It delivers windows in the order of their
reservations, past none that is open, each at most once and with as many bytes as were reserved,
and the records that the consumer was given are the delivered ones. -/
theorem ring_is_fifo (c : RingCapacity) (actions : List RingAction) :
    ∃ q, WindowQueue.Run [] actions ((RingSession.fresh c).run actions).1 q ∧
      ((RingSession.fresh c).run actions).1.filterMap RingAnswer.record? = delivered q ∧
      InOrder q ∧ Sized q := by
  obtain ⟨q, _, _, _, run, -⟩ := (tracks_fresh c).run actions
  obtain ⟨ordered, sized, all⟩ := run.delivered_eq .nil (by simp [Sized])
  exact ⟨q, run, by simpa [delivered] using all.symm, ordered, sized⟩

end SyscallMeter
