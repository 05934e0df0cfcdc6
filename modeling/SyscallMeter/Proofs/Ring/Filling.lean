import SyscallMeter.Proofs.Ring.Room

/-! How many events a ring takes when nothing is consumed. The number of records of one size that
still fit is a function of the two cursors: every reservation that is granted takes one of them, and
a reservation is refused once there are none. -/
namespace SyscallMeter

/-- Whether room was granted, if room was asked for. -/
def RingAnswer.granted? : RingAnswer → Option Bool
  | reserved granted => some granted
  | _ => none

/-- Uses of a ring that reserve just what its transport reserves, room for one event, and consume
nothing. -/
def RingAction.ProducesEvents : RingAction → Prop
  | .reserve length => length = Event.recordSize
  | .write _ _ | .finish _ _ => True
  | .next => False

namespace Ring

variable {c : RingCapacity} {r : Ring c}

/-- Records of `need` words that the ring still takes if nothing is consumed: those that fit up to
the end of the storage, and from there those that fit up to the consumer. -/
def roomFor (r : Ring c) (need : Nat) : Nat :=
  let free := c.words - (r.producer - r.consumer)
  let tail := c.words - r.producer % c.words
  if tail ≤ free then tail / need + (free - tail) / need else free / need

theorem padding_of_fits {need : Nat} (fits : need ≤ c.words - r.producer % c.words) :
    r.padding need = 0 := if_neg (Nat.not_lt.mpr fits)

theorem padding_of_not_fits {need : Nat} (crosses : ¬ need ≤ c.words - r.producer % c.words) :
    r.padding need = c.words - r.producer % c.words := if_pos (Nat.lt_of_not_le crosses)

/-- Only the cursors count. -/
theorem roomFor_congr {s : Ring c} (producer : s.producer = r.producer)
    (consumer : s.consumer = r.consumer) (need : Nat) : s.roomFor need = r.roomFor need := by
  simp only [roomFor, producer, consumer]

theorem roomFor_of_drained (drained : r.consumer = r.producer) (need : Nat) :
    r.roomFor need = (c.words - r.producer % c.words) / need + r.producer % c.words / need := by
  have below := Nat.mod_lt r.producer c.words_pos
  have rest : c.words - (c.words - r.producer % c.words) = r.producer % c.words := by omega
  simp only [roomFor, drained, Nat.sub_self, Nat.sub_zero, rest]
  rw [if_pos (Nat.sub_le _ _)]

variable {blocks : List RingBlock} {length : Nat}

/-- A reservation is refused only if there is room for no record of its size. -/
theorem roomFor_of_refused (h : r.Layout blocks) (short : length ≤ maxRecordLength)
    (refused : r.reserve? length = none) : r.roomFor (footprintWords length) = 0 := by
  have below := Nat.mod_lt r.producer c.words_pos
  have bound := h.outstanding_le
  have order := h.consumer_le
  have full : ¬ (r.reserve? length).isSome := by simp [refused]
  rw [reserve?_isSome_iff, and_iff_right short] at full
  simp only [roomFor]
  by_cases fits : footprintWords length ≤ c.words - r.producer % c.words
  · rw [padding_of_fits fits] at full
    rw [if_neg (by omega), Nat.div_eq_of_lt (by omega)]
  · rw [padding_of_not_fits fits] at full
    split
    · rw [Nat.div_eq_of_lt (by omega), Nat.div_eq_of_lt (by omega)]
    · rw [Nat.div_eq_of_lt (by omega)]

/-- A record in front of the end of the storage takes the room of one. -/
theorem roomFor_advance {s : Ring c} {need : Nat} (some_words : 0 < need)
    (order : r.consumer ≤ r.producer) (fits : need ≤ c.words - r.producer % c.words)
    (room : r.producer + need - r.consumer ≤ c.words)
    (producer : s.producer = r.producer + need) (consumer : s.consumer = r.consumer) :
    r.roomFor need = s.roomFor need + 1 := by
  have below := Nat.mod_lt r.producer c.words_pos
  simp only [roomFor, producer, consumer]
  rcases Nat.lt_or_eq_of_le fits with inside | whole
  · have moved : (r.producer + need) % c.words = r.producer % c.words + need :=
      add_mod_of_inside (by omega)
    rw [moved]
    by_cases ahead : c.words - r.producer % c.words ≤ c.words - (r.producer - r.consumer)
    · rw [if_pos ahead, if_pos (by omega), Nat.div_eq_sub_div some_words fits, Nat.add_right_comm]
      congr 3 <;> omega
    · rw [if_neg ahead, if_neg (by omega), Nat.div_eq_sub_div some_words (by omega)]
      congr 2
      omega
  · -- the record ends where the storage does, and the next one starts at the front
    have moved : (r.producer + need) % c.words = 0 := by
      have front := next_lap_mod (c := c) r.producer 0
      rwa [Nat.add_zero, Nat.zero_mod, ← whole] at front
    rw [moved, if_pos (by omega), if_neg (by omega), ← whole, Nat.div_self some_words, Nat.add_comm]
    congr 2
    omega

/-- So does a record at the front of the storage, once there is room for none in front of its
end. -/
theorem roomFor_wrap {s : Ring c} {need : Nat} (some_words : 0 < need)
    (order : r.consumer ≤ r.producer) (crosses : c.words - r.producer % c.words < need)
    (room : r.producer + (c.words - r.producer % c.words) + need - r.consumer ≤ c.words)
    (producer : s.producer = r.producer + (c.words - r.producer % c.words) + need)
    (consumer : s.consumer = r.consumer) : r.roomFor need = s.roomFor need + 1 := by
  have below := Nat.mod_lt r.producer c.words_pos
  have moved : (r.producer + (c.words - r.producer % c.words) + need) % c.words = need := by
    rw [next_lap_mod, Nat.mod_eq_of_lt (by omega)]
  simp only [roomFor, producer, consumer]
  rw [moved, if_pos (by omega), if_neg (by omega), Nat.div_eq_of_lt crosses, Nat.zero_add,
    Nat.div_eq_sub_div some_words (by omega)]
  congr 2
  omega

/-- A granted reservation takes the room of one record. -/
theorem roomFor_of_granted (h : r.Layout blocks) {w : RingWindow} {s : Ring c}
    (granted : r.reserve? length = some (w, s)) :
    r.roomFor (footprintWords length) = s.roomFor (footprintWords length) + 1 := by
  obtain ⟨-, room, -, producer, consumer, -⟩ := reserve?_eq_some granted
  have some_words : 0 < footprintWords length := Nat.add_pos_left Nat.one_pos _
  by_cases fits : footprintWords length ≤ c.words - r.producer % c.words
  · rw [padding_of_fits fits, Nat.add_zero] at room producer
    exact roomFor_advance some_words h.consumer_le fits room producer consumer
  · rw [padding_of_not_fits fits] at room producer
    exact roomFor_wrap some_words h.consumer_le (Nat.lt_of_not_le fits) room producer consumer

end Ring

namespace RingSession

variable {c : RingCapacity}

/-- Writing to windows and ending them moves no cursor. -/
theorem roomFor_write (s : RingSession c) (number : Nat) (bytes : Octets) (need : Nat) :
    (s.step (.write number bytes)).2.ring.roomFor need = s.ring.roomFor need := by
  simp only [step]
  split
  · rfl
  · exact Ring.roomFor_congr (by simp [Ring.write]) (by simp [Ring.write]) need

theorem roomFor_finish (s : RingSession c) (number : Nat) (e : Ending) (need : Nat) :
    (s.step (.finish number e)).2.ring.roomFor need = s.ring.roomFor need := by
  simp only [step]
  split
  · rfl
  · rw [e.apply_eq]
    exact Ring.roomFor_congr rfl rfl need

/-- While nothing is consumed, as many events are taken as there was room for, and after them
none. -/
theorem granted_run {s : RingSession c} {q past : List QueuedWindow} {gone : List Reservation}
    {blocks : List RingBlock} (tracks : Tracks s q gone past blocks) (actions : List RingAction)
    (events : ∀ action ∈ actions, action.ProducesEvents) :
    let calls := actions.count (.reserve Event.recordSize)
    let room := s.ring.roomFor (Ring.footprintWords Event.recordSize)
    (s.run actions).1.filterMap RingAnswer.granted? =
      List.replicate (min calls room) true ++ List.replicate (calls - room) false := by
  induction actions generalizing s q gone past blocks with
  | nil => simp [run]
  | cons action rest ih =>
    obtain ⟨_, _, _, _, -, after⟩ := tracks.step action
    have others := ih after fun a mem => events a (List.mem_cons_of_mem _ mem)
    have first := events action List.mem_cons_self
    simp only [run, List.filterMap_cons] at others ⊢
    cases action with
    | reserve length =>
      obtain rfl : length = Event.recordSize := first
      rw [List.count_cons_self]
      cases granted : s.ring.reserve? Event.recordSize with
      | none =>
        have none_left := Ring.roomFor_of_refused tracks.layout (by decide) granted
        simp only [step, granted, none_left] at others ⊢
        simpa [RingAnswer.granted?, List.replicate_succ] using others
      | some taken =>
        obtain ⟨w, ring⟩ := taken
        have one_less := Ring.roomFor_of_granted tracks.layout granted
        simp only [step, granted, one_less] at others ⊢
        simpa [RingAnswer.granted?, List.replicate_succ, Nat.add_min_add_right] using others
    | write number bytes =>
      rw [roomFor_write] at others
      rw [List.count_cons_of_ne (by simp)]
      have done : (s.step (.write number bytes)).1.granted? = none := by
        simp only [step]
        split <;> rfl
      simpa [done] using others
    | finish number e =>
      rw [roomFor_finish] at others
      rw [List.count_cons_of_ne (by simp)]
      have done : (s.step (.finish number e)).1.granted? = none := by
        simp only [step]
        split <;> rfl
      simpa [done] using others
    | next => exact absurd first id

/-- Of the events that are reserved in a drained ring while nothing is consumed, just the first ones
are taken, whatever is done with their windows. How many depends on the producers' position, and is
a third of the words or one less. -/
theorem events_until_full (actions more : List RingAction)
    (drained : (after c actions).ring.outstandingBytes = 0)
    (events : ∀ action ∈ more, action.ProducesEvents) :
    let position := (after c actions).ring.producer % c.words
    let room := (c.words - position) / 3 + position / 3
    let calls := more.count (.reserve Event.recordSize)
    ((after c actions).run more).1.filterMap RingAnswer.granted? =
        List.replicate (min calls room) true ++ List.replicate (calls - room) false ∧
      room ≤ c.words / 3 ∧ c.words / 3 ≤ room + 1 ∧ (actions = [] → room = c.words / 3) := by
  intro position room calls
  obtain ⟨q, gone, past, blocks, -, tracks⟩ := (tracks_fresh c).run actions
  change Tracks (after c actions) q gone past blocks at tracks
  have inside : position < c.words := Nat.mod_lt _ c.words_pos
  have taken := granted_run tracks more events
  rw [Ring.roomFor_of_drained (consumer_eq_of_drained drained)] at taken
  refine ⟨taken, by omega, by omega, ?_⟩
  rintro rfl
  have front : position = 0 := Nat.zero_mod c.words
  simp [room, front]

/-- Of six events a ring of 18 words takes five when its producers stand at the fifth word. -/
theorem five_events_of_six : ∃ c : RingCapacity, c.words = 18 ∧
    (after c (oneRecord 12)).ring.outstandingBytes = 0 ∧
    ((after c (oneRecord 12)).run (List.replicate 6 (.reserve 6))).1.filterMap RingAnswer.granted? =
      [true, true, true, true, true, false] := by
  have drained : (after ⟨18, by decide, by decide⟩ (oneRecord 12)).ring.outstandingBytes = 0 := by
    decide +kernel
  have short : 12 ≤ maxRecordLength := by decide
  have producer := (after_oneRecord ⟨18, by decide, by decide⟩ short).2
  have events : ∀ action ∈ List.replicate 6 (.reserve 6), RingAction.ProducesEvents action := by
    intro action mem
    rw [List.eq_of_mem_replicate mem]
    rfl
  obtain ⟨taken, -⟩ := events_until_full (oneRecord 12) _ drained events
  rw [producer] at taken
  exact ⟨_, rfl, drained, taken⟩

end RingSession
end SyscallMeter
