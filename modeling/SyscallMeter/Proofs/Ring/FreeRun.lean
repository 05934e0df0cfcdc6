import SyscallMeter.Proofs.Ring.Invariant
import SyscallMeter.Proofs.Ring.Room

/-! Reservations in a ring that is not empty. A record is taken just if the storage has as many
words in one piece that are not reserved, although the ring never looks for such a piece: it
compares positions. -/
namespace SyscallMeter
namespace Ring

variable {c : RingCapacity} {r : Ring c} {start need p : Nat}

/-- One of the reserved positions is stored in this word. -/
def Reserved (r : Ring c) (word : Nat) : Prop :=
  ∃ p, r.consumer ≤ p ∧ p < r.producer ∧ p % c.words = word

/-- So many words of the storage from one on, which do not cross its end and are not reserved. -/
structure FreeRun (r : Ring c) (start words : Nat) : Prop where
  inside : start + words ≤ c.words
  unreserved : ∀ i < words, ¬ r.Reserved (start + i)

/-- Positions behind the reserved ones are stored in free words for the rest of the lap. -/
theorem freeRun_of_position (behind : r.producer ≤ p) (room : p + need ≤ r.consumer + c.words)
    (inside : p % c.words + need ≤ c.words) : r.FreeRun (p % c.words) need := by
  refine ⟨inside, ?_⟩
  rintro i within ⟨q, reserved, before, same⟩
  have lap_q : r.consumer + (q - r.consumer) = q := by omega
  have lap_i : r.consumer + (p + i - r.consumer) = p + i := by omega
  have together : (r.consumer + (q - r.consumer)) % c.words =
      (r.consumer + (p + i - r.consumer)) % c.words := by
    rw [lap_q, lap_i, add_mod_of_inside (by omega), same]
  rw [add_mod_inj r.consumer (by omega) (by omega)] at together
  omega

/-- The words of a free run belong to positions behind the reserved ones, in the same lap, as the
word of the first reserved position is not among them. -/
theorem FreeRun.position (h : r.FreeRun start need) (used : r.consumer < r.producer)
    (some_words : 0 < need) :
    ∃ p, r.producer ≤ p ∧ p + need ≤ r.consumer + c.words ∧ p % c.words = start := by
  have inside := h.inside
  have stored : start < c.words := by omega
  obtain ⟨k, lap, found⟩ := exists_slot_eq r.consumer ⟨start, stored⟩
  have at_start : (r.consumer + k) % c.words = start := congrArg Fin.val found
  refine ⟨r.consumer + k, ?_, ?_, at_start⟩
  · by_contra early
    exact h.unreserved 0 some_words ⟨r.consumer + k, Nat.le_add_right _ _, by omega, at_start⟩
  · by_contra late
    have around : r.consumer + k + (c.words - k) = r.consumer + c.words := by omega
    have wrapped : (r.consumer + k + (c.words - k)) % c.words = r.consumer % c.words := by
      rw [around, Nat.add_mod_right]
    rw [add_mod_of_inside (by omega), at_start] at wrapped
    exact h.unreserved (c.words - k) (by omega) ⟨r.consumer, Nat.le_refl _, used, wrapped.symm⟩

/-- No record that lies in one piece starts before the padding ends. -/
theorem padding_le (behind : r.producer ≤ p) (inside : p % c.words + need ≤ c.words) :
    r.producer + r.padding need ≤ p := by
  simp only [padding]
  split
  · by_contra early
    have on : r.producer + (p - r.producer) = p := by omega
    have same : (r.producer + (p - r.producer)) % c.words =
        r.producer % c.words + (p - r.producer) := add_mod_of_inside (by omega)
    rw [on] at same
    omega
  · exact behind

/-- While something is reserved, a record is taken just if there is a free run for it. -/
theorem reserve?_isSome_iff_freeRun {length : Nat} (used : r.consumer < r.producer) :
    (r.reserve? length).isSome ↔ length ≤ maxRecordLength ∧
      ∃ start, r.FreeRun start (footprintWords length) := by
  rw [reserve?_isSome_iff]
  refine and_congr_right fun short => ⟨fun room => ?_, fun ⟨start, free⟩ => ?_⟩
  · obtain ⟨-, inside⟩ := r.padding_inside (footprintWords_le (c := c) short)
    exact ⟨_, freeRun_of_position (Nat.le_add_right _ _) (by omega) inside⟩
  · have some_words : 0 < footprintWords length := Nat.add_pos_left Nat.one_pos _
    obtain ⟨p, behind, room, rfl⟩ := free.position used some_words
    have padded := padding_le behind free.inside
    omega

/-- The window of a reservation lies in a free run. -/
theorem freeRun_of_reserve {length : Nat} {w : RingWindow} {s : Ring c}
    (granted : r.reserve? length = some (w, s)) :
    w.length = length ∧ r.FreeRun (w.start % c.words) (footprintWords length) := by
  obtain ⟨short, room, rfl, -⟩ := reserve?_eq_some granted
  obtain ⟨-, inside⟩ := r.padding_inside (footprintWords_le (c := c) short)
  exact ⟨rfl, freeRun_of_position (Nat.le_add_right _ _) (by simp only; omega) inside⟩

end Ring

namespace RingSession

variable {c : RingCapacity}

theorem step_reserve_iff (s : RingSession c) (length : Nat) :
    (s.step (.reserve length)).1 = .reserved true ↔ (s.ring.reserve? length).isSome := by
  simp only [step]
  cases s.ring.reserve? length <;> simp

/-- In a ring that is not empty a record is taken just if it is not too long and there are as many
free words in one piece. Its window lies in such a piece; if it is refused, nothing changes. -/
theorem reserve_iff_freeRun (actions : List RingAction) (length : Nat)
    (used : (after c actions).ring.consumer < (after c actions).ring.producer) :
    let s := after c actions
    ((s.step (.reserve length)).1 = .reserved true ↔ length ≤ maxRecordLength ∧
        ∃ start, s.ring.FreeRun start (Ring.footprintWords length)) ∧
      (∀ w ring, s.ring.reserve? length = some (w, ring) →
        w.length = length ∧ s.ring.FreeRun (w.start % c.words) (Ring.footprintWords length)) ∧
      ((s.step (.reserve length)).1 = .reserved false → (s.step (.reserve length)).2 = s) := by
  intro s
  refine ⟨?_, fun w ring granted => Ring.freeRun_of_reserve granted, fun refused => ?_⟩
  · rw [step_reserve_iff, Ring.reserve?_isSome_iff_freeRun used]
  · revert refused
    simp only [step]
    cases s.ring.reserve? length <;> simp

/-- Of 18 words the twelve in the middle are reserved. Six are free, but no four in one piece. -/
theorem freeRun_of_two_pieces : ∃ c : RingCapacity, c.words = 18 ∧
    (after c (oneRecord 6 ++ [.reserve 44])).ring.consumer = 3 ∧
    (after c (oneRecord 6 ++ [.reserve 44])).ring.producer = 15 ∧
    (∃ start, (after c (oneRecord 6 ++ [.reserve 44])).ring.FreeRun start 3) ∧
    ¬ ∃ start, (after c (oneRecord 6 ++ [.reserve 44])).ring.FreeRun start 4 := by
  let c : RingCapacity := ⟨18, by decide, by decide⟩
  let actions := oneRecord 6 ++ [.reserve 44]
  have consumer : (after c actions).ring.consumer = 3 := by decide +kernel
  have producer : (after c actions).ring.producer = 15 := by decide +kernel
  have used : (after c actions).ring.consumer < (after c actions).ring.producer := by
    rw [consumer, producer]
    decide
  have taken : ((after c actions).step (.reserve 8)).1 = .reserved true := by decide +kernel
  have refused : ((after c actions).step (.reserve 12)).1 ≠ .reserved true := by decide +kernel
  have of_three := (reserve_iff_freeRun actions 8 used).1
  have of_four := (reserve_iff_freeRun actions 12 used).1
  refine ⟨c, rfl, consumer, producer, (of_three.mp taken).2, fun free => ?_⟩
  exact refused (of_four.mpr ⟨by decide, free⟩)

end RingSession
end SyscallMeter
