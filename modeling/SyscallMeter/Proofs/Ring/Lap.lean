import Mathlib.Data.Nat.ModEq
import SyscallMeter.Ring

/-! The storage of a ring, read once around from a position on. Within one lap no two positions
share a word, so stores, loads and clearing act on a lap as on a list. -/
namespace SyscallMeter
namespace Ring

variable {c : RingCapacity}

/-- The words from a position on, once around the storage. -/
def lap (r : Ring c) (position : Nat) : List UInt32 :=
  (List.range c.words).map fun i => r.wordAt (position + i)

@[simp] theorem length_lap (r : Ring c) (p : Nat) : (r.lap p).length = c.words := by simp [lap]

theorem getElem_lap (r : Ring c) (p i : Nat) (h : i < (r.lap p).length) :
    (r.lap p)[i] = r.wordAt (p + i) := by simp [lap]

@[simp] theorem setWord_producer (r : Ring c) (p : Nat) (w : UInt32) :
    (r.setWord p w).producer = r.producer := rfl

@[simp] theorem setWord_consumer (r : Ring c) (p : Nat) (w : UInt32) :
    (r.setWord p w).consumer = r.consumer := rfl

@[simp] theorem storeWords_producer (r : Ring c) (p : Nat) (ws : List UInt32) :
    (r.storeWords p ws).producer = r.producer := by
  induction ws generalizing r p with
  | nil => rfl
  | cons w ws ih => simp [storeWords, ih]

@[simp] theorem storeWords_consumer (r : Ring c) (p : Nat) (ws : List UInt32) :
    (r.storeWords p ws).consumer = r.consumer := by
  induction ws generalizing r p with
  | nil => rfl
  | cons w ws ih => simp [storeWords, ih]

@[simp] theorem storeWords_claimed (r : Ring c) (p : Nat) (ws : List UInt32) :
    (r.storeWords p ws).claimed = r.claimed := by
  induction ws generalizing r p with
  | nil => rfl
  | cons w ws ih =>
    rw [storeWords, ih]
    rfl

/-- A lap depends on nothing but the storage. -/
theorem lap_congr {r s : Ring c} (h : r.storage = s.storage) (p : Nat) : r.lap p = s.lap p := by
  simp only [lap, wordAt, h]

theorem wordAt_setWord (r : Ring c) (p q : Nat) (w : UInt32) :
    (r.setWord p w).wordAt q = if p % c.words = q % c.words then w else r.wordAt q :=
  Vector.getElem_set (slot p).isLt (slot q).isLt

theorem wordAt_add_words (r : Ring c) (p : Nat) : r.wordAt (p + c.words) = r.wordAt p := by
  simp [wordAt, slot]

/-- Positions of one lap lie in different words. -/
theorem add_mod_inj (p : Nat) {i j n : Nat} (hi : i < n) (hj : j < n) :
    (p + i) % n = (p + j) % n ↔ i = j := by
  constructor
  · intro h
    exact Nat.ModEq.eq_of_lt_of_lt (Nat.ModEq.add_left_cancel' p h) hi hj
  · rintro rfl
    rfl

/-- Up to the end of the storage, positions and words go on alike. -/
theorem add_mod_of_inside {p i : Nat} (inside : p % c.words + i < c.words) :
    (p + i) % c.words = p % c.words + i := by
  rw [← Nat.mod_add_mod, Nat.mod_eq_of_lt inside]

/-- Behind the end of the storage, words are counted from its front. -/
theorem next_lap_mod (p i : Nat) : (p + (c.words - p % c.words) + i) % c.words = i % c.words := by
  have below := Nat.mod_lt p c.words_pos
  have laps := Nat.div_add_mod p c.words
  have next : p + (c.words - p % c.words) + i = c.words * (p / c.words) + (i + c.words) := by omega
  rw [next, Nat.mul_add_mod, Nat.add_mod_right]

theorem lap_setWord (r : Ring c) (p : Nat) {i : Nat} (w : UInt32) (hi : i < c.words) :
    (r.setWord (p + i) w).lap p = (r.lap p).set i w := by
  apply List.ext_getElem (by simp)
  intro j hj _
  have hj : j < c.words := by simpa using hj
  rw [getElem_lap, wordAt_setWord, List.getElem_set, getElem_lap]
  simp only [add_mod_inj p hi hj]

/-- Storing words replaces as many words of the lap. -/
theorem lap_storeWords {r : Ring c} {p : Nat} {before old after : List UInt32} (ws : List UInt32)
    (h : r.lap p = before ++ old ++ after) (size : old.length = ws.length) :
    (r.storeWords (p + before.length) ws).lap p = before ++ ws ++ after := by
  induction ws generalizing r before old with
  | nil => simpa [storeWords, List.length_eq_zero_iff.mp size] using h
  | cons w ws ih =>
    obtain ⟨first, old, rfl⟩ := List.exists_cons_of_length_eq_add_one size
    have room : before.length < c.words := by
      have total := congrArg List.length h
      simp only [length_lap, List.length_append, List.length_cons] at total
      omega
    have first_stored : (r.setWord (p + before.length) w).lap p =
        (before ++ [w]) ++ old ++ after := by
      rw [lap_setWord r p w room, h]
      simp
    have rest := ih first_stored (by simpa using size)
    simpa [storeWords, Nat.add_assoc] using rest

/-- Storing one word replaces one word of the lap. -/
theorem lap_setWord_append {r : Ring c} {p : Nat} {before after : List UInt32} {old : UInt32}
    (w : UInt32) (h : r.lap p = before ++ old :: after) :
    (r.setWord (p + before.length) w).lap p = before ++ w :: after := by
  have split : r.lap p = before ++ [old] ++ after := by simpa using h
  simpa [storeWords] using lap_storeWords [w] split rfl

theorem clear_eq_storeWords (r : Ring c) (p words : Nat) :
    r.clear p words = r.storeWords p (List.replicate words 0) := by
  induction words generalizing r p with
  | zero => rfl
  | succ words ih => rw [clear, List.replicate_succ, storeWords, ih]

/-- Starting the lap later moves its first words to its end. -/
theorem lap_rotate {r : Ring c} {p : Nat} {front back : List UInt32}
    (h : r.lap p = front ++ back) : r.lap (p + front.length) = back ++ front := by
  have total := congrArg List.length h
  simp only [length_lap, List.length_append] at total
  have word (j : Nat) (hj : j < c.words) : (front ++ back)[j]? = some (r.wordAt (p + j)) := by
    rw [← h, List.getElem?_eq_getElem (by simpa using hj), getElem_lap]
  apply List.ext_getElem (by simp; omega)
  intro i hi _
  have hi : i < c.words := by simpa using hi
  rw [getElem_lap, ← Option.some_inj, ← List.getElem?_eq_getElem, List.getElem?_append]
  split
  · rename_i inside
    have later := word (front.length + i) (by omega)
    rw [List.getElem?_append_right (by omega), Nat.add_sub_cancel_left] at later
    rw [later, Nat.add_assoc]
  · rename_i wrapped
    have earlier := word (i - back.length) (by omega)
    rw [List.getElem?_append_left (by omega)] at earlier
    have around : p + front.length + i = p + (i - back.length) + c.words := by omega
    rw [earlier, around, wordAt_add_words]

theorem wordAt_of_lap {r : Ring c} {p : Nat} {before after : List UInt32} {w : UInt32}
    (h : r.lap p = before ++ w :: after) : r.wordAt (p + before.length) = w := by
  have inside : before.length < (r.lap p).length := by simp [h]
  rw [← getElem_lap r p before.length inside]
  simp [h]

/-- Loading words gives the bytes of the same part of the lap. -/
theorem loadBytes_of_lap {r : Ring c} {p : Nat} {before ws after : List UInt32}
    (h : r.lap p = before ++ ws ++ after) :
    r.loadBytes (p + before.length) ws.length = ws.flatMap fun w => Octets.ofNat 4 w.toNat := by
  induction ws generalizing before with
  | nil => rfl
  | cons w ws ih =>
    have at_first : r.lap p = before ++ w :: (ws ++ after) := by simpa using h
    have at_rest : r.lap p = (before ++ [w]) ++ ws ++ after := by simpa using h
    have first := wordAt_of_lap at_first
    have rest := ih at_rest
    simp only [List.length_append, List.length_cons, List.length_nil, ← Nat.add_assoc,
      Nat.add_zero] at rest
    simp [loadBytes, first, rest]

end Ring
end SyscallMeter
