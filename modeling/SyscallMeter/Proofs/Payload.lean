import Mathlib.Data.List.GetD
import SyscallMeter.Ring

/-! Payload bytes packed into the words of a ring: four to a word, least significant first, the
last word filled up with zeros. Reading the words back gives the bytes, and writing over a payload
is writing over its first words. -/
namespace SyscallMeter

namespace Octets

/-- Where the word ends in which the last of `count` bytes lies. -/
def wordEnd (count : Nat) : Nat := (count + 3) / 4 * 4

/-- A payload after bytes were written to it: the bytes as far as they fit, zeros to the end of the
word in which they end, and the old bytes behind that. -/
def overwrite (old bytes : Octets) : Octets :=
  let count := min bytes.length old.length
  old.mapIdx fun i b =>
    if i < count then bytes.getD i 0 else if i < wordEnd count then 0 else b

@[simp] theorem length_overwrite (old bytes : Octets) :
    (overwrite old bytes).length = old.length := by simp [overwrite]

theorem getD_overwrite (old bytes : Octets) (i : Nat) (h : i < old.length) :
    (overwrite old bytes).getD i 0 =
      if i < min bytes.length old.length then bytes.getD i 0
      else if i < wordEnd (min bytes.length old.length) then 0 else old.getD i 0 := by
  simp only [overwrite, List.getD_eq_getElem?_getD, List.getElem?_mapIdx,
    List.getElem?_eq_getElem h, Option.map_some, Option.getD_some]

/-- Nothing is left of a payload when as many bytes are written to it. -/
theorem overwrite_eq_self {old bytes : Octets} (same : bytes.length = old.length) :
    overwrite old bytes = bytes := by
  apply List.ext_getElem (by simp [same])
  intro i _ inside
  have within : i < min bytes.length old.length := by omega
  simp only [overwrite, List.getElem_mapIdx, if_pos within]
  simp [inside]

theorem toNat_lt (width : Nat) (bytes : Octets) (h : bytes.length ≤ width) :
    toNat bytes < valuesOf width := by
  induction width generalizing bytes with
  | zero => simp [List.length_eq_zero_iff.mp (Nat.le_zero.mp h), toNat, valuesOf]
  | succ width ih =>
    cases bytes with
    | nil =>
      have rest := ih [] (Nat.zero_le _)
      simp only [toNat, valuesOf] at rest ⊢
      omega
    | cons b rest =>
      have hb := b.toNat_lt
      have others := ih rest (Nat.le_of_succ_le_succ h)
      simp only [toNat, valuesOf]
      omega

/-- Bytes that are fewer than the width come back with zeros behind them. -/
theorem ofNat_toNat (width : Nat) (bytes : Octets) (h : bytes.length ≤ width) :
    ofNat width (toNat bytes) = bytes ++ List.replicate (width - bytes.length) 0 := by
  induction width generalizing bytes with
  | zero => simp [List.length_eq_zero_iff.mp (Nat.le_zero.mp h), ofNat]
  | succ width ih =>
    cases bytes with
    | nil =>
      have rest := ih [] (Nat.zero_le _)
      simp only [toNat, List.length_nil, Nat.sub_zero, List.nil_append] at rest ⊢
      simp [ofNat, rest, List.replicate_succ]
    | cons b rest =>
      have hb := b.toNat_lt
      have first : UInt8.ofNat (b.toNat + 256 * toNat rest) = b := by
        apply UInt8.toNat_inj.mp
        simp only [UInt8.toNat_ofNat']
        omega
      have others : (b.toNat + 256 * toNat rest) / 256 = toNat rest := by omega
      simp only [toNat, ofNat, first, others, ih rest (Nat.le_of_succ_le_succ h), List.cons_append,
        List.length_cons, Nat.succ_sub_succ]

theorem toNat_take_succ (bytes : Octets) (n : Nat) :
    toNat (bytes.take (n + 1)) = (bytes.getD 0 0).toNat + 256 * toNat ((bytes.drop 1).take n) := by
  cases bytes <;> simp [toNat]

/-- Zeros beyond the end of a byte string do not count. -/
theorem toNat_take_congr (n : Nat) (a b : Octets) (h : ∀ i < n, a.getD i 0 = b.getD i 0) :
    toNat (a.take n) = toNat (b.take n) := by
  induction n generalizing a b with
  | zero => simp
  | succ n ih =>
    rw [toNat_take_succ, toNat_take_succ, h 0 (Nat.succ_pos n)]
    have rest := ih (a.drop 1) (b.drop 1) fun i hi => by
      simpa [List.getElem?_drop, Nat.add_comm] using h (i + 1) (Nat.succ_lt_succ hi)
    rw [rest]

end Octets

namespace Ring
open Octets

@[simp] theorem length_wordsOf (bytes : Octets) :
    (wordsOf bytes).length = payloadWords bytes.length := by simp [wordsOf]

theorem getElem_wordsOf (bytes : Octets) (i : Nat) (h : i < (wordsOf bytes).length) :
    (wordsOf bytes)[i] = UInt32.ofNat (toNat ((bytes.drop (4 * i)).take 4)) := by
  simp [wordsOf]

/-- Two payloads have the same word where they have the same four bytes. -/
theorem wordsOf_congr (a b : Octets) (i : Nat) (ha : i < (wordsOf a).length)
    (hb : i < (wordsOf b).length)
    (h : ∀ j < 4, a.getD (4 * i + j) 0 = b.getD (4 * i + j) 0) :
    (wordsOf a)[i] = (wordsOf b)[i] := by
  rw [getElem_wordsOf, getElem_wordsOf]
  have bytes := toNat_take_congr 4 (a.drop (4 * i)) (b.drop (4 * i)) fun j hj => by
    simpa [List.getElem?_drop] using h j hj
  rw [bytes]

theorem wordsOf_replicate_zero (n : Nat) :
    wordsOf (List.replicate n 0) = List.replicate (payloadWords n) 0 := by
  apply List.ext_getElem (by simp)
  intro i hi _
  have zeros := toNat_take_congr 4 ((List.replicate n 0).drop (4 * i)) [] fun j _ => by
    by_cases hj : j < n - 4 * i <;> simp [hj]
  rw [getElem_wordsOf, zeros, List.getElem_replicate]
  rfl

/-- The first word holds the first four bytes. -/
theorem wordsOf_eq_cons (bytes : Octets) (h : bytes ≠ []) :
    wordsOf bytes = UInt32.ofNat (toNat (bytes.take 4)) :: wordsOf (bytes.drop 4) := by
  have pos := List.length_pos_iff.mpr h
  have count : payloadWords bytes.length = payloadWords (bytes.length - 4) + 1 := by
    simp only [payloadWords]
    omega
  simp only [wordsOf, count, List.length_drop, List.range_succ_eq_map, List.map_cons, List.map_map,
    Nat.mul_zero, List.drop_zero, List.drop_drop]
  congr 2
  funext i
  simp [Nat.mul_add, Nat.add_comm]

/-- The bytes of the words of a payload, cut to its length, are the payload. -/
theorem take_bytes_wordsOf (bytes : Octets) :
    ((wordsOf bytes).flatMap fun w => ofNat 4 w.toNat).take bytes.length = bytes := by
  by_cases h : bytes = []
  · simp [h]
  · have pos := List.length_pos_iff.mpr h
    have rest := take_bytes_wordsOf (bytes.drop 4)
    have short : (bytes.take 4).length ≤ 4 := List.length_take_le 4 bytes
    have bound := toNat_lt 4 (bytes.take 4) short
    simp only [valuesOf] at bound
    have first : (UInt32.ofNat (toNat (bytes.take 4))).toNat = toNat (bytes.take 4) :=
      UInt32.toNat_ofNat_of_lt' bound
    rw [wordsOf_eq_cons bytes h, List.flatMap_cons, first, ofNat_toNat 4 _ short]
    rcases Nat.lt_or_ge bytes.length 4 with few | many
    · have all : bytes.take 4 = bytes := List.take_of_length_le (by omega)
      have none_left : bytes.drop 4 = [] := List.drop_of_length_le (by omega)
      simp [all, none_left]
    · have size : (bytes.take 4).length = 4 := by simp [many]
      have split : bytes.length = (bytes.take 4).length + (bytes.drop 4).length := by
        simp only [List.length_drop]
        omega
      rw [size, Nat.sub_self, List.replicate_zero, List.append_nil, split,
        List.take_length_add_append, rest, List.take_append_drop]
termination_by bytes.length
decreasing_by
  simp only [List.length_drop]
  omega

/-- The words of an overwritten payload: those of the new bytes, and the old ones behind them. -/
theorem wordsOf_overwrite (old bytes : Octets) :
    wordsOf (overwrite old bytes) = wordsOf (bytes.take old.length) ++
      (wordsOf old).drop (wordsOf (bytes.take old.length)).length := by
  have count : (bytes.take old.length).length = min bytes.length old.length := by
    simp [Nat.min_comm]
  have order : payloadWords (min bytes.length old.length) ≤ payloadWords old.length := by
    simp only [payloadWords]
    omega
  apply List.ext_getElem
  · simp only [length_wordsOf, length_overwrite, List.length_append, List.length_drop, count]
    omega
  intro i hi hi'
  have inside : i < payloadWords old.length := by simpa using hi
  rw [List.getElem_append]
  split
  · rename_i new
    simp only [length_wordsOf, count] at new
    apply wordsOf_congr
    intro j hj
    have before_end : 4 * i + j < wordEnd (min bytes.length old.length) := by
      simp only [payloadWords] at new
      simp only [wordEnd]
      omega
    by_cases written : 4 * i + j < min bytes.length old.length
    · rw [getD_overwrite _ _ _ (by omega), if_pos written]
      simp [show 4 * i + j < old.length by omega]
    · rw [List.getD_eq_default _ _ (show (bytes.take old.length).length ≤ 4 * i + j by omega)]
      by_cases inside : 4 * i + j < old.length
      · rw [getD_overwrite _ _ _ inside, if_neg written, if_pos before_end]
      · exact List.getD_eq_default _ _ (by simpa using inside)
  · rename_i kept
    simp only [length_wordsOf, count] at kept
    simp only [List.getElem_drop, length_wordsOf, count,
      Nat.add_sub_cancel' (Nat.le_of_not_lt kept)]
    apply wordsOf_congr
    intro j hj
    by_cases inside : 4 * i + j < old.length
    · have behind : ¬ 4 * i + j < wordEnd (min bytes.length old.length) := by
        simp only [payloadWords] at kept
        simp only [wordEnd]
        omega
      have unwritten : ¬ 4 * i + j < min bytes.length old.length := by
        simp only [wordEnd] at behind
        omega
      rw [getD_overwrite _ _ _ inside, if_neg unwritten, if_neg behind]
    · rw [List.getD_eq_default _ _ (by simpa using inside),
        List.getD_eq_default _ _ (by simpa using inside)]

end Ring

end SyscallMeter
