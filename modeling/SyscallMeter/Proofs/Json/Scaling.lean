import SyscallMeter.Proofs.Json.Numbers
import SyscallMeter.Proofs.Number.Rounding

/-! What a reader keeps of the digits of a number comes to no more than the number, and scaling it
stays inside the range of finite numbers if the number is not close to the end. -/
namespace SyscallMeter.Json
open Magnitude

/-! ### What is kept of a number -/

theorem mul_pow_le_foldl (n : Nat) (ds : List Nat) :
    n * 10 ^ ds.length ≤ ds.foldl (fun n d => 10 * n + d) n := by
  induction ds generalizing n with
  | nil => simp
  | cons d rest ih =>
    calc n * 10 ^ (rest.length + 1) = 10 * n * 10 ^ rest.length := by ring
      _ ≤ (10 * n + d) * 10 ^ rest.length := Nat.mul_le_mul_right _ (Nat.le_add_right _ d)
      _ ≤ _ := ih (10 * n + d)

theorem valueOf_append (ds ds' : List Nat) :
    valueOf (ds ++ ds') = ds'.foldl (fun n d => 10 * n + d) (valueOf ds) := List.foldl_append

/-- The digits that are left count as zeros. -/
theorem accumulate_le (n : Nat) (ds : List Nat) :
    (accumulate n ds).1 * 10 ^ (accumulate n ds).2 ≤ ds.foldl (fun n d => 10 * n + d) n := by
  induction ds generalizing n with
  | nil => simp [accumulate]
  | cons d rest ih =>
    unfold accumulate
    split
    · rw [Nat.mul_comm n 10]
      exact ih (10 * n + d)
    · exact mul_pow_le_foldl n (d :: rest)

theorem accumulate_unread_le (n : Nat) (ds : List Nat) : (accumulate n ds).2 ≤ ds.length := by
  induction ds generalizing n with
  | nil => exact Nat.le_refl 0
  | cons d rest ih =>
    unfold accumulate
    split
    · exact Nat.le_succ_of_le (ih _)
    · exact Nat.le_refl _

def fractionValues : Option Digits → List Nat
  | none => []
  | some ds => ds.values

def exponentValue : Option (Bool × Digits) → Int
  | none => 0
  | some (negative, ds) => if negative then -(valueOf ds.values : Int) else valueOf ds.values

/-- The number for which a text stands, without its sign. -/
def NumberText.value (t : NumberText) : ℚ :=
  valueOf (t.whole.values ++ fractionValues t.fraction) *
    10 ^ (exponentValue t.exponent - (fractionValues t.fraction).length)

/-- Digits of a fraction may be left; in front of the point all are kept. -/
theorem NumberText.scaled_le {t : NumberText} (short : valueOf t.whole.values < UInt64.size) :
    (t.scaled.1 : ℚ) * 10 ^ t.scaled.2.1 ≤ t.value := by
  have whole : accumulate 0 t.whole.values = (valueOf t.whole.values, 0) := accumulate_of_lt short
  have shifted (e : Int) (plain : Bool) :
      (withExponent e plain t.exponent).1 = e + exponentValue t.exponent := by
    cases t.exponent with
    | none => simp [withExponent, exponentValue]
    | some part => rfl
  unfold scaled value
  simp only [whole, shifted]
  cases t.fraction with
  | none => simp [withFraction, fractionValues]
  | some ds =>
    have kept : ((accumulate (valueOf t.whole.values) ds.values).1 : ℚ) *
        10 ^ (accumulate (valueOf t.whole.values) ds.values).2 ≤
          valueOf (t.whole.values ++ ds.values) := by
      rw [valueOf_append]
      exact_mod_cast accumulate_le (valueOf t.whole.values) ds.values
    have unread := accumulate_unread_le (valueOf t.whole.values) ds.values
    simp only [withFraction, fractionValues]
    generalize accumulate (valueOf t.whole.values) ds.values = read at kept unread ⊢
    generalize exponentValue t.exponent = exponent
    have split : (0 : Int) - (ds.values.length - read.2 : Nat) + exponent =
        read.2 + (exponent - ds.values.length) := by omega
    calc (read.1 : ℚ) * 10 ^ (((0 : Nat) : Int) - (ds.values.length - read.2 : Nat) + exponent)
        = read.1 * 10 ^ read.2 * 10 ^ (exponent - ds.values.length) := by
          rw [Nat.cast_zero, split, zpow_add₀ (by norm_num), zpow_natCast, mul_assoc]
      _ ≤ valueOf (t.whole.values ++ ds.values) * 10 ^ (exponent - ds.values.length) := by gcongr

/-! ### What can be scaled -/

/-- Two roundings leave a number inside the range that is two and a half units from its end. -/
theorem isFinite_mul_ofNat {m n : Nat}
    (inside : (m * n : ℚ) ≤ (2 ^ precision - 5 / 2) * 2 ^ maxExponent) :
    ((ofNat m).mul (ofNat n)).isFinite := by
  have positive (x : Magnitude) : 0 ≤ x.value := by
    unfold Magnitude.value
    positivity
  have rounded : (ofNat m).value * (ofNat n).value ≤ m * n * (1 + 1 / 2 ^ precision) ^ 2 := by
    calc (ofNat m).value * (ofNat n).value
        ≤ (m * (1 + 1 / 2 ^ precision)) * (n * (1 + 1 / 2 ^ precision)) :=
          mul_le_mul (ofNat_value_le m) (ofNat_value_le n) (positive _) (by positivity)
      _ = m * n * (1 + 1 / 2 ^ precision) ^ 2 := by ring
  have top : (0 : ℚ) < 2 ^ maxExponent := by positivity
  refine isFinite_mul (lt_of_le_of_lt rounded ?_)
  rw [limit]
  generalize (2 : ℚ) ^ maxExponent = unit at inside top ⊢
  calc (m * n * (1 + 1 / 2 ^ precision) ^ 2 : ℚ)
      ≤ (2 ^ precision - 5 / 2) * unit * (1 + 1 / 2 ^ precision) ^ 2 :=
        mul_le_mul_of_nonneg_right inside (by positivity)
    _ = (2 ^ precision - 5 / 2) * (1 + 1 / 2 ^ precision) ^ 2 * unit := by ring
    _ < (2 ^ precision - 1 / 2) * unit := by
        refine mul_lt_mul_of_pos_right ?_ top
        norm_num [precision]

/-- Beyond `10 ^ 308` there is no finite number but zero. -/
theorem eq_zero_of_le {n k : Nat} (large : 308 < k)
    (inside : (n * 10 ^ k : ℚ) ≤ (2 ^ precision - 5 / 2) * 2 ^ maxExponent) : n = 0 := by
  have range : 2 ^ precision * 2 ^ maxExponent.toNat < 10 ^ (308 + 1) := by decide +kernel
  have pow {j : Nat} (h : j ≤ k) : 10 ^ j ≤ 10 ^ k := Nat.pow_le_pow_right (by decide) h
  have unit : (2 : ℚ) ^ maxExponent = (2 ^ maxExponent.toNat : Nat) := by
    have whole : (-maxExponent).toNat = 0 := rfl
    rw [zpow_eq_div, whole, pow_zero, div_one, Nat.cast_pow, Nat.cast_ofNat]
  have top : (0 : ℚ) ≤ (2 ^ maxExponent.toNat : Nat) := Nat.cast_nonneg _
  have exact : (n * 10 ^ k : ℚ) ≤ 2 ^ precision * (2 ^ maxExponent.toNat : Nat) := by
    rw [unit] at inside
    exact inside.trans (mul_le_mul_of_nonneg_right (by linarith) top)
  have below : n * 10 ^ k ≤ 2 ^ precision * 2 ^ maxExponent.toNat := by exact_mod_cast exact
  have less : n * 10 ^ k < 1 * 10 ^ k := by
    rw [Nat.one_mul]
    exact below.trans_lt (range.trans_le (pow large))
  exact Nat.lt_one_iff.mp (Nat.lt_of_mul_lt_mul_right less)

theorem scale?_isSome {n : Nat} {exponent : Int}
    (inside : (n * 10 ^ exponent : ℚ) ≤ (2 ^ precision - 5 / 2) * 2 ^ maxExponent) :
    (scale? n exponent).isSome := by
  unfold scale?
  dsimp only
  split
  · rfl
  · rename_i natural
    obtain ⟨k, rfl⟩ := Int.eq_ofNat_of_zero_le (not_lt.mp natural)
    rw [zpow_natCast] at inside
    split
    · have finite : ((ofNat n).mul (ofNat (Nat.pow 10 k))).isFinite :=
        isFinite_mul_ofNat (by exact_mod_cast inside)
      rw [Int.toNat_natCast, if_pos finite]
      rfl
    · rename_i large
      obtain rfl := eq_zero_of_le (by omega) inside
      rfl

end SyscallMeter.Json
