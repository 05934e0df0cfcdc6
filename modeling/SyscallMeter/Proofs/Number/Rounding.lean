import Mathlib.Algebra.Order.Field.Power
import Mathlib.Data.Rat.Cast.Order
import Mathlib.Tactic.FieldSimp
import Mathlib.Tactic.Linarith
import Mathlib.Tactic.NormNum
import Mathlib.Tactic.Positivity
import Mathlib.Tactic.Ring
import SyscallMeter.Number.Binary64

/-! The exact values of binary numbers. Rounding takes a quotient up by half a unit of its last
place at most, and so a product stays finite if it is below the end of the range. -/
namespace SyscallMeter

/-- A quotient is rounded up only from the middle on. -/
theorem roundDiv_cases (num den : Nat) : roundDiv num den = num / den ∨
    roundDiv num den = num / den + 1 ∧ den ≤ 2 * (num % den) := by
  unfold roundDiv
  dsimp only
  split
  · exact .inl rfl
  · split <;> omega

theorem roundDiv_le (num : Nat) {den : Nat} (positive : 0 < den) :
    (roundDiv num den : ℚ) ≤ num / den + 1 / 2 := by
  have parts := Nat.div_add_mod num den
  have whole : 2 * (roundDiv num den * den) ≤ 2 * num + den := by
    obtain down | ⟨up, middle⟩ := roundDiv_cases num den
    · rw [down]
      linarith [Nat.zero_le (num % den)]
    · rw [up]
      linarith
  have exact : (2 * (roundDiv num den * den) : ℚ) ≤ 2 * num + den := by exact_mod_cast whole
  have nonzero : (0 : ℚ) < den := by exact_mod_cast positive
  rw [div_add' _ _ _ nonzero.ne', le_div_iff₀ nonzero]
  linarith

/-- A power as a quotient of powers with natural exponents. -/
theorem zpow_eq_div (b : ℚ) (n : Int) : b ^ n = b ^ n.toNat / b ^ (-n).toNat := by
  obtain ⟨k, rfl | rfl⟩ := n.eq_nat_or_neg
  · simp
  · simp

namespace Magnitude

/-- The exact value. -/
def value (x : Magnitude) : ℚ := x.mantissa * 2 ^ x.exponent

theorem scaled_quotient (num den : Nat) (shift : Int) :
    ((scaled num den shift).1 : ℚ) / (scaled num den shift).2 = num / den * 2 ^ shift := by
  rw [zpow_eq_div]
  simp only [scaled, Nat.shiftLeft_eq, Nat.cast_mul, Nat.cast_pow, Nat.cast_ofNat]
  rw [mul_div_mul_comm]

theorem scaled_positive {den : Nat} (positive : 0 < den) (num : Nat) (shift : Int) :
    0 < (scaled num den shift).2 := by
  simp only [scaled, Nat.shiftLeft_eq]
  positivity

theorem toRatio_quotient (x : Magnitude) : (x.toRatio.1 : ℚ) / x.toRatio.2 = x.value := by
  rw [toRatio, scaled_quotient, Nat.cast_one, div_one, value]

theorem toRatio_positive (x : Magnitude) : 0 < x.toRatio.2 := scaled_positive (by decide) _ _

/-! ### Exponents -/

/-- The bit lengths tell a quotient from below. -/
theorem lt_quotient_of_log2 {num den : Nat} (hn : 0 < num) (hd : 0 < den) :
    (2 : ℚ) ^ ((Nat.log2 num : Int) - Nat.log2 den - 1) < num / den := by
  have least : (2 : ℚ) ^ Nat.log2 num ≤ num := by exact_mod_cast Nat.log2_self_le hn.ne'
  have most : (den : ℚ) < 2 ^ (Nat.log2 den + 1) := by exact_mod_cast Nat.lt_log2_self
  have nonzero : (0 : ℚ) < den := by exact_mod_cast hd
  rw [lt_div_iff₀ nonzero]
  calc (2 : ℚ) ^ ((Nat.log2 num : Int) - Nat.log2 den - 1) * den
      < 2 ^ ((Nat.log2 num : Int) - Nat.log2 den - 1) * 2 ^ (Nat.log2 den + 1) := by gcongr
    _ = 2 ^ Nat.log2 num := by
        rw [← zpow_natCast, ← zpow_natCast, ← zpow_add₀ (by norm_num)]
        congr 1
        omega
    _ ≤ num := least

/-- The integer part of a scaled quotient is below a power of two as the quotient is. -/
theorem scaled_div_lt_iff {den : Nat} (positive : 0 < den) (num : Nat) (shift : Int) (bits : Nat) :
    (scaled num den shift).1 / (scaled num den shift).2 < 1 <<< bits ↔
      (num / den * 2 ^ shift : ℚ) < 2 ^ bits := by
  have below := scaled_positive positive num shift
  have nonzero : (0 : ℚ) < (scaled num den shift).2 := by exact_mod_cast below
  rw [← scaled_quotient, Nat.div_lt_iff_lt_mul below, div_lt_iff₀ nonzero, Nat.shiftLeft_eq,
    one_mul]
  exact_mod_cast Iff.rfl

/-- Unless the least exponent is in the way, a quotient has 53 bits at its exponent. -/
theorem exponentFor_eq_max {num den : Nat} (hn : 0 < num) (hd : 0 < den) :
    ∃ e : Int, exponentFor num den = max minExponent e ∧
      (2 : ℚ) ^ 52 ≤ num / den * 2 ^ (-e) := by
  have low := lt_quotient_of_log2 hn hd
  unfold exponentFor
  simp only [scaled_div_lt_iff hd]
  generalize (num / den : ℚ) = q at low ⊢
  generalize (Nat.log2 num : Int) - Nat.log2 den = bits at low ⊢
  have two : (2 : ℚ) ≠ 0 := by norm_num
  split
  · refine ⟨_, rfl, ?_⟩
    calc (2 : ℚ) ^ 52 = 2 ^ (bits - 1) * 2 ^ (-(bits - precision : Int)) := by
          rw [← zpow_add₀ two, ← zpow_natCast]
          congr 1
          simp only [precision]
          omega
      _ ≤ q * 2 ^ (-(bits - precision : Int)) := by gcongr
  · rename_i large
    refine ⟨_, rfl, ?_⟩
    rw [neg_add, ← sub_eq_add_neg, zpow_sub_one₀ two, ← div_eq_mul_inv, mul_div_assoc',
      le_div_iff₀ (by norm_num)]
    calc (2 : ℚ) ^ 52 * 2 = 2 ^ precision := by norm_num [precision]
      _ ≤ q * 2 ^ (-(bits - precision : Int)) := not_lt.mp large

theorem ofRatio_value {num : Nat} (hn : 0 < num) (den : Nat) :
    (ofRatio num den).value = roundDiv (scaled num den (-exponentFor num den)).1
      (scaled num den (-exponentFor num den)).2 * 2 ^ exponentFor num den := by
  unfold ofRatio
  dsimp only
  rw [if_neg hn.ne']
  split
  · rename_i carried
    have two : (2 : ℚ) ≠ 0 := by norm_num
    rw [carried, value]
    simp only [zpow_add_one₀ two, precision, Nat.shiftLeft_eq]
    push_cast
    ring
  · rfl

/-- A quotient that has 53 bits at its exponent grows by one part in `2 ^ 53` at most. -/
theorem ofRatio_value_le {num den : Nat} (hn : 0 < num) (hd : 0 < den)
    (normal : minExponent < exponentFor num den) :
    (ofRatio num den).value ≤ num / den * (1 + 1 / 2 ^ precision) := by
  obtain ⟨e, same, full⟩ := exponentFor_eq_max hn hd
  obtain rfl : exponentFor num den = e := by omega
  have rounded := roundDiv_le (scaled num den (-exponentFor num den)).1
    (scaled_positive hd num (-exponentFor num den))
  rw [scaled_quotient] at rounded
  rw [ofRatio_value hn]
  generalize exponentFor num den = e at *
  generalize (num / den : ℚ) = q at *
  have unit : (0 : ℚ) < 2 ^ e := by positivity
  have inverse : q * 2 ^ (-e) * 2 ^ e = q := by
    rw [mul_assoc, ← zpow_add₀ (by norm_num), neg_add_cancel, zpow_zero, mul_one]
  have last : 2 ^ 52 * 2 ^ e ≤ q := by
    rw [← inverse]
    gcongr
  calc _ ≤ (q * 2 ^ (-e) + 1 / 2) * 2 ^ e := by gcongr
    _ = q + 2 ^ e / 2 := by rw [add_mul, inverse]; ring
    _ ≤ q * (1 + 1 / 2 ^ precision) := by
      simp only [precision]
      linarith

/-- The end of the range is half a unit beyond the greatest number. -/
def limit : ℚ := (2 ^ precision - 1 / 2) * 2 ^ maxExponent

theorem exponentFor_le_of_lt_limit {num den : Nat} (hn : 0 < num) (hd : 0 < den)
    (inside : (num / den : ℚ) < limit) : exponentFor num den ≤ maxExponent := by
  obtain ⟨e, same, full⟩ := exponentFor_eq_max hn hd
  rw [same]
  refine max_le (by decide) (not_lt.mp fun above => ?_)
  have unit : (2 : ℚ) ^ (maxExponent + 1) ≤ 2 ^ e := zpow_le_zpow_right₀ (by norm_num) above
  have inverse : (num / den * 2 ^ (-e) * 2 ^ e : ℚ) = num / den := by
    rw [mul_assoc, ← zpow_add₀ (by norm_num), neg_add_cancel, zpow_zero, mul_one]
  have beyond : (2 : ℚ) ^ 52 * 2 ^ (maxExponent + 1) ≤ num / den := by
    rw [← inverse]
    gcongr
  have top : (0 : ℚ) < 2 ^ maxExponent := by positivity
  rw [zpow_add_one₀ (by norm_num)] at beyond
  rw [limit, precision] at inside
  generalize (2 : ℚ) ^ maxExponent = t at inside beyond top
  linarith

/-- Below the end of the range, no number with the greatest exponent is rounded up to a longer
one. -/
theorem roundDiv_ne_of_lt_limit {num den : Nat} (hd : 0 < den)
    (inside : (num / den : ℚ) < limit) : roundDiv (scaled num den (-maxExponent)).1
      (scaled num den (-maxExponent)).2 ≠ 1 <<< precision := by
  intro carried
  have rounded := roundDiv_le (scaled num den (-maxExponent)).1
    (scaled_positive hd num (-maxExponent))
  have top : (0 : ℚ) < 2 ^ maxExponent := by positivity
  rw [scaled_quotient, carried, zpow_neg, ← div_eq_mul_inv, Nat.shiftLeft_eq, one_mul,
    Nat.cast_pow, Nat.cast_ofNat] at rounded
  rw [limit, ← div_lt_iff₀ top] at inside
  linarith

theorem isFinite_ofRatio {num den : Nat} (hd : 0 < den) (inside : (num / den : ℚ) < limit) :
    (ofRatio num den).isFinite := by
  obtain rfl | hn := Nat.eq_zero_or_pos num
  · rfl
  have bounded := exponentFor_le_of_lt_limit hn hd inside
  unfold ofRatio isFinite
  dsimp only
  rw [if_neg hn.ne']
  split
  · rename_i carried
    have other : exponentFor num den ≠ maxExponent := by
      intro last
      rw [last] at carried
      exact roundDiv_ne_of_lt_limit hd inside carried
    exact decide_eq_true (lt_of_le_of_ne bounded other)
  · exact decide_eq_true bounded

/-! ### Natural numbers and products -/

theorem minExponent_lt_exponentFor (n : Nat) : minExponent < exponentFor n 1 := by
  have guess : minExponent < (Nat.log2 n : Int) - Nat.log2 1 - precision := by
    have one : Nat.log2 1 = 0 := by decide
    rw [one, minExponent, precision]
    omega
  unfold exponentFor
  dsimp only
  refine lt_max_of_lt_right ?_
  split <;> omega

theorem ofNat_value_le (n : Nat) : (ofNat n).value ≤ n * (1 + 1 / 2 ^ precision) := by
  obtain rfl | positive := Nat.eq_zero_or_pos n
  · simp [ofNat, ofRatio, zero, value]
  · have bound := ofRatio_value_le positive Nat.one_pos (minExponent_lt_exponentFor n)
    rwa [Nat.cast_one, div_one] at bound

theorem isFinite_mul {x y : Magnitude} (inside : x.value * y.value < limit) :
    (x.mul y).isFinite := by
  refine isFinite_ofRatio (Nat.mul_pos x.toRatio_positive y.toRatio_positive) ?_
  have product : ((x.toRatio.1 * y.toRatio.1 : Nat) : ℚ) / (x.toRatio.2 * y.toRatio.2 : Nat) =
      x.value * y.value := by
    rw [Nat.cast_mul, Nat.cast_mul, mul_div_mul_comm, toRatio_quotient, toRatio_quotient]
  exact product ▸ inside

end Magnitude

end SyscallMeter
