import SyscallMeter.Number.Shortest
import SyscallMeter.Proofs.Number.Rounding

/-! The shortest decimal of a number is at most half a unit of its last place above it. -/
namespace SyscallMeter

namespace Decimal

/-- The exact value. -/
def value (d : Decimal) : ℚ := d.digits * 10 ^ d.exponent

theorem toRatio_quotient (d : Decimal) : (d.toRatio.1 : ℚ) / d.toRatio.2 = d.value := by
  rw [value, zpow_eq_div]
  simp only [toRatio, Nat.pow_eq, Nat.cast_mul, Nat.cast_pow, Nat.cast_ofNat, mul_div_assoc]

theorem toRatio_positive (d : Decimal) : 0 < d.toRatio.2 := by
  simp only [toRatio, Nat.pow_eq]
  positivity

theorem value_strip (d : Decimal) (fuel : Nat) : (d.strip fuel).value = d.value := by
  induction fuel generalizing d with
  | zero => rfl
  | succ fuel ih =>
    unfold strip
    split
    · rename_i zero
      have digits : (d.digits / 10 : Nat) * (10 : ℚ) = d.digits := by
        exact_mod_cast Nat.div_mul_cancel (Nat.dvd_of_mod_eq_zero zero.2)
      rw [ih, value, value, zpow_add_one₀ (by norm_num), ← digits]
      ring
    · rfl

end Decimal

namespace Magnitude

/-- Within half a unit of the last place. -/
def Near (x : Magnitude) (q : ℚ) : Prop :=
  (x.mantissa - 1 / 2) * 2 ^ x.exponent ≤ q ∧ q ≤ (x.mantissa + 1 / 2) * 2 ^ x.exponent

theorem near_value (x : Magnitude) : x.Near x.value := by
  constructor <;>
  · rw [value]
    gcongr
    linarith

theorem scaled_quarters (n : Nat) (exponent : Int) :
    ((scaled n 1 (exponent - 2)).1 : ℚ) / (scaled n 1 (exponent - 2)).2 = n / 4 * 2 ^ exponent := by
  rw [scaled_quotient, zpow_sub₀ (by norm_num)]
  push_cast
  ring

/-- The ends between which a decimal reads back, in quarters of a unit. -/
theorem ends_of_readsBack {x : Magnitude} {d : Decimal} (h : x.readsBack d) : ∃ k ≤ 2,
    (scaled (4 * x.mantissa - k) 1 (x.exponent - 2)).1 * d.toRatio.2 ≤
      d.toRatio.1 * (scaled (4 * x.mantissa - k) 1 (x.exponent - 2)).2 ∧
    d.toRatio.1 * (scaled (4 * x.mantissa + 2) 1 (x.exponent - 2)).2 ≤
      (scaled (4 * x.mantissa + 2) 1 (x.exponent - 2)).1 * d.toRatio.2 := by
  refine ⟨if x.mantissa = 1 <<< (precision - 1) ∧ x.exponent ≠ minExponent then 1 else 2, ?_, ?_⟩
  · split <;> decide
  · unfold readsBack at h
    dsimp only at h
    split at h
    · exact of_decide_eq_true h
    · exact (of_decide_eq_true h).imp Nat.le_of_lt Nat.le_of_lt

theorem near_of_readsBack {x : Magnitude} {d : Decimal} (h : x.readsBack d) : x.Near d.value := by
  obtain ⟨k, small, low, high⟩ := ends_of_readsBack h
  have den : (0 : ℚ) < d.toRatio.2 := by exact_mod_cast d.toRatio_positive
  have unit (n : Nat) : (0 : ℚ) < (scaled n 1 (x.exponent - 2)).2 := by
    exact_mod_cast scaled_positive Nat.one_pos n (x.exponent - 2)
  have below : ((4 * x.mantissa - k : Nat) : ℚ) / 4 * 2 ^ x.exponent ≤ d.value := by
    rw [← d.toRatio_quotient, ← scaled_quarters, div_le_div_iff₀ (unit _) den]
    exact_mod_cast low
  have above : d.value ≤ ((4 * x.mantissa + 2 : Nat) : ℚ) / 4 * 2 ^ x.exponent := by
    rw [← d.toRatio_quotient, ← scaled_quarters, div_le_div_iff₀ den (unit _)]
    exact_mod_cast high
  have quarters : (4 * x.mantissa - 2 : ℚ) ≤ (4 * x.mantissa - k : Nat) := by
    have exact : 4 * x.mantissa ≤ 4 * x.mantissa - k + 2 := by omega
    rw [sub_le_iff_le_add]
    exact_mod_cast exact
  constructor
  · refine le_trans ?_ below
    gcongr
    linarith
  · refine le_trans above (le_of_eq ?_)
    push_cast
    ring

theorem readsBack_of_onGrid? {x : Magnitude} {exponent : Int} {d : Decimal}
    (h : x.onGrid? exponent = some d) : x.readsBack d := by
  unfold onGrid? at h
  dsimp only at h
  split at h
  · rename_i low high
    obtain rfl := Option.some.inj h
    obtain down | ⟨up, _⟩ := roundDiv_cases
      (x.toRatio.1 * Nat.pow 10 (-exponent).toNat) (x.toRatio.2 * Nat.pow 10 exponent.toNat)
    · rw [down]
      exact low
    · rw [up]
      exact high
  · rename_i low _
    obtain rfl := Option.some.inj h
    exact low
  · rename_i _ high
    obtain rfl := Option.some.inj h
    exact high
  · cases h

/-- All digits of a number. -/
theorem value_exact (x : Magnitude) : Decimal.value
    ⟨(x.mantissa <<< x.exponent.toNat) * Nat.pow 5 (-x.exponent).toNat, min x.exponent 0⟩ =
      x.value := by
  rw [value, Decimal.value]
  obtain ⟨n, exponent | exponent⟩ := x.exponent.eq_nat_or_neg
  · simp [exponent, Nat.shiftLeft_eq]
  · have ten : (10 : ℚ) ^ n = 5 ^ n * 2 ^ n := by rw [← mul_pow]; norm_num
    simp [exponent, ten]
    field_simp

theorem shortest_near (x : Magnitude) : x.Near x.shortest.value := by
  unfold shortest
  dsimp only
  rw [Decimal.value_strip]
  cases found : (List.range 17).findSome? fun (n : Nat) =>
      x.onGrid? (x.scale - (n + 1)) with
  | none =>
    rw [Option.getD_none, value_exact]
    exact x.near_value
  | some d =>
    obtain ⟨n, _, here⟩ := List.exists_of_findSome?_eq_some found
    exact near_of_readsBack (readsBack_of_onGrid? here)

theorem shortest_positive {x : Magnitude} (hx : 0 < x.mantissa) : 0 < x.shortest.digits := by
  have mantissa : (1 : ℚ) ≤ x.mantissa := by exact_mod_cast hx
  have unit : (0 : ℚ) < 2 ^ x.exponent := by positivity
  have above : 0 < x.shortest.value :=
    lt_of_lt_of_le (mul_pos (by linarith) unit) x.shortest_near.1
  refine Nat.pos_of_ne_zero fun zero => ?_
  rw [Decimal.value, zero, Nat.cast_zero, zero_mul] at above
  exact lt_irrefl _ above

end Magnitude

end SyscallMeter
