import SyscallMeter.Number.Notation
import SyscallMeter.Proofs.Number.Shortest

/-! Natural numbers of at most 53 bits. Each of them is a binary number itself, and its shortest
decimal is an integer: on the grid of the integers the number reads back, and no other integer is
near enough. So metrics write it with its own digits. -/
namespace SyscallMeter

theorem digitsOf_mul_ten {n : Nat} (positive : 0 < n) :
    digitsOf (n * 10) = digitsOf n ++ ['0'] := by
  have appended := Nat.toDigits_append_toDigits (b := 10) (d := 0) (by decide) positive (by decide)
  rw [Nat.add_zero, Nat.mul_comm] at appended
  exact appended.symm

theorem digitsOf_mul_pow {n : Nat} (positive : 0 < n) (k : Nat) :
    digitsOf (n * 10 ^ k) = digitsOf n ++ List.replicate k '0' := by
  induction k with
  | zero => simp
  | succ k ih =>
    have more : 0 < n * 10 ^ k := by positivity
    rw [pow_succ, ← Nat.mul_assoc, digitsOf_mul_ten more, ih, List.append_assoc,
      List.replicate_succ']

theorem roundDiv_one (n : Nat) : roundDiv n 1 = n := by
  simp [roundDiv, Nat.mod_one]

namespace Decimal

theorem exponent_le_strip (d : Decimal) (fuel : Nat) : d.exponent ≤ (d.strip fuel).exponent := by
  induction fuel generalizing d with
  | zero => exact le_refl _
  | succ fuel ih =>
    unfold strip
    split
    · exact le_trans (by simp) (ih _)
    · exact le_refl _

/-- Without places behind the point a decimal is a natural number. -/
theorem value_of_exponent {d : Decimal} (whole : 0 ≤ d.exponent) :
    d.value = (d.digits * 10 ^ d.exponent.toNat : Nat) := by
  obtain ⟨k, exponent⟩ := Int.eq_ofNat_of_zero_le whole
  rw [value, exponent]
  simp

end Decimal

namespace Magnitude

/-! ### Numbers of 53 bits -/

/-- How far a number has to be moved to fill 53 bits. -/
def room (n : Nat) : Nat := 52 - Nat.log2 n

variable {n : Nat}

theorem log2_add_room (small : n < 2 ^ 53) : Nat.log2 n + room n = 52 := by
  obtain rfl | positive := Nat.eq_zero_or_pos n
  · decide
  · have bits : Nat.log2 n < 53 := (Nat.log2_lt positive.ne').mpr small
    simp only [room]
    omega

theorem mul_room_lt (small : n < 2 ^ 53) : n * 2 ^ room n < 2 ^ 53 :=
  calc n * 2 ^ room n < 2 ^ (Nat.log2 n + 1) * 2 ^ room n := by
        gcongr
        exact Nat.lt_log2_self
    _ = 2 ^ 53 := by
        rw [← pow_add, Nat.add_right_comm, log2_add_room small]

theorem le_mul_room (positive : 0 < n) (small : n < 2 ^ 53) : 2 ^ 52 ≤ n * 2 ^ room n :=
  calc 2 ^ 52 = 2 ^ Nat.log2 n * 2 ^ room n := by rw [← pow_add, log2_add_room small]
    _ ≤ n * 2 ^ room n := by
        gcongr
        exact Nat.log2_self_le positive.ne'

theorem exponentFor_one (positive : 0 < n) (small : n < 2 ^ 53) :
    exponentFor n 1 = -(room n : Int) := by
  have bits := log2_add_room small
  have one : Nat.log2 1 = 0 := by decide
  have guess : (Nat.log2 n : Int) - Nat.log2 1 - precision = -(room n + 1 : Nat) := by
    rw [one, precision]
    omega
  have full : ¬ n * 2 ^ (room n + 1) < 2 ^ 53 := by
    have := le_mul_room positive small
    rw [pow_succ, ← Nat.mul_assoc]
    omega
  unfold exponentFor
  dsimp only
  rw [guess]
  simp only [scaled, neg_neg, Int.toNat_natCast, Int.toNat_neg_natCast, Nat.shiftLeft_eq,
    pow_zero, Nat.div_one, Nat.one_mul, precision, if_neg full, minExponent]
  omega

/-- A natural number of at most 53 bits is a binary number, moved so that it fills them. -/
theorem ofNat_eq (positive : 0 < n) (small : n < 2 ^ 53) :
    ofNat n = ⟨n * 2 ^ room n, -(room n : Int)⟩ := by
  have inside := mul_room_lt small
  unfold ofNat ofRatio
  rw [if_neg positive.ne', exponentFor_one positive small]
  simp only [scaled, neg_neg, Int.toNat_natCast, Int.toNat_neg_natCast, Nat.shiftLeft_eq,
    pow_zero, roundDiv_one, precision, Nat.one_mul, if_neg inside.ne]

theorem value_ofNat (positive : 0 < n) (small : n < 2 ^ 53) : (ofNat n).value = n := by
  rw [ofNat_eq positive small, value]
  simp

theorem toRatio_ofNat (positive : 0 < n) (small : n < 2 ^ 53) :
    (ofNat n).toRatio = (n * 2 ^ room n, 2 ^ room n) := by
  rw [ofNat_eq positive small, toRatio]
  simp [scaled, Nat.shiftLeft_eq]

/-! ### The grid of the integers -/

theorem scaleFrom_le {num den : Nat} {k top : Int} (start : k ≤ top)
    (below : num * Nat.pow 10 (-top).toNat < den * Nat.pow 10 top.toNat) (fuel : Nat) :
    scaleFrom num den k fuel ≤ top := by
  induction fuel generalizing k with
  | zero => exact start
  | succ fuel ih =>
    unfold scaleFrom
    split
    · exact start
    · rename_i above
      have before : k ≠ top := fun same => above (same ▸ below)
      exact ih (by omega)

theorem le_scaleFrom {num den : Nat} {k low : Int} {fuel : Nat} (reached : low ≤ k + fuel)
    (above : ∀ j < low, ¬ num * Nat.pow 10 (-j).toNat < den * Nat.pow 10 j.toNat) :
    low ≤ scaleFrom num den k fuel := by
  induction fuel generalizing k with
  | zero => simpa [scaleFrom] using reached
  | succ fuel ih =>
    unfold scaleFrom
    split
    · rename_i here
      exact not_lt.mp fun before => above k before here
    · exact ih (by omega)

/-- A number of at most 53 bits has between one and sixteen digits. -/
theorem scale_ofNat (positive : 0 < n) (small : n < 2 ^ 53) :
    1 ≤ (ofNat n).scale ∧ (ofNat n).scale ≤ 16 := by
  have unit : 0 < 2 ^ room n := by positivity
  have bits := log2_add_room small
  have den : Nat.log2 (2 ^ room n) = room n := Nat.log2_two_pow
  have num : Nat.log2 (n * 2 ^ room n) < 53 :=
    (Nat.log2_lt (Nat.mul_pos positive unit).ne').mpr (mul_room_lt small)
  have num' : 52 ≤ Nat.log2 (n * 2 ^ room n) :=
    (Nat.le_log2 (Nat.mul_pos positive unit).ne').mpr (le_mul_room positive small)
  unfold scale
  rw [toRatio_ofNat positive small]
  dsimp only
  rw [den]
  constructor
  · refine le_scaleFrom (by omega) fun j low => ?_
    have places : j.toNat = 0 := by omega
    rw [places, Nat.pow_eq, Nat.pow_eq, pow_zero, Nat.mul_one]
    refine Nat.not_lt.mpr ?_
    calc 2 ^ room n ≤ n * 2 ^ room n := Nat.le_mul_of_pos_left _ positive
      _ ≤ n * 2 ^ room n * 10 ^ (-j).toNat := Nat.le_mul_of_pos_right _ (by positivity)
  · refine scaleFrom_le (by omega) ?_ 5
    have digits : n < 10 ^ 16 := lt_trans small (by norm_num)
    rw [Nat.mul_comm (2 ^ room n)]
    change n * 2 ^ room n * 1 < 10 ^ 16 * 2 ^ room n
    rw [Nat.mul_one]
    gcongr

/-- The exact decimal of a number reads back. -/
theorem readsBack_of_value {x : Magnitude} {d : Decimal} (positive : 0 < x.mantissa)
    (exact : d.value = x.value) : x.readsBack d := by
  have den : (0 : ℚ) < d.toRatio.2 := by exact_mod_cast d.toRatio_positive
  have unit (n : Nat) : (0 : ℚ) < (scaled n 1 (x.exponent - 2)).2 := by
    exact_mod_cast scaled_positive Nat.one_pos n (x.exponent - 2)
  have value : d.value = (4 * x.mantissa : Nat) / 4 * 2 ^ x.exponent := by
    rw [exact, Magnitude.value]
    push_cast
    ring
  have below (k : Nat) (some : 0 < k) :
      (scaled (4 * x.mantissa - k) 1 (x.exponent - 2)).1 * d.toRatio.2 <
        d.toRatio.1 * (scaled (4 * x.mantissa - k) 1 (x.exponent - 2)).2 := by
    have less : 4 * x.mantissa - k < 4 * x.mantissa := by omega
    have quotients : ((scaled (4 * x.mantissa - k) 1 (x.exponent - 2)).1 : ℚ) /
        (scaled (4 * x.mantissa - k) 1 (x.exponent - 2)).2 < d.toRatio.1 / d.toRatio.2 := by
      rw [scaled_quarters, d.toRatio_quotient, value]
      gcongr
    rw [div_lt_div_iff₀ (unit _) den] at quotients
    exact_mod_cast quotients
  have above : d.toRatio.1 * (scaled (4 * x.mantissa + 2) 1 (x.exponent - 2)).2 <
      (scaled (4 * x.mantissa + 2) 1 (x.exponent - 2)).1 * d.toRatio.2 := by
    have more : 4 * x.mantissa < 4 * x.mantissa + 2 := by omega
    have quotients : (d.toRatio.1 : ℚ) / d.toRatio.2 <
        (scaled (4 * x.mantissa + 2) 1 (x.exponent - 2)).1 /
          (scaled (4 * x.mantissa + 2) 1 (x.exponent - 2)).2 := by
      rw [scaled_quarters, d.toRatio_quotient, value]
      gcongr
    rw [div_lt_div_iff₀ den (unit _)] at quotients
    exact_mod_cast quotients
  have step : 0 < (if x.mantissa = 1 <<< (precision - 1) ∧ x.exponent ≠ minExponent then 1
      else 2) := by
    split <;> decide
  unfold readsBack
  dsimp only
  split
  · exact decide_eq_true ⟨(below _ step).le, above.le⟩
  · exact decide_eq_true ⟨below _ step, above⟩

theorem exponent_of_onGrid? {x : Magnitude} {exponent : Int} {d : Decimal}
    (h : x.onGrid? exponent = some d) : d.exponent = exponent := by
  unfold onGrid? at h
  dsimp only at h
  split at h
  · obtain rfl := Option.some.inj h
    rfl
  · obtain rfl := Option.some.inj h
    rfl
  · obtain rfl := Option.some.inj h
    rfl
  · cases h

theorem onGrid?_zero (positive : 0 < n) (small : n < 2 ^ 53) :
    ∃ d, (ofNat n).onGrid? 0 = some d := by
  have unit : 0 < 2 ^ room n := by positivity
  have mantissa : 0 < (ofNat n).mantissa := by
    rw [ofNat_eq positive small]
    exact Nat.mul_pos positive unit
  have quotient : n * 2 ^ room n * Nat.pow 10 (-0 : Int).toNat /
      (2 ^ room n * Nat.pow 10 (0 : Int).toNat) = n := by
    simp [Nat.mul_div_cancel _ unit]
  have reads : (ofNat n).readsBack ⟨n, 0⟩ := by
    refine readsBack_of_value mantissa ?_
    rw [value_ofNat positive small]
    simp [Decimal.value]
  unfold onGrid?
  rw [toRatio_ofNat positive small]
  dsimp only
  rw [quotient, reads]
  cases (ofNat n).readsBack ⟨n + 1, 0⟩ with
  | true => exact ⟨_, rfl⟩
  | false => exact ⟨_, rfl⟩

/-- A search that would succeed at a place ends there at the latest. -/
theorem exists_findSome?_range {β : Type} {f : Nat → Option β} {count last : Nat} {b : β}
    (inside : last < count) (here : f last = some b) :
    ∃ i ≤ last, ∃ c, f i = some c ∧ (List.range count).findSome? f = some c := by
  obtain ⟨more, split⟩ := Nat.exists_eq_add_of_le (Nat.succ_le_of_lt inside)
  have hit : ((List.range (last + 1)).findSome? f).isSome := by
    rw [List.findSome?_isSome_iff]
    exact ⟨last, List.mem_range.mpr (Nat.lt_succ_self last), by rw [here]; rfl⟩
  obtain ⟨c, first⟩ := Option.isSome_iff_exists.mp hit
  obtain ⟨i, early, found⟩ := List.exists_of_findSome?_eq_some first
  refine ⟨i, Nat.le_of_lt_succ (List.mem_range.mp early), c, found, ?_⟩
  rw [split, List.range_add, List.findSome?_append, first, Option.some_or]

/-- The shortest decimal of a natural number has no places behind the point, as the grid of the
integers is reached. -/
theorem exponent_shortest_ofNat (positive : 0 < n) (small : n < 2 ^ 53) :
    0 ≤ (ofNat n).shortest.exponent := by
  obtain ⟨low, high⟩ := scale_ofNat positive small
  obtain ⟨last, reached⟩ := Int.eq_ofNat_of_zero_le (show 0 ≤ (ofNat n).scale - 1 by omega)
  obtain ⟨d, here⟩ := onGrid?_zero positive small
  rw [show (0 : Int) = (ofNat n).scale - (last + 1) by omega] at here
  obtain ⟨i, early, d', first, found⟩ := exists_findSome?_range
    (f := fun i : Nat => (ofNat n).onGrid? ((ofNat n).scale - (i + 1)))
    (show last < 17 by omega) here
  unfold shortest
  dsimp only
  refine le_trans ?_ (Decimal.exponent_le_strip _ _)
  rw [found, Option.getD_some, exponent_of_onGrid? first]
  omega

/-- No other natural number than the number itself is within half a unit of its last place. -/
theorem eq_of_near (positive : 0 < n) (small : n < 2 ^ 53) {m : Nat} (near : (ofNat n).Near m) :
    m = n := by
  have exact := value_ofNat positive small
  rw [value] at exact
  have unit : (2 : ℚ) ^ (ofNat n).exponent ≤ 1 := by
    rw [ofNat_eq positive small]
    exact zpow_le_one_of_nonpos₀ (by norm_num) (by simp)
  obtain ⟨low, high⟩ := near
  rw [sub_mul, exact] at low
  rw [add_mul, exact] at high
  have below : (n : ℚ) < m + 1 := by linarith
  have above : (m : ℚ) < n + 1 := by linarith
  have below : n < m + 1 := by exact_mod_cast below
  have above : m < n + 1 := by exact_mod_cast above
  omega

/-- Metrics write a number of at most 53 bits with its own digits. -/
theorem inMetrics_ofNat (small : n < 2 ^ 53) : (ofNat n).inMetrics = digitsOf n := by
  obtain rfl | positive := Nat.eq_zero_or_pos n
  · decide +kernel
  · have mantissa : 0 < (ofNat n).mantissa := by
      rw [ofNat_eq positive small]
      positivity
    have whole := Decimal.value_of_exponent (exponent_shortest_ofNat positive small)
    have near := (ofNat n).shortest_near
    rw [whole] at near
    have same := eq_of_near positive small near
    unfold inMetrics
    dsimp only
    rw [← digitsOf_mul_pow (shortest_positive mantissa), same]

end Magnitude

end SyscallMeter
