import SyscallMeter.Number.Notation
import SyscallMeter.Proofs.Json.Scaling
import SyscallMeter.Proofs.Number.Shortest

/-! Every finite number that is printed for a report is read again: its text stands for a decimal
close to it, and what the reader keeps of that can be scaled without leaving the range. -/
namespace SyscallMeter

namespace Json

/-! ### Digits of decimals -/

theorem valueOf_zeros_append (k : Nat) (ds : List Nat) :
    valueOf (List.replicate k 0 ++ ds) = valueOf ds := by
  induction k with
  | zero => rfl
  | succ k ih => exact ih

theorem valueOf_append_zeros (ds : List Nat) (k : Nat) :
    valueOf (ds ++ List.replicate k 0) = valueOf ds * 10 ^ k := by
  induction k with
  | zero => simp
  | succ k ih =>
    rw [List.replicate_succ', ← List.append_assoc, valueOf_append, List.foldl_cons, List.foldl_nil,
      ih]
    ring

namespace Digits

theorem chars_ofNat (n : Nat) : (ofNat n).chars = digitsOf n := rfl

theorem length_values (ds : Digits) : ds.values.length = ds.chars.length := List.length_map ..

theorem lt_ten_of_mem_values {ds : Digits} {n : Nat} (h : n ∈ ds.values) : n < 10 := by
  obtain ⟨c, mem, rfl⟩ := List.mem_map.mp h
  have digit := ds.decimal c mem
  simp only [Char.isDigit, Bool.and_eq_true, decide_eq_true_eq, UInt32.le_iff_toNat_le] at digit
  have nine : '9'.val.toNat - '0'.toNat = 9 := rfl
  have same : c.toNat = c.val.toNat := rfl
  have top : '9'.val.toNat = 57 := rfl
  have low : '0'.toNat = 48 := rfl
  omega

/-- Digits make a number below the power of ten for their length. -/
theorem valueOf_lt (ds : List Nat) (decimal : ∀ d ∈ ds, d < 10) : valueOf ds < 10 ^ ds.length := by
  have bounded (n : Nat) : ds.foldl (fun n d => 10 * n + d) n < (n + 1) * 10 ^ ds.length := by
    induction ds generalizing n with
    | nil => simp
    | cons d rest ih =>
      have digit := decimal d List.mem_cons_self
      calc rest.foldl (fun n d => 10 * n + d) (10 * n + d)
          < (10 * n + d + 1) * 10 ^ rest.length :=
            ih (fun d h => decimal d (List.mem_cons_of_mem _ h)) (10 * n + d)
        _ ≤ (10 * (n + 1)) * 10 ^ rest.length := Nat.mul_le_mul_right _ (by omega)
        _ = (n + 1) * 10 ^ (rest.length + 1) := by ring
  simpa [valueOf] using bounded 0

/-- Sixteen digits fit 64 bits. -/
theorem short {ds : Digits} (few : ds.chars.length ≤ 16) : valueOf ds.values < UInt64.size :=
  calc valueOf ds.values
      < 10 ^ ds.values.length := valueOf_lt ds.values fun _ => lt_ten_of_mem_values
    _ ≤ 10 ^ 16 := Nat.pow_le_pow_right (by decide) (ds.length_values ▸ few)
    _ ≤ UInt64.size := by decide

/-- Digits that begin as those of a positive number do not begin with zero. -/
theorem alone {ds : Digits} {n : Nat} (positive : 0 < n)
    (front : ds.chars.head? = (digitsOf n).head?) :
    ds.values.head? = some 0 → ds.values.length = 1 := by
  intro zero
  obtain ⟨c, first, other⟩ := head?_digitsOf positive
  rw [values, List.head?_map, front, first, Option.map_some, Option.some.injEq] at zero
  exact absurd zero other

/-- The digits of a number with zeros before and behind. -/
def padded (before n behind : Nat) : Digits where
  chars := List.replicate before '0' ++ (digitsOf n ++ List.replicate behind '0')
  filled := by simp [digitsOf, Nat.toDigits_ne_nil]
  decimal c h := by
    rw [List.mem_append, List.mem_append] at h
    obtain zero | digit | zero := h
    · rw [List.eq_of_mem_replicate zero]
      rfl
    · exact (ofNat n).decimal c digit
    · rw [List.eq_of_mem_replicate zero]
      rfl

theorem values_padded (before n behind : Nat) : (padded before n behind).values =
    List.replicate before 0 ++ ((ofNat n).values ++ List.replicate behind 0) := by
  simp [values, padded, ofNat]

theorem valueOf_padded (before n behind : Nat) :
    valueOf (padded before n behind).values = n * 10 ^ behind := by
  rw [values_padded, valueOf_zeros_append, valueOf_append_zeros, valueOf_ofNat]

/-- The first digits. -/
def take (ds : Digits) (k : Nat) (any : 0 < k) : Digits where
  chars := ds.chars.take k
  filled := by simpa [ds.filled] using any.ne'
  decimal c h := ds.decimal c (List.mem_of_mem_take h)

/-- The digits behind the first ones. -/
def drop (ds : Digits) (k : Nat) (more : k < ds.chars.length) : Digits where
  chars := ds.chars.drop k
  filled := by simpa using more
  decimal c h := ds.decimal c (List.mem_of_mem_drop h)

theorem values_take_append_drop (ds : Digits) {k : Nat} (any : 0 < k)
    (more : k < ds.chars.length) :
    (ds.take k any).values ++ (ds.drop k more).values = ds.values := by
  rw [values, values, values, ← List.map_append, take, drop, List.take_append_drop]

theorem head?_take (ds : Digits) {k : Nat} (any : 0 < k) :
    (ds.take k any).chars.head? = ds.chars.head? := by
  rw [take, List.head?_take, if_neg any.ne']

/-- The digits behind the first one, if there are any. -/
def rest? (ds : Digits) : Option Digits :=
  if more : 1 < ds.chars.length then some (ds.drop 1 more) else none

theorem fractionText_rest? (ds : Digits) : fractionText ds.rest? =
    (if (ds.chars.drop 1).isEmpty then [] else ['.']) ++ ds.chars.drop 1 := by
  unfold rest?
  split
  · rename_i more
    have behind : ds.chars.drop 1 ≠ [] := (ds.drop 1 more).filled
    rw [List.isEmpty_eq_false_iff.mpr behind]
    rfl
  · rename_i single
    rw [List.drop_eq_nil_of_le (not_lt.mp single)]
    rfl

theorem fractionValues_rest? (ds : Digits) : fractionValues ds.rest? = ds.values.drop 1 := by
  unfold rest?
  split
  · exact List.map_drop
  · rename_i single
    rw [List.drop_eq_nil_of_le (ds.length_values ▸ not_lt.mp single)]
    rfl

end Digits

/-- What a text of a number has to be: a point or an exponent tells it from a natural number. -/
structure NumberText.Denotes (t : NumberText) (chars : List Char) (q : ℚ) : Prop where
  text : t.text = chars
  value : t.value = q
  short : valueOf t.whole.values < UInt64.size
  mixed : t.fraction.isSome ∨ t.exponent.isSome
  unsigned : t.negative = false

end Json

open Json

namespace Decimal

theorem denotes_padded {d : Decimal} (positive : 0 < d.digits) (few : d.leading < 16) {k : Nat}
    (exponent : d.exponent = k) : ∃ t : NumberText, t.Denotes (digitsOf d.digits ++
      List.replicate k '0' ++ ['.', '0']) d.value := by
  have front : (Digits.padded 0 d.digits k).chars.head? = (digitsOf d.digits).head? := by
    obtain ⟨c, more, digits⟩ := List.exists_cons_of_ne_nil (Digits.ofNat d.digits).filled
    simp [Digits.padded, show digitsOf d.digits = c :: more from digits]
  refine ⟨⟨false, .padded 0 d.digits k, Digits.alone positive front,
    some (.ofNat 0), none⟩, ?_, ?_, ?_, .inl rfl, rfl⟩
  · simp [NumberText.text, fractionText, exponentText, Digits.padded, Digits.ofNat, digitsOf]
  · have all : valueOf ((Digits.padded 0 d.digits k).values ++ (Digits.ofNat 0).values) =
        d.digits * 10 ^ k * 10 := by
      rw [valueOf_append, Digits.valueOf_padded]
      exact Nat.mul_comm 10 _
    have one : (Digits.ofNat 0).values.length = 1 := rfl
    simp only [NumberText.value, fractionValues, exponentValue, all, one, value, exponent]
    norm_num
    ring
  · refine Digits.short ?_
    rw [leading, exponent] at few
    simp [Digits.padded]
    omega

theorem denotes_pointed {d : Decimal} (positive : 0 < d.digits) (few : d.leading < 16)
    {front k : Nat} (length : (digitsOf d.digits).length = front + k) (any : 0 < front)
    (more : 0 < k) (places : d.exponent = -k) :
    ∃ t : NumberText, t.Denotes
      ((digitsOf d.digits).take front ++ ['.'] ++ (digitsOf d.digits).drop front) d.value := by
  have inside : front < (Digits.ofNat d.digits).chars.length := by
    rw [Digits.chars_ofNat]
    omega
  refine ⟨⟨false, (Digits.ofNat d.digits).take front any,
    Digits.alone positive ((Digits.ofNat d.digits).head?_take any),
    some ((Digits.ofNat d.digits).drop front inside), none⟩, ?_, ?_, ?_, .inl rfl, rfl⟩
  · simp [NumberText.text, fractionText, exponentText, Digits.take, Digits.drop, Digits.ofNat]
  · have behind : ((Digits.ofNat d.digits).drop front inside).values.length = k := by
      simp [Digits.length_values, Digits.drop, Digits.ofNat, length]
    have all : valueOf (((Digits.ofNat d.digits).take front any).values ++
        ((Digits.ofNat d.digits).drop front inside).values) = d.digits := by
      rw [Digits.values_take_append_drop, Digits.valueOf_ofNat]
    simp only [NumberText.value, fractionValues, exponentValue, all, behind, value, places,
      zero_sub]
  · refine Digits.short ?_
    rw [leading, places] at few
    simp [Digits.take, Digits.ofNat]
    omega

theorem denotes_small {d : Decimal} {k : Nat} (places : d.exponent = -k)
    (small : (digitsOf d.digits).length ≤ k) : ∃ t : NumberText, t.Denotes
      (['0', '.'] ++ List.replicate (k - (digitsOf d.digits).length) '0' ++ digitsOf d.digits)
      d.value := by
  refine ⟨⟨false, .ofNat 0, Digits.alone_ofNat 0,
    some (.padded (k - (digitsOf d.digits).length) d.digits 0), none⟩, ?_, ?_, ?_, .inl rfl, rfl⟩
  · simp [NumberText.text, fractionText, exponentText, Digits.padded, Digits.ofNat]
    rfl
  · have all : valueOf ((Digits.ofNat 0).values ++
        (Digits.padded (k - (digitsOf d.digits).length) d.digits 0).values) = d.digits := by
      rw [valueOf_append]
      exact (Digits.valueOf_padded ..).trans (Nat.mul_one _)
    have behind :
        (Digits.padded (k - (digitsOf d.digits).length) d.digits 0).values.length = k := by
      simp [Digits.length_values, Digits.padded]
      omega
    simp only [NumberText.value, fractionValues, exponentValue, all, behind, value, places,
      zero_sub]
  · show valueOf (Digits.ofNat 0).values < UInt64.size
    decide

theorem denotes_positional {d : Decimal} (positive : 0 < d.digits) (few : d.leading < 16) :
    ∃ t : NumberText, t.Denotes d.positional d.value := by
  unfold positional
  dsimp only
  split
  · rename_i natural
    obtain ⟨k, exponent⟩ := Int.eq_ofNat_of_zero_le natural
    rw [exponent, Int.toNat_natCast]
    exact denotes_padded positive few exponent
  · obtain ⟨k, places⟩ : ∃ k : Nat, d.exponent = -k := ⟨(-d.exponent).toNat, by omega⟩
    rw [places, neg_neg, Int.toNat_natCast]
    split
    · exact denotes_pointed positive few (by omega) (by omega) (by omega) places
    · exact denotes_small places (by omega)

/-- One digit stands in front of the point. -/
theorem denotes_scientific (d : Decimal) : ∃ t : NumberText, t.Denotes d.scientific d.value := by
  have filled : 0 < (digitsOf d.digits).length :=
    List.length_pos_of_ne_nil (Digits.ofNat d.digits).filled
  have length : (Digits.ofNat d.digits).values.length = (digitsOf d.digits).length :=
    Digits.length_values _
  have first : ((Digits.ofNat d.digits).take 1 Nat.one_pos).values =
      (Digits.ofNat d.digits).values.take 1 := List.map_take
  have single : ((Digits.ofNat d.digits).take 1 Nat.one_pos).values.length = 1 := by
    rw [first, List.length_take, length]
    omega
  refine ⟨⟨false, (Digits.ofNat d.digits).take 1 Nat.one_pos, fun _ => single,
    (Digits.ofNat d.digits).rest?, some (decide (d.leading < 0), .ofNat d.leading.natAbs)⟩,
    ?_, ?_, Digits.short (by simp [Digits.take]), .inr rfl, rfl⟩
  · have sign : (if d.leading < 0 then ['-'] else ['+']) =
        [if d.leading < 0 then '-' else '+'] := by
      split <;> rfl
    simp [NumberText.text, Digits.fractionText_rest?, exponentText, Digits.take,
      Digits.chars_ofNat, scientific, sign]
  · have all : valueOf ((Digits.ofNat d.digits).values.take 1 ++
        (Digits.ofNat d.digits).values.drop 1) = d.digits := by
      rw [List.take_append_drop, Digits.valueOf_ofNat]
    have exponent : exponentValue (some (decide (d.leading < 0), .ofNat d.leading.natAbs)) =
        d.leading := by
      simp only [exponentValue, Digits.valueOf_ofNat, decide_eq_true_eq]
      split <;> omega
    have places : d.leading - ((Digits.ofNat d.digits).values.drop 1).length = d.exponent := by
      rw [List.length_drop, length, leading]
      omega
    simp only [NumberText.value, Digits.fractionValues_rest?, first, all, exponent, places, value]

end Decimal

/-! ### Finite numbers -/

namespace Magnitude

/-- The number is in the range of finite numbers. -/
def Finite (x : Magnitude) : Prop := x.mantissa < 2 ^ precision ∧ x.exponent ≤ maxExponent

theorem denotes_inReport (x : Magnitude) :
    ∃ (t : NumberText) (q : ℚ), t.Denotes x.inReport q ∧ x.Near q := by
  unfold inReport
  split
  · rename_i zero
    have none : x.value = 0 := by
      have mantissa : x.mantissa = 0 := by simpa [isZero] using zero
      rw [value, mantissa, Nat.cast_zero, zero_mul]
    obtain ⟨t, text⟩ := Decimal.denotes_small (d := ⟨0, -1⟩) (k := 1) rfl (by decide)
    exact ⟨t, _, text, by rw [Decimal.value, Nat.cast_zero, zero_mul, ← none]; exact x.near_value⟩
  · rename_i nonzero
    have positive : 0 < x.shortest.digits :=
      shortest_positive (Nat.pos_of_ne_zero (by simpa [isZero] using nonzero))
    dsimp only
    split
    · rename_i range
      obtain ⟨t, text⟩ := Decimal.denotes_positional positive range.2
      exact ⟨t, _, text, x.shortest_near⟩
    · obtain ⟨t, text⟩ := x.shortest.denotes_scientific
      exact ⟨t, _, text, x.shortest_near⟩

/-- All finite numbers but the two greatest are at a distance from the end of the range. -/
theorem le_of_near {x : Magnitude} (finite : x.Finite)
    (inside : x.exponent = maxExponent → x.mantissa + 2 < 2 ^ precision) {q : ℚ} (near : x.Near q) :
    q ≤ (2 ^ precision - 5 / 2) * 2 ^ maxExponent := by
  have top : (0 : ℚ) < 2 ^ maxExponent := by positivity
  refine near.2.trans ?_
  obtain last | below := finite.2.eq_or_lt
  · have mantissa : (x.mantissa + 3 : ℚ) ≤ 2 ^ precision := by exact_mod_cast inside last
    rw [last]
    exact mul_le_mul_of_nonneg_right (by linarith) top.le
  · have mantissa : (x.mantissa + 1 : ℚ) ≤ 2 ^ precision := by exact_mod_cast finite.1
    have half : (2 : ℚ) ^ x.exponent * 2 ≤ 2 ^ maxExponent := by
      rw [← zpow_add_one₀ (by norm_num)]
      exact zpow_le_zpow_right₀ (by norm_num) below
    have unit : (0 : ℚ) < 2 ^ x.exponent := by positivity
    generalize (2 : ℚ) ^ maxExponent = t at top half ⊢
    generalize (2 : ℚ) ^ x.exponent = u at half unit ⊢
    have bits : (2 : ℚ) ^ precision = 9007199254740992 := by norm_num [precision]
    rw [bits] at mantissa ⊢
    nlinarith

/-- The text of the greatest numbers, with these digits after the point. -/
def greatText (fraction : Nat) : NumberText where
  negative := false
  whole := .ofNat 1
  alone := Digits.alone_ofNat 1
  fraction := some (.ofNat fraction)
  exponent := some (false, .ofNat 308)

/-- The two greatest numbers stay in the range, whichever way they are rounded. -/
theorem scale?_greatest : ∀ k < 2,
    (greatText (7976931348623157 - 2 * k)).text = inReport ⟨2 ^ precision - 1 - k, maxExponent⟩ ∧
      (scale? (greatText (7976931348623157 - 2 * k)).scaled.1
        (greatText (7976931348623157 - 2 * k)).scaled.2.1).isSome := by
  decide +kernel

theorem exists_scaled_text {x : Magnitude} (finite : x.Finite) :
    ∃ t : NumberText, t.text = x.inReport ∧ t.negative = false ∧
      (t.fraction.isSome ∨ t.exponent.isSome) ∧ (scale? t.scaled.1 t.scaled.2.1).isSome := by
  by_cases inside : x.exponent = maxExponent → x.mantissa + 2 < 2 ^ precision
  · obtain ⟨t, q, text, near⟩ := x.denotes_inReport
    refine ⟨t, text.text, text.unsigned, text.mixed, scale?_isSome ?_⟩
    calc (t.scaled.1 * 10 ^ t.scaled.2.1 : ℚ) ≤ t.value := NumberText.scaled_le text.short
      _ = q := text.value
      _ ≤ _ := le_of_near finite inside near
  · rw [Classical.not_imp, not_lt] at inside
    have few : 2 ^ precision - 1 - x.mantissa < 2 := by omega
    have same : x = ⟨2 ^ precision - 1 - (2 ^ precision - 1 - x.mantissa), maxExponent⟩ := by
      rw [Nat.sub_sub_self (Nat.le_sub_one_of_lt finite.1), ← inside.1]
    obtain ⟨text, scaled⟩ := scale?_greatest _ few
    exact ⟨_, text.trans (congrArg inReport same.symm), rfl, .inl rfl, scaled⟩

end Magnitude

/-- The sign of a number stands in front of its text. -/
theorem reads_inReport {x : Binary64} (finite : x.magnitude.Finite) :
    ∃ y, Reads expectReal x.inReport.toList y := by
  obtain ⟨t, text, unsigned, mixed, scaled⟩ := Magnitude.exists_scaled_text finite
  obtain ⟨y, scaled⟩ := Option.isSome_iff_exists.mp scaled
  have signed : x.inReport.toList = { t with negative := x.negative }.text := by
    rw [Binary64.inReport, Binary64.signed, String.toList_ofList, ← text]
    cases x.negative <;> simp [NumberText.text, unsigned]
  rw [signed]
  exact ⟨_, reads_expectReal (t := { t with negative := x.negative }) mixed scaled⟩

end SyscallMeter
