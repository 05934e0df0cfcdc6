import Mathlib.Algebra.GroupWithZero.Nat
import Mathlib.Order.Bounds.Basic
import SyscallMeter.Settings

/-! The size of the event ring. A wish that is not refused gets the least power of two that is whole
pages and not less than the wish. With pages that are a power of two themselves, a power of two is
whole pages if it is one page at least, so that rounding up the larger of the two is enough. -/
namespace SyscallMeter

/-! ### Rounding up to a power of two -/

/-- What is rounded up stays below every power of two that the number does not exceed. -/
theorem powerOfTwoAbove_le_two_pow {n k : Nat} : powerOfTwoAbove n ≤ 2 ^ k ↔ n ≤ 2 ^ k := by
  unfold powerOfTwoAbove
  split
  · rename_i small
    have one : 1 ≤ 2 ^ k := Nat.one_le_two_pow
    exact iff_of_true one (small.trans one)
  · rename_i large
    rw [Nat.one_shiftLeft, Nat.pow_le_pow_iff_right Nat.one_lt_two, Nat.succ_le_iff,
      Nat.log2_lt (by omega)]
    omega

theorem isPowerOfTwo_powerOfTwoAbove (n : Nat) : (powerOfTwoAbove n).isPowerOfTwo := by
  unfold powerOfTwoAbove
  split
  · exact ⟨0, rfl⟩
  · exact ⟨_, Nat.one_shiftLeft _⟩

theorem isLeast_powerOfTwoAbove (n : Nat) :
    IsLeast {size | size.isPowerOfTwo ∧ n ≤ size} (powerOfTwoAbove n) := by
  refine ⟨⟨isPowerOfTwo_powerOfTwoAbove n, ?_⟩, ?_⟩
  · obtain ⟨k, power⟩ := isPowerOfTwo_powerOfTwoAbove n
    rw [power]
    exact powerOfTwoAbove_le_two_pow.mp power.le
  · rintro size ⟨⟨k, rfl⟩, above⟩
    exact powerOfTwoAbove_le_two_pow.mpr above

/-! ### Whole pages -/

/-- The sizes of an event ring that has room for a wish. -/
def RingSizes (requested page : Nat) : Set Nat :=
  {size | size.isPowerOfTwo ∧ page ∣ size ∧ requested ≤ size}

theorem dvd_iff_le_of_isPowerOfTwo {m n : Nat} (hm : m.isPowerOfTwo) (hn : n.isPowerOfTwo) :
    m ∣ n ↔ m ≤ n := by
  obtain ⟨j, rfl⟩ := hm
  obtain ⟨k, rfl⟩ := hn
  rw [Nat.pow_dvd_pow_iff_le_right Nat.one_lt_two, Nat.pow_le_pow_iff_right Nat.one_lt_two]

theorem isLeast_ringSizes {page : Nat} (power : page.isPowerOfTwo) (requested : Nat) :
    IsLeast (RingSizes requested page) (powerOfTwoAbove (max requested page)) := by
  have same : RingSizes requested page = {size | size.isPowerOfTwo ∧ max requested page ≤ size} := by
    ext size
    refine and_congr_right fun power' => ?_
    rw [dvd_iff_le_of_isPowerOfTwo power power', Nat.max_le, and_comm]
  rw [same]
  exact isLeast_powerOfTwoAbove _

/-! ### Refusals -/

theorem maxRingBytes_eq : maxRingBytes = 2 ^ 30 := rfl

/-- Rounded up, a number fits in 32 bits exactly if it is at most `2 ^ 31`. -/
theorem powerOfTwoAbove_lt_size {n : Nat} : powerOfTwoAbove n < UInt32.size ↔ n ≤ 2 ^ 31 := by
  rw [← powerOfTwoAbove_le_two_pow]
  obtain ⟨k, power⟩ := isPowerOfTwo_powerOfTwoAbove n
  have size : UInt32.size = 2 ^ 32 := rfl
  rw [power, size, Nat.pow_lt_pow_iff_right Nat.one_lt_two, Nat.pow_le_pow_iff_right Nat.one_lt_two,
    Nat.lt_succ_iff]

theorem ringSize_zero (page : Nat) : ringSize 0 page = .error .zeroCapacity := rfl

theorem ringSize_of_large {requested page : Nat} (wish : 0 < requested)
    (large : 2 ^ 30 < requested ∨ 2 ^ 31 < page) :
    ringSize requested page = .error (.capacityTooLarge requested) := by
  rw [ringSize, if_neg wish.ne', maxRingBytes_eq]
  split
  · rfl
  · rename_i small
    have page_large := large.resolve_left small
    have too_large : ¬ powerOfTwoAbove (max requested page) < UInt32.size := by
      rw [powerOfTwoAbove_lt_size]
      omega
    simp only [if_neg too_large]

theorem ringSize_of_fits {requested page : Nat} (wish : 0 < requested) (small : requested ≤ 2 ^ 30)
    (page_small : page ≤ 2 ^ 31) : ∃ size, ringSize requested page = .ok size ∧
      size.toNat = powerOfTwoAbove (max requested page) := by
  have fits : powerOfTwoAbove (max requested page) < UInt32.size := by
    rw [powerOfTwoAbove_lt_size]
    omega
  refine ⟨UInt32.ofNat (powerOfTwoAbove (max requested page)), ?_, UInt32.toNat_ofNat_of_lt' fits⟩
  rw [ringSize, if_neg wish.ne', maxRingBytes_eq, if_neg small.not_gt]
  simp only [if_pos fits]

/-- A wish is for nothing, or it is too large or its page is, or it gets its size. -/
theorem ringSize_cases (requested page : Nat) :
    requested = 0 ∧ ringSize requested page = .error .zeroCapacity ∨
      0 < requested ∧ (2 ^ 30 < requested ∨ 2 ^ 31 < page) ∧
        ringSize requested page = .error (.capacityTooLarge requested) ∨
      0 < requested ∧ requested ≤ 2 ^ 30 ∧ page ≤ 2 ^ 31 ∧ ∃ size,
        ringSize requested page = .ok size ∧
        size.toNat = powerOfTwoAbove (max requested page) := by
  rcases Nat.eq_zero_or_pos requested with rfl | wish
  · exact .inl ⟨rfl, ringSize_zero page⟩
  · by_cases large : 2 ^ 30 < requested ∨ 2 ^ 31 < page
    · exact .inr (.inl ⟨wish, large, ringSize_of_large wish large⟩)
    · obtain ⟨small, page_small⟩ := not_or.mp large
      rw [Nat.not_lt] at small page_small
      exact .inr (.inr ⟨wish, small, page_small, ringSize_of_fits wish small page_small⟩)

theorem ringSize_eq_zeroCapacity {requested page : Nat} :
    ringSize requested page = .error .zeroCapacity ↔ requested = 0 := by
  obtain ⟨nothing, same⟩ | ⟨wish, -, same⟩ | ⟨wish, -, -, _, same, -⟩ :=
    ringSize_cases requested page
  · exact iff_of_true same nothing
  · simp [same, wish.ne']
  · simp [same, wish.ne']

theorem ringSize_eq_capacityTooLarge {requested page : Nat} :
    ringSize requested page = .error (.capacityTooLarge requested) ↔
      2 ^ 30 < requested ∨ 0 < requested ∧ 2 ^ 31 < page := by
  obtain ⟨rfl, same⟩ | ⟨wish, large, same⟩ | ⟨wish, small, page_small, _, same, -⟩ :=
    ringSize_cases requested page
  · simp [same]
  · exact iff_of_true same (large.imp_right fun page_large => ⟨wish, page_large⟩)
  · have gets : ringSize requested page ≠ .error (.capacityTooLarge requested) := by simp [same]
    exact iff_of_false gets (by omega)

theorem powerOfTwoAbove_mono {m n : Nat} (h : m ≤ n) : powerOfTwoAbove m ≤ powerOfTwoAbove n :=
  have ⟨power, above⟩ := (isLeast_powerOfTwoAbove n).1
  (isLeast_powerOfTwoAbove m).2 ⟨power, h.trans above⟩

/-- A smaller wish than one that gets its size gets no larger one. -/
theorem ringSize_mono {requested more page : Nat} {room : UInt32} (wish : 0 < requested)
    (less : requested ≤ more) (gets : ringSize more page = .ok room) :
    ∃ size, ringSize requested page = .ok size ∧ size ≤ room := by
  obtain ⟨-, refused⟩ | ⟨-, -, refused⟩ | ⟨-, small, page_small, room', gets', exact⟩ :=
    ringSize_cases more page
  · rw [refused] at gets
    cases gets
  · rw [refused] at gets
    cases gets
  · obtain rfl : room' = room := Except.ok.inj (gets'.symm.trans gets)
    obtain ⟨size, gets, exact'⟩ := ringSize_of_fits wish (less.trans small) page_small
    refine ⟨size, gets, ?_⟩
    rw [UInt32.le_iff_toNat_le, exact, exact']
    exact powerOfTwoAbove_mono (by omega)

/-- Rounding up a wish that is not refused stays within 64 bits, whatever the page. -/
theorem powerOfTwoAbove_lt_two_pow_64 {requested : Nat} {page : UInt64}
    (power : page.toNat.isPowerOfTwo) (small : requested ≤ 2 ^ 30) :
    powerOfTwoAbove (max requested page.toNat) < 2 ^ 64 := by
  obtain ⟨k, power⟩ := power
  have bits : k < 64 := by
    rw [← Nat.pow_lt_pow_iff_right Nat.one_lt_two, ← power]
    exact page.toNat_lt
  have page_small : page.toNat ≤ 2 ^ 63 := by
    rw [power]
    exact Nat.pow_le_pow_right Nat.zero_lt_two (by omega)
  have rounded : powerOfTwoAbove (max requested page.toNat) ≤ 2 ^ 63 :=
    powerOfTwoAbove_le_two_pow.mpr (Nat.max_le.mpr ⟨small.trans (by decide), page_small⟩)
  omega

/-- A wish for nothing is refused, and so is one that is too large or whose page is. Any other wish
gets the least size that has room for it. Nothing is lost on the way from 64 bits to 32, and a
larger wish gets no smaller ring. -/
theorem ring_size_is_least (requested page : UInt64) (power : page.toNat.isPowerOfTwo) :
    let size := ringSize requested.toNat page.toNat
    (size = .error .zeroCapacity ↔ requested = 0) ∧
      (size = .error (.capacityTooLarge requested.toNat) ↔
        2 ^ 30 < requested.toNat ∨ 0 < requested.toNat ∧ 2 ^ 31 < page.toNat) ∧
      (requested ≠ 0 → requested.toNat ≤ 2 ^ 30 → page.toNat ≤ 2 ^ 31 →
        ∃ bytes, size = .ok bytes ∧ IsLeast (RingSizes requested.toNat page.toNat) bytes.toNat) ∧
      (requested.toNat ≤ 2 ^ 30 → powerOfTwoAbove (max requested.toNat page.toNat) < 2 ^ 64) ∧
      ∀ (more : UInt64) (room : UInt32), requested ≠ 0 → requested ≤ more →
        ringSize more.toNat page.toNat = .ok room → ∃ bytes, size = .ok bytes ∧ bytes ≤ room := by
  intro size
  have zero : requested = 0 ↔ requested.toNat = 0 := UInt64.toNat_inj.symm
  refine ⟨ringSize_eq_zeroCapacity.trans zero.symm, ringSize_eq_capacityTooLarge,
    fun wish small page_small => ?_, powerOfTwoAbove_lt_two_pow_64 power,
    fun more room wish less gets => ?_⟩
  · obtain ⟨bytes, gets, exact⟩ :=
      ringSize_of_fits (Nat.pos_of_ne_zero (mt zero.mpr wish)) small page_small
    exact ⟨bytes, gets, exact ▸ isLeast_ringSizes power requested.toNat⟩
  · exact ringSize_mono (Nat.pos_of_ne_zero (mt zero.mpr wish)) (UInt64.le_iff_toNat_le.mp less) gets

/-- A wish that is no power of two, and is larger than a page. -/
theorem ring_size_of_5000_bytes :
    (4096 : UInt64).toNat.isPowerOfTwo ∧
      ∃ bytes, ringSize 5000 4096 = .ok bytes ∧ IsLeast (RingSizes 5000 4096) bytes.toNat := by
  have page : (4096 : UInt64).toNat.isPowerOfTwo := ⟨12, rfl⟩
  obtain ⟨-, -, fits, -⟩ := ring_size_is_least 5000 4096 page
  exact ⟨page, fits (by decide) (by decide) (by decide)⟩

end SyscallMeter
