import SyscallMeter.Number.Numeral
import SyscallMeter.Proofs.Json.Numbers

/-! Whole numbers in decimal: which texts are read as numbers, and numbers read back from their
digits. -/
namespace SyscallMeter.Numeral
open Json

variable {bound n : Nat} {s : List Char}

/-! ### Digits -/

theorem digits?_of_span {ds : List Nat} {rest : List Char} (span : Text.spanDigits s = (ds, rest)) :
    digits? s = if ds = [] ∨ rest ≠ [] then none else some (valueOf ds) := by
  unfold digits?
  rw [span]
  cases ds <;> cases rest <;> simp [valueOf]

theorem digits?_chars (ds : Digits) : digits? ds.chars = some (valueOf ds.values) := by
  have span := spanDigits_append ds.decimal (show NoDigit [] by simp [NoDigit])
  rw [List.append_nil] at span
  rw [digits?_of_span span, if_neg (by simpa using ds.filled)]
  rfl

theorem decimal_takeWhile (s : List Char) : ∀ c ∈ s.takeWhile Char.isDigit, c.isDigit :=
  List.all_eq_true.mp List.all_takeWhile

theorem noDigit_dropWhile (s : List Char) : NoDigit (s.dropWhile Char.isDigit) := by
  intro c more rest
  have first := List.head?_dropWhile_not Char.isDigit s
  rw [rest] at first
  simpa using first

/-- One digit at least and nothing else is read as a number. -/
theorem digits?_eq_some :
    digits? s = some n ↔ ∃ ds : Digits, s = ds.chars ∧ valueOf ds.values = n := by
  constructor
  · intro read
    have span := spanDigits_append (decimal_takeWhile s) (noDigit_dropWhile s)
    rw [List.takeWhile_append_dropWhile] at span
    rw [digits?_of_span span] at read
    split at read
    · cases read
    · rename_i other
      obtain ⟨filled, all⟩ := not_or.mp other
      rw [List.map_eq_nil_iff] at filled
      have whole : s.takeWhile Char.isDigit = s := by
        have parts := List.takeWhile_append_dropWhile (p := Char.isDigit) (l := s)
        rwa [Decidable.not_not.mp all, List.append_nil] at parts
      exact ⟨⟨s.takeWhile Char.isDigit, filled, decimal_takeWhile s⟩, whole.symm,
        Option.some.inj read⟩
  · rintro ⟨ds, rfl, rfl⟩
    exact digits?_chars ds

/-! ### Numbers below a bound -/

/-- Digits with a plus sign or without one, for a number below a bound. -/
structure Spells (bound : Nat) (s : List Char) (n : Nat) : Prop where
  small : n < bound
  spelled : ∃ ds : Digits, (s = ds.chars ∨ s = '+' :: ds.chars) ∧ valueOf ds.values = n

theorem toList_toString (n : Nat) : (toString n).toList = (Digits.ofNat n).chars := by
  simp [Digits.ofNat, digitsOf]

theorem spells_toString (below : n < bound) : Spells bound (toString n).toList n :=
  ⟨below, Digits.ofNat n, .inl (toList_toString n), Digits.valueOf_ofNat n⟩

theorem natural?_eq_some : natural? bound s = some n ↔ Spells bound s n := by
  rw [natural?, Option.filter_eq_some_iff, digits?_eq_some, decide_eq_true_iff]
  constructor
  · rintro ⟨⟨ds, chars, value⟩, small⟩
    refine ⟨small, ds, ?_, value⟩
    split at chars
    · rename_i sign
      obtain ⟨rest, rfl⟩ := List.head?_eq_some_iff.mp sign
      exact .inr (congrArg ('+' :: ·) chars)
    · exact .inl chars
  · rintro ⟨small, ds, rfl | rfl, value⟩
    · have unsigned : ds.chars.head? ≠ some '+' := fun sign =>
        absurd (ds.decimal '+' (List.mem_of_mem_head? sign)) (by decide)
      exact ⟨⟨ds, if_neg unsigned, value⟩, small⟩
    · exact ⟨⟨ds, rfl, value⟩, small⟩

/-- A number below the bound is read from its own digits. -/
theorem natural?_toString (below : n < bound) : natural? bound (toString n).toList = some n :=
  natural?_eq_some.mpr (spells_toString below)

/-- A text begins with the digits of a number below a bound, and no digit follows them. -/
structure Leads (bound : Nat) (s : List Char) (n : Nat) : Prop where
  small : n < bound
  led : ∃ (ds : Digits) (rest : List Char), s = ds.chars ++ rest ∧ NoDigit rest ∧
    valueOf ds.values = n

theorem leads_toString_append (below : n < bound) {rest : List Char} (ended : NoDigit rest) :
    Leads bound ((toString n).toList ++ rest) n :=
  ⟨below, Digits.ofNat n, rest, by rw [toList_toString], ended, Digits.valueOf_ofNat n⟩

/-- The digits in front are read as a number. -/
theorem natural?_takeWhile_eq_some :
    natural? bound (s.takeWhile Char.isDigit) = some n ↔ Leads bound s n := by
  rw [natural?_eq_some]
  constructor
  · rintro ⟨small, ds, chars | signed, value⟩
    · refine ⟨small, ds, s.dropWhile Char.isDigit, ?_, noDigit_dropWhile s, value⟩
      rw [← chars, List.takeWhile_append_dropWhile]
    · have plus := decimal_takeWhile s '+' (signed ▸ List.mem_cons_self)
      exact absurd plus (by decide)
  · rintro ⟨small, ds, rest, rfl, ended, value⟩
    refine ⟨small, ds, .inl ?_, value⟩
    rw [List.takeWhile_append_of_pos ds.decimal]
    cases rest with
    | nil => simp
    | cons c more => simp [ended c more rfl]

end SyscallMeter.Numeral
