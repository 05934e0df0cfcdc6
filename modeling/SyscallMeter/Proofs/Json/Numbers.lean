import SyscallMeter.Proofs.Json.Strings

/-! Numbers in JSON: their grammar, and what a reader makes of each of them. A natural number of 64
bits is read back from its digits. -/
namespace SyscallMeter.Json

/-! ### Digits -/

/-- One decimal digit at least. -/
structure Digits where
  chars : List Char
  filled : chars ≠ []
  decimal : ∀ c ∈ chars, c.isDigit

namespace Digits

/-- The numbers of the digits. -/
def values (ds : Digits) : List Nat := ds.chars.map fun c => c.toNat - '0'.toNat

theorem values_ne_nil (ds : Digits) : ds.values ≠ [] := by simpa [values] using ds.filled

end Digits

/-- No digit stands in front. -/
def NoDigit (rest : List Char) : Prop := ∀ c more, rest = c :: more → c.isDigit = false

theorem Delimited.noDigit {rest : List Char} (h : Delimited rest) : NoDigit rest := by
  obtain ⟨c, more, rfl, rfl | rfl⟩ := h <;> (rintro _ _ ⟨⟩; decide)

theorem digitValue?_eq (c : Char) :
    Text.digitValue? c = if c.isDigit then some (c.toNat - '0'.toNat) else none := by
  simp only [Text.digitValue?, Char.isDigit, Char.le_def, Bool.and_eq_true, decide_eq_true_eq]
  rfl

theorem spanDigits_append {chars : List Char} (decimal : ∀ c ∈ chars, c.isDigit)
    {rest : List Char} (hr : NoDigit rest) :
    Text.spanDigits (chars ++ rest) = (chars.map fun c => c.toNat - '0'.toNat, rest) := by
  induction chars with
  | nil =>
    cases rest with
    | nil => rfl
    | cons c more =>
      have other : Text.digitValue? c = none := by rw [digitValue?_eq, hr c more rfl]; rfl
      simp [Text.spanDigits, other]
  | cons c more ih =>
    have digit : Text.digitValue? c = some (c.toNat - '0'.toNat) := by
      rw [digitValue?_eq, decimal c List.mem_cons_self, if_pos rfl]
    simp [Text.spanDigits, digit, ih fun d hd => decimal d (List.mem_cons_of_mem _ hd)]

theorem run_someDigits (ds : Digits) {rest : List Char} (hr : NoDigit rest) :
    someDigits.run (ds.chars ++ rest) = .ok (ds.values, rest) := by
  have span : Text.spanDigits (ds.chars ++ rest) = (ds.values, rest) :=
    spanDigits_append ds.decimal hr
  unfold someDigits
  rw [run_get_bind, span]
  simp [ds.values_ne_nil]
  rfl

/-- The number that digits stand for. -/
def valueOf (ds : List Nat) : Nat := ds.foldl (fun n d => 10 * n + d) 0

/-! ### The grammar of numbers -/

/-- A number as JSON writes it. A zero in front stands alone. -/
structure NumberText where
  negative : Bool
  whole : Digits
  alone : whole.values.head? = some 0 → whole.values.length = 1
  fraction : Option Digits
  /-- Whether the exponent is negative, and its digits. -/
  exponent : Option (Bool × Digits)

def fractionText : Option Digits → List Char
  | none => []
  | some ds => '.' :: ds.chars

def exponentText : Option (Bool × Digits) → List Char
  | none => []
  | some (negative, ds) => 'e' :: (if negative then '-' else '+') :: ds.chars

def withFraction (n dropped : Nat) : Option Digits → Nat × Int × Bool
  | none => (n, dropped, dropped == 0)
  | some ds =>
    let (m, unread) := accumulate n ds.values
    (m, (dropped : Int) - (ds.values.length - unread : Nat), false)

def withExponent (exponent : Int) (plain : Bool) : Option (Bool × Digits) → Int × Bool
  | none => (exponent, plain)
  | some (negative, ds) =>
    (exponent + if negative then -(valueOf ds.values : Int) else valueOf ds.values, false)

theorem run_signPart_digits (ds : Digits) (rest : List Char) :
    signPart.run (ds.chars ++ rest) = .ok (false, ds.chars ++ rest) := by
  obtain ⟨c, more, front⟩ := List.exists_cons_of_ne_nil ds.filled
  have digit : c ≠ '-' := by
    rintro rfl
    exact absurd (ds.decimal '-' (front ▸ List.mem_cons_self)) (by decide)
  unfold signPart
  rw [run_get_bind]
  simp [front, digit]
  rfl

theorem run_integerPart {ds : Digits} (alone : ds.values.head? = some 0 → ds.values.length = 1)
    {rest : List Char} (hr : NoDigit rest) :
    integerPart.run (ds.chars ++ rest) = .ok (ds.values, rest) := by
  unfold integerPart
  rw [run_bind_of_ok (run_someDigits ds hr)]
  split
  · rename_i d more front
    simp [front] at alone
  · rfl

theorem run_fractionPart (n dropped : Nat) (fraction : Option Digits) {rest : List Char}
    (hr : NoDigit rest) (point : rest.head? ≠ some '.') :
    (fractionPart n dropped).run (fractionText fraction ++ rest) =
      .ok (withFraction n dropped fraction, rest) := by
  unfold fractionPart
  cases fraction with
  | none =>
    rw [run_get_bind, fractionText, List.nil_append, if_neg point]
    rfl
  | some ds =>
    rw [fractionText, List.cons_append, run_get_bind, List.head?_cons, if_pos rfl,
      run_advance_bind, run_bind_of_ok (run_someDigits ds hr)]
    rfl

theorem run_exponentPart (negative : Bool) (ds : Digits) {rest : List Char} (hr : NoDigit rest) :
    exponentPart.run ((if negative then '-' else '+') :: (ds.chars ++ rest)) =
      .ok (if negative then -(valueOf ds.values : Int) else valueOf ds.values, rest) := by
  unfold exponentPart
  cases negative <;>
  · rw [run_get_bind, List.head?_cons, if_pos (by simp), run_advance_bind,
      run_bind_of_ok (run_someDigits ds hr)]
    rfl

theorem run_scientificPart (exponent : Int) (plain : Bool) (scientific : Option (Bool × Digits))
    {rest : List Char} (hr : Delimited rest) :
    (scientificPart exponent plain).run (exponentText scientific ++ rest) =
      .ok (withExponent exponent plain scientific, rest) := by
  unfold scientificPart
  cases scientific with
  | none =>
    obtain ⟨c, more, rfl, rfl | rfl⟩ := hr <;> rfl
  | some part =>
    obtain ⟨negative, ds⟩ := part
    have mark : isExponentMark (some 'e') = true := rfl
    rw [exponentText, List.cons_append, List.cons_append, run_get_bind, List.head?_cons,
      if_pos mark, run_advance_bind, run_bind_of_ok (run_exponentPart negative ds hr.noDigit)]
    rfl

namespace NumberText

def text (t : NumberText) : List Char :=
  (if t.negative then ['-'] else []) ++
    (t.whole.chars ++ (fractionText t.fraction ++ exponentText t.exponent))

/-- The digits that are read, the power of ten for them, and whether that is all. -/
def scaled (t : NumberText) : Nat × Int × Bool :=
  let (n, dropped) := accumulate 0 t.whole.values
  let (digits, exponent, plain) := withFraction n dropped t.fraction
  (digits, withExponent exponent plain t.exponent)

end NumberText

theorem run_number (t : NumberText) {rest : List Char} (hr : Delimited rest) :
    number.run (t.text ++ rest) =
      (numeral t.negative t.scaled.1 t.scaled.2.1 t.scaled.2.2).run rest := by
  have behind : NoDigit (exponentText t.exponent ++ rest) := by
    cases t.exponent with
    | none => exact hr.noDigit
    | some part => rintro _ _ ⟨⟩; rfl
  have point : (exponentText t.exponent ++ rest).head? ≠ some '.' := by
    cases t.exponent with
    | none => obtain ⟨c, more, rfl, rfl | rfl⟩ := hr <;> simp [exponentText]
    | some part => simp [exponentText]
  have between : NoDigit (fractionText t.fraction ++ (exponentText t.exponent ++ rest)) := by
    cases t.fraction with
    | none => exact behind
    | some ds => rintro _ _ ⟨⟩; rfl
  have sign : signPart.run (t.text ++ rest) = .ok (t.negative,
      t.whole.chars ++ (fractionText t.fraction ++ (exponentText t.exponent ++ rest))) := by
    cases negative : t.negative with
    | false =>
      simp only [NumberText.text, negative, Bool.false_eq_true, if_false, List.nil_append,
        List.append_assoc]
      exact run_signPart_digits _ _
    | true =>
      simp only [NumberText.text, negative, if_true, List.append_assoc]
      rfl
  rw [number, run_bind_of_ok sign, run_bind_of_ok (run_integerPart t.alone between),
    run_bind_of_ok (run_fractionPart _ _ t.fraction behind point)]
  dsimp only
  rw [run_bind_of_ok (run_scientificPart _ _ t.exponent hr)]
  rfl

/-! ### Natural numbers -/

theorem le_foldl_digits (n : Nat) (ds : List Nat) : n ≤ ds.foldl (fun n d => 10 * n + d) n := by
  induction ds generalizing n with
  | nil => exact Nat.le_refl n
  | cons d rest ih => exact Nat.le_trans (by omega) (ih (10 * n + d))

/-- Digits are read as long as the number fits. -/
theorem accumulate_of_lt {n : Nat} {ds : List Nat}
    (fits : ds.foldl (fun n d => 10 * n + d) n < UInt64.size) :
    accumulate n ds = (ds.foldl (fun n d => 10 * n + d) n, 0) := by
  induction ds generalizing n with
  | nil => rfl
  | cons d rest ih =>
    have first : n * 10 + d < UInt64.size := by
      have grows := le_foldl_digits (10 * n + d) rest
      rw [List.foldl_cons] at fits
      omega
    rw [accumulate, if_pos first, Nat.mul_comm n 10, ih fits, List.foldl_cons]

namespace Digits

/-- The digits of a natural number. -/
def ofNat (n : Nat) : Digits where
  chars := digitsOf n
  filled := Nat.toDigits_ne_nil
  decimal _ h := Nat.isDigit_of_mem_toDigits (by decide) (by decide) h

theorem valueOf_ofNat (n : Nat) : valueOf (ofNat n).values = n := by
  have read := Nat.ofDigitChars_toDigits (b := 10) (n := n) (by decide) (by decide)
  rw [Nat.ofDigitChars] at read
  rw [valueOf, values, List.foldl_map]
  exact read

/-- Only zero starts with a zero. -/
theorem head?_digitsOf {n : Nat} (positive : 0 < n) :
    ∃ c, (digitsOf n).head? = some c ∧ c.toNat - '0'.toNat ≠ 0 := by
  induction n using Nat.strongRecOn with
  | ind n ih =>
    by_cases small : n < 10
    · have digits : ∀ d < 10, 0 < d → (Nat.digitChar d).toNat - '0'.toNat ≠ 0 := by decide
      rw [digitsOf, Nat.toDigits_of_lt_base small]
      exact ⟨_, rfl, digits n small positive⟩
    · obtain ⟨c, first, other⟩ := ih (n / 10) (by omega) (by omega)
      refine ⟨c, ?_, other⟩
      rw [digitsOf, Nat.toDigits_of_base_le (by decide) (Nat.not_lt.mp small), List.head?_append]
      rw [digitsOf] at first
      rw [first]
      rfl

theorem alone_ofNat (n : Nat) : (ofNat n).values.head? = some 0 → (ofNat n).values.length = 1 := by
  intro zero
  cases n with
  | zero => rfl
  | succ n =>
    obtain ⟨c, first, other⟩ := head?_digitsOf (Nat.succ_pos n)
    rw [values, List.head?_map, ofNat, first, Option.map_some, Option.some.injEq] at zero
    exact absurd zero other

end Digits

/-- The text of a natural number. -/
def NumberText.ofNat (n : Nat) : NumberText where
  negative := false
  whole := .ofNat n
  alone := Digits.alone_ofNat n
  fraction := none
  exponent := none

theorem NumberText.text_ofNat (n : Nat) : (ofNat n).text = digitsOf n := by
  simp [ofNat, text, fractionText, exponentText, Digits.ofNat]

theorem run_number_digitsOf {n : Nat} (fits : n < UInt64.size) {rest : List Char}
    (hr : Delimited rest) : number.run (digitsOf n ++ rest) = .ok (.natural n, rest) := by
  have whole : accumulate 0 (NumberText.ofNat n).whole.values = (n, 0) := by
    have value := Digits.valueOf_ofNat n
    have small : valueOf (Digits.ofNat n).values < UInt64.size := by rwa [value]
    have read := accumulate_of_lt small
    rwa [← valueOf, value] at read
  rw [← NumberText.text_ofNat, run_number _ hr, NumberText.scaled, whole]
  rfl

/-! ### Numbers that are wanted -/

theorem NumberText.text_eq_cons (t : NumberText) :
    ∃ c more, t.text = c :: more ∧ startsNumber c = true := by
  obtain ⟨c, more, front⟩ := List.exists_cons_of_ne_nil t.whole.filled
  have digit : c.isDigit := t.whole.decimal c (front ▸ List.mem_cons_self)
  cases negative : t.negative with
  | true => exact ⟨'-', _, by simp [text, negative]; rfl, rfl⟩
  | false => exact ⟨c, _, by simp [text, negative, front]; rfl, by simp [startsNumber, digit]⟩

theorem isSpace_of_startsNumber {c : Char} (h : startsNumber c = true) : isSpace c = false := by
  by_cases space : isSpace c = true
  · simp only [isSpace, Bool.or_eq_true, beq_iff_eq, or_assoc] at space
    rcases space with rfl | rfl | rfl | rfl <;> cases h
  · simpa using space

theorem reads_expectNumber (t : NumberText) {x : Numeral}
    (read : ∀ rest, Delimited rest → number.run (t.text ++ rest) = .ok (x, rest)) :
    Reads expectNumber t.text x := by
  intro blanks rest hb hr
  obtain ⟨c, more, front, starts⟩ := t.text_eq_cons
  have read := read rest hr
  rw [front, List.cons_append] at read ⊢
  unfold expectNumber
  rw [run_bind_of_ok (run_peek hb (isSpace_of_startsNumber starts) _)]
  dsimp only
  rw [if_pos starts]
  exact read

theorem reads_expectNatural {n bound : Nat} (below : n < bound) (narrow : bound ≤ UInt64.size) :
    Reads (expectNatural bound) (digitsOf n) n := by
  have read : Reads expectNumber (digitsOf n) (.natural n) := by
    rw [← NumberText.text_ofNat]
    refine reads_expectNumber _ fun rest hr => ?_
    rw [NumberText.text_ofNat]
    exact run_number_digitsOf (Nat.lt_of_lt_of_le below narrow) hr
  refine read.bind fun rest => ?_
  simp only [if_pos below]
  rfl

theorem NumberText.not_plain {t : NumberText}
    (mixed : t.fraction.isSome ∨ t.exponent.isSome) : t.scaled.2.2 = false := by
  simp only [scaled]
  cases exponent : t.exponent with
  | some part => rfl
  | none =>
    cases fraction : t.fraction with
    | some ds => rfl
    | none => simp [exponent, fraction] at mixed

/-- A number with a fraction or an exponent is read if it can be scaled. -/
theorem reads_expectReal {t : NumberText} (mixed : t.fraction.isSome ∨ t.exponent.isSome)
    {x : Magnitude} (scaled : scale? t.scaled.1 t.scaled.2.1 = some x) :
    Reads expectReal t.text ⟨t.negative, x⟩ := by
  have read : Reads expectNumber t.text (.real ⟨t.negative, x⟩) := by
    refine reads_expectNumber t fun rest hr => ?_
    rw [run_number t hr, numeral, t.not_plain mixed, scaled]
    rfl
  exact read.bind fun rest => rfl

end SyscallMeter.Json
