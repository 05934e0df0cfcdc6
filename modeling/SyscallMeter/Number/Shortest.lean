import SyscallMeter.Number.Binary64

/-! The shortest decimal that still rounds to a given number. -/
namespace SyscallMeter

/-- The number `digits * 10 ^ exponent`. -/
structure Decimal where
  digits : Nat
  exponent : Int
  deriving DecidableEq, Repr

namespace Decimal

/-- `digits * 10 ^ exponent` as a quotient. -/
def toRatio (d : Decimal) : Nat × Nat :=
  (d.digits * Nat.pow 10 d.exponent.toNat, Nat.pow 10 (-d.exponent).toNat)

/-- Moves zeros at the end of the digits into the exponent; `fuel` is their greatest number. -/
def strip (d : Decimal) : (fuel : Nat) → Decimal
  | 0 => d
  | fuel + 1 =>
    if d.digits ≠ 0 ∧ d.digits % 10 = 0 then strip ⟨d.digits / 10, d.exponent + 1⟩ fuel else d

end Decimal

namespace Magnitude

/-- Whether a decimal lies among the reals that round to `x`. They reach half way to the
neighbours, and the ends belong to them if the mantissa is even. The neighbour below a power of
two is only half as far away. -/
def readsBack (x : Magnitude) (d : Decimal) : Bool :=
  let narrow := x.mantissa = 1 <<< (precision - 1) ∧ x.exponent ≠ minExponent
  let (low, unit) := scaled (4 * x.mantissa - (if narrow then 1 else 2)) 1 (x.exponent - 2)
  let (high, _) := scaled (4 * x.mantissa + 2) 1 (x.exponent - 2)
  let (num, den) := d.toRatio
  if x.mantissa % 2 = 0 then low * den ≤ num * unit ∧ num * unit ≤ high * den
  else low * den < num * unit ∧ num * unit < high * den

/-- The least `k` with `num / den < 10 ^ k`, searched upwards from `k`. -/
def scaleFrom (num den : Nat) (k : Int) : (fuel : Nat) → Int
  | 0 => k
  | fuel + 1 =>
    if num * Nat.pow 10 (-k).toNat < den * Nat.pow 10 k.toNat then k
    else scaleFrom num den (k + 1) fuel

/-- The least `k` with `x < 10 ^ k`. The bit length tells it up to a step or two. -/
def scale (x : Magnitude) : Int :=
  let (num, den) := x.toRatio
  let guess := (((Nat.log2 num : Int) - Nat.log2 den - 1) * 30103) / 100000 - 1
  scaleFrom num den guess 5

/-- The nearer of the two neighbours of `x` on the grid of `10 ^ exponent` that read back. -/
def onGrid? (x : Magnitude) (exponent : Int) : Option Decimal :=
  let (num, den) := x.toRatio
  let num := num * Nat.pow 10 (-exponent).toNat
  let den := den * Nat.pow 10 exponent.toNat
  let low : Decimal := ⟨num / den, exponent⟩
  let high : Decimal := ⟨num / den + 1, exponent⟩
  match x.readsBack low, x.readsBack high with
  | true, true => some ⟨roundDiv num den, exponent⟩
  | true, false => some low
  | false, true => some high
  | false, false => none

/-- The shortest decimal that reads back, and the nearest of those. Seventeen digits are always
enough. -/
def shortest (x : Magnitude) : Decimal :=
  let found := (List.range 17).findSome? fun (n : Nat) => x.onGrid? (x.scale - (n + 1))
  let exact : Decimal :=
    ⟨(x.mantissa <<< x.exponent.toNat) * Nat.pow 5 (-x.exponent).toNat, min x.exponent 0⟩
  (found.getD exact).strip 1100

end Magnitude

end SyscallMeter
