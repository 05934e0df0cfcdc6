/-! Binary numbers of 53 bits, as they are used for durations and averages. All arithmetic is
exact and rounded once: to the nearest number, and from the middle to the even neighbour. -/
namespace SyscallMeter

/-- `num / den` to the nearest integer, from the middle to the even neighbour. -/
def roundDiv (num den : Nat) : Nat :=
  let low := num / den
  let twice := 2 * (num % den)
  if twice < den then low
  else if den < twice then low + 1
  else low + low % 2

/-- The number `mantissa * 2 ^ exponent`. -/
structure Magnitude where
  mantissa : Nat
  exponent : Int
  deriving DecidableEq, Repr

namespace Magnitude

/-- Bits of a mantissa. -/
def precision : Nat := 53

/-- Exponent of the smallest numbers. -/
def minExponent : Int := -1074

/-- Exponent of the largest numbers. -/
def maxExponent : Int := 971

def zero : Magnitude := ⟨0, minExponent⟩

/-- `num / den * 2 ^ shift`, as a quotient of natural numbers. -/
def scaled (num den : Nat) (shift : Int) : Nat × Nat :=
  (num <<< shift.toNat, den <<< (-shift).toNat)

/-- The least exponent at which the integer part of `num / den` has at most 53 bits, give or take
the one step that the bit lengths leave open. -/
def exponentFor (num den : Nat) : Int :=
  let guess : Int := (Nat.log2 num : Int) - Nat.log2 den - precision
  let (a, b) := scaled num den (-guess)
  max minExponent (if a / b < 1 <<< precision then guess else guess + 1)

/-- The nearest number to `num / den`. The exponent has no upper bound here: see `isFinite`. -/
def ofRatio (num den : Nat) : Magnitude :=
  if num = 0 then zero
  else
    let exponent := exponentFor num den
    let (a, b) := scaled num den (-exponent)
    let mantissa := roundDiv a b
    if mantissa = 1 <<< precision then ⟨1 <<< (precision - 1), exponent + 1⟩
    else ⟨mantissa, exponent⟩

def isFinite (x : Magnitude) : Bool := x.exponent ≤ maxExponent

def isZero (x : Magnitude) : Bool := x.mantissa == 0

/-- The exact value as a quotient. -/
def toRatio (x : Magnitude) : Nat × Nat := scaled x.mantissa 1 x.exponent

def ofNat (n : Nat) : Magnitude := ofRatio n 1

def add (x y : Magnitude) : Magnitude :=
  let (a, b) := x.toRatio
  let (c, d) := y.toRatio
  ofRatio (a * d + c * b) (b * d)

def mul (x y : Magnitude) : Magnitude :=
  let (a, b) := x.toRatio
  let (c, d) := y.toRatio
  ofRatio (a * c) (b * d)

/-- The quotient. The divisor is not zero. -/
def div (x y : Magnitude) : Magnitude :=
  let (a, b) := x.toRatio
  let (c, d) := y.toRatio
  ofRatio (a * d) (b * c)

/-- Whether the exact values compare as `x ≤ y`. -/
def le (x y : Magnitude) : Bool :=
  let (a, b) := x.toRatio
  let (c, d) := y.toRatio
  a * d ≤ c * b

end Magnitude

/-- A number with a sign; zero has one too. -/
structure Binary64 where
  negative : Bool
  magnitude : Magnitude
  deriving DecidableEq, Repr

end SyscallMeter
