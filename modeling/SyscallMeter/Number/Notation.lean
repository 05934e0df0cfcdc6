import SyscallMeter.Number.Shortest

/-! How numbers are written: in reports, in metrics, and in tables for people. -/
namespace SyscallMeter

/-- The digits of a natural number. -/
def digitsOf (n : Nat) : List Char := Nat.toDigits 10 n

namespace Decimal

/-- Exponent of the first digit. -/
def leading (d : Decimal) : Int := d.exponent + (digitsOf d.digits).length - 1

/-- With a point and no exponent, and at least one digit after the point. -/
def positional (d : Decimal) : List Char :=
  let digits := digitsOf d.digits
  if d.exponent ≥ 0 then digits ++ List.replicate d.exponent.toNat '0' ++ ['.', '0']
  else
    let places := (-d.exponent).toNat
    if digits.length > places then
      digits.take (digits.length - places) ++ ['.'] ++ digits.drop (digits.length - places)
    else ['0', '.'] ++ List.replicate (places - digits.length) '0' ++ digits

/-- One digit, the others after a point, and the exponent with its sign. -/
def scientific (d : Decimal) : List Char :=
  let digits := digitsOf d.digits
  let fraction := digits.drop 1
  let point := if fraction.isEmpty then [] else ['.']
  let sign := if d.leading < 0 then ['-'] else ['+']
  digits.take 1 ++ point ++ fraction ++ ['e'] ++ sign ++ digitsOf d.leading.natAbs

end Decimal

namespace Magnitude

/-- As in reports: the shortest digits, positional from `1e-5` up to below `1e16`. -/
def inReport (x : Magnitude) : List Char :=
  if x.isZero then ['0', '.', '0']
  else
    let d := x.shortest
    if -5 ≤ d.leading ∧ d.leading < 16 then d.positional else d.scientific

/-- As in metrics: the shortest digits of an integer, never with an exponent. -/
def inMetrics (x : Magnitude) : List Char :=
  let d := x.shortest
  digitsOf d.digits ++ List.replicate d.exponent.toNat '0'

/-- As in tables: the exact value to one decimal place. -/
def inTable (x : Magnitude) : List Char :=
  let (num, den) := x.toRatio
  let tenths := roundDiv (num * 10) den
  digitsOf (tenths / 10) ++ ['.'] ++ digitsOf (tenths % 10)

end Magnitude

namespace Binary64

def signed (x : Binary64) (digits : List Char) : String :=
  String.ofList (if x.negative then '-' :: digits else digits)

def inReport (x : Binary64) : String := x.signed x.magnitude.inReport

def inTable (x : Binary64) : String := x.signed x.magnitude.inTable

end Binary64

end SyscallMeter
