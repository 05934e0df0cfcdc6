import SyscallMeter.Text.Digit
import SyscallMeter.Text.Search

/-! Internet addresses of four bytes, with the spellings that a host name allows for them: fewer
parts, and octal and hexadecimal numbers. -/
namespace SyscallMeter.Web

namespace Ipv4

/-- Digits in a base, if all are. -/
def digits? (base : Nat) (s : List Char) : Option Nat := do
  let ds ← s.mapM fun c => (Text.hexValue? c).filter (· < base)
  return ds.foldl (fun n d => n * base + d) 0

/-- A number of a spelling: hexadecimal after `0x`, octal after `0`, else decimal. -/
def number? : List Char → Option Nat
  | [] => none
  | '0' :: 'x' :: rest => digits? 16 rest
  | '0' :: 'X' :: rest => digits? 16 rest
  | '0' :: d :: rest => digits? 8 (d :: rest)
  | s => digits? 10 s

/-- Without the empty part behind a dot at the end. -/
def partsOf (host : List Char) : List (List Char) :=
  let parts := Text.splitOn '.' host
  if parts.getLast? = some [] then parts.dropLast else parts

/-- A host whose last part is a number is meant as an address. -/
def isMeant (host : List Char) : Bool :=
  match (partsOf host).getLast? with
  | none => false
  | some last => (!last.isEmpty && last.all Char.isDigit) || (number? last).isSome

/-- The last part fills all the bytes that the parts before it leave. -/
def parse? (host : List Char) : Option Nat := do
  let parts := partsOf host
  if parts.length > 4 then none
  let numbers ← parts.mapM number?
  let last ← numbers.getLast?
  let first := numbers.dropLast
  if last ≥ 1 <<< (8 * (4 - first.length)) ∨ first.any (· > 255) then none
  return first.zipIdx.foldl (fun address (n, i) => address + n <<< (8 * (3 - i))) last

/-- Four decimal numbers with dots between them. -/
def text (address : Nat) : List Char :=
  let byte := fun i => Nat.toDigits 10 (address >>> (8 * i) % 256)
  byte 3 ++ ['.'] ++ byte 2 ++ ['.'] ++ byte 1 ++ ['.'] ++ byte 0

end Ipv4

end SyscallMeter.Web
