import SyscallMeter.Text.Digit

/-! Byte strings and the little-endian numbers in them. -/
namespace SyscallMeter

abbrev Octets := List UInt8

namespace Octets

/-- The low `width` bytes of a number, least significant first. -/
def ofNat : (width : Nat) → Nat → Octets
  | 0, _ => []
  | width + 1, n => UInt8.ofNat n :: ofNat width (n / 256)

/-- The number that bytes write, least significant first. -/
def toNat : Octets → Nat
  | [] => 0
  | b :: rest => b.toNat + 256 * toNat rest

@[simp] theorem length_ofNat (width n : Nat) : (ofNat width n).length = width := by
  induction width generalizing n with
  | zero => rfl
  | succ width ih => simp [ofNat, ih]

/-- The number of different values of `width` bytes. -/
def valuesOf : (width : Nat) → Nat
  | 0 => 1
  | width + 1 => 256 * valuesOf width

theorem toNat_ofNat (width n : Nat) : toNat (ofNat width n) = n % valuesOf width := by
  induction width generalizing n with
  | zero => simp [ofNat, toNat, valuesOf, Nat.mod_one]
  | succ width ih =>
    have h : (UInt8.ofNat n).toNat = n % 256 := by simp
    rw [ofNat, toNat, ih, h, valuesOf, Nat.mod_mul]

/-- A byte and a word of four bytes are had back from what was written of them. -/
theorem ofNat_toNat_byte (b : UInt8) : UInt8.ofNat (toNat [b]) = b := by
  rw [toNat, toNat, Nat.mul_zero, Nat.add_zero, UInt8.ofNat_toNat]

theorem ofNat_toNat_word (n : UInt32) : UInt32.ofNat (toNat (ofNat 4 n.toNat)) = n := by
  have bound : n.toNat < valuesOf 4 := n.toNat_lt
  rw [toNat_ofNat, Nat.mod_eq_of_lt bound, UInt32.ofNat_toNat]

/-- Two lower-case hexadecimal digits per byte. -/
def hex (bytes : Octets) : String :=
  String.ofList <|
    bytes.flatMap fun b => [Text.hexDigit (b.toNat / 16), Text.hexDigit (b.toNat % 16)]

/-- The bytes that hexadecimal digits write, two for each. -/
def ofHex? : List Char → Option Octets
  | [] => some []
  | [_] => none
  | high :: low :: rest => do
    let byte := 16 * (← Text.hexValue? high) + (← Text.hexValue? low)
    return UInt8.ofNat byte :: (← ofHex? rest)

end Octets

end SyscallMeter
