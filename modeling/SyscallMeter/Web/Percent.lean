import SyscallMeter.Octets

/-! Percent-encoding: bytes of a text written as a percent sign and two hexadecimal digits. -/
namespace SyscallMeter.Web

/-- Upper-case hexadecimal digit of a number below 16. -/
def upperHexDigit (n : Nat) : Char :=
  if n < 10 then Char.ofNat (48 + n) else Char.ofNat (55 + n)

def escapeByte (b : UInt8) : List Char :=
  ['%', upperHexDigit (b.toNat / 16), upperHexDigit (b.toNat % 16)]

/-- Escapes the characters that `escaped` names, and all that are not ASCII. -/
def percentEncode (escaped : Char → Bool) (s : List Char) : List Char :=
  s.flatMap fun c =>
    if c.toNat ≥ 0x80 ∨ escaped c then (String.utf8EncodeChar c).flatMap escapeByte else [c]

/-- The bytes that a text stands for. A percent sign without two digits stands for itself. -/
def percentDecode : List Char → Octets
  | [] => []
  | '%' :: a :: b :: rest =>
    match Text.hexValue? a, Text.hexValue? b with
    | some x, some y => UInt8.ofNat (16 * x + y) :: percentDecode rest
    | _, _ => 0x25 :: percentDecode (a :: b :: rest)
  | c :: rest => String.utf8EncodeChar c ++ percentDecode rest

/-- The characters of bytes, if they are well-formed UTF-8. -/
def decodeUtf8? (bytes : Octets) : Option (List Char) :=
  (String.fromUTF8? ⟨bytes.toArray⟩).map String.toList

/-- Control characters. -/
def isControl (c : Char) : Bool := c.toNat < 0x20 || c.toNat == 0x7F

/-- Escaped in the fragment of an address. -/
def escapedInFragment (c : Char) : Bool := isControl c || " \"<>`".toList.contains c

/-- Escaped in the query of an address. -/
def escapedInQuery (c : Char) : Bool := isControl c || " \"#<>'".toList.contains c

/-- Escaped in the path of an address as it is given. -/
def escapedInPath (c : Char) : Bool :=
  escapedInFragment c || c == '#' || c == '?' || c == '\x7b' || c == '\x7d'

/-- Escaped in a path segment that is added to an address. -/
def escapedInSegment (c : Char) : Bool := escapedInPath c || "/%\\".toList.contains c

/-- Escaped in a user name or password. -/
def escapedInUserinfo (c : Char) : Bool := escapedInPath c || "/:;=@[\\]^|".toList.contains c

end SyscallMeter.Web
