import SyscallMeter.Number.Notation
import SyscallMeter.Text.Digit

/-! Writing JSON, compact or with two spaces per level. -/
namespace SyscallMeter.Json

/-- A character inside a string. Only quotes, backslashes and control characters below the space
are escaped. -/
def escape (c : Char) : List Char :=
  match c with
  | '"' => ['\\', '"']
  | '\\' => ['\\', '\\']
  | '\x08' => ['\\', 'b']
  | '\x0c' => ['\\', 'f']
  | '\n' => ['\\', 'n']
  | '\r' => ['\\', 'r']
  | '\t' => ['\\', 't']
  | c =>
    if c.toNat < 0x20 then
      ['\\', 'u', '0', '0', Text.hexDigit (c.toNat / 16), Text.hexDigit (c.toNat % 16)]
    else [c]

def quote (s : String) : List Char := '"' :: s.toList.flatMap escape ++ ['"']

/-- The text of a value at a level of nesting. -/
abbrev Written := Nat → List Char

namespace Written

def string (s : String) : Written := fun _ => quote s

def number (n : Nat) : Written := fun _ => digitsOf n

/-- A new line at a level of nesting. -/
def newline (level : Nat) : List Char := '\n' :: List.replicate (2 * level) ' '

/-- The items of a list, each on a line of its own, with commas between them. -/
def lines (level : Nat) : List (List Char) → List Char
  | [] => []
  | [item] => newline level ++ item
  | item :: rest => newline level ++ item ++ [','] ++ lines level rest

/-- Nothing stands between the brackets of an empty array. -/
def array (items : List Written) : Written := fun level =>
  if items.isEmpty then ['[', ']']
  else ['['] ++ lines (level + 1) (items.map fun item => item (level + 1)) ++ newline level ++ [']']

def member (key : String) (value : Written) : Written := fun level =>
  quote key ++ [':', ' '] ++ value level

/-- Nothing stands between the braces of an empty object. -/
def object (members : List (String × Written)) : Written := fun level =>
  if members.isEmpty then ['\x7b', '\x7d']
  else
    ['\x7b'] ++ lines (level + 1) (members.map fun m => member m.1 m.2 (level + 1))
      ++ newline level ++ ['\x7d']

end Written

/-- An object of numbers on one line without blanks. -/
def compactNumbers (members : List (String × Nat)) : List Char :=
  let text := members.map fun m => quote m.1 ++ [':'] ++ digitsOf m.2
  ['\x7b'] ++ (text.intersperse [',']).flatten ++ ['\x7d']

end SyscallMeter.Json
