import SyscallMeter.Text.Digit
import SyscallMeter.Text.Hidden

/-! Texts in quotes, so that a reader of a message sees every character of them. -/
namespace SyscallMeter.Text

/-- A character inside quotes. Those that would not show are written by their number. -/
def quotedChar (c : Char) : List Char :=
  match c with
  | '\x00' => ['\\', '0']
  | '\t' => ['\\', 't']
  | '\r' => ['\\', 'r']
  | '\n' => ['\\', 'n']
  | '"' => ['\\', '"']
  | '\\' => ['\\', '\\']
  | c =>
    if isHidden c then
      ['\\', 'u', '\x7b'] ++ (Nat.toDigits 16 c.toNat) ++ ['\x7d']
    else [c]

def quoted (s : String) : String :=
  String.ofList ('"' :: s.toList.flatMap quotedChar ++ ['"'])

end SyscallMeter.Text
