/-! Texts filled up with spaces to the width of a column. Widths count characters, and a text that
is too long is left as it is. -/
namespace SyscallMeter.Text

def spaces (n : Nat) : String := String.ofList (List.replicate n ' ')

/-- At the left edge of its column. -/
def left (width : Nat) (s : String) : String := s ++ spaces (width - s.length)

/-- At the right edge of its column. -/
def right (width : Nat) (s : String) : String := spaces (width - s.length) ++ s

end SyscallMeter.Text
