import SyscallMeter.Number.Notation
import SyscallMeter.Tally

/-! The line of running totals. -/
namespace SyscallMeter

/-- Units of 1024 of the unit before, above bytes. -/
def largerUnits : List String := ["KiB", "MiB", "GiB"]

/-- Scales a number of at least 1024 units down, as long as there is a larger unit. -/
def inLargerUnit (x : Magnitude) (unit : String) : List String → String
  | [] => String.ofList x.inTable ++ " " ++ unit
  | larger :: rest =>
    if Magnitude.le (Magnitude.ofNat 1024) x then
      inLargerUnit (x.div (Magnitude.ofNat 1024)) larger rest
    else String.ofList x.inTable ++ " " ++ unit

/-- A number of bytes in the largest unit of which there is at least one. -/
def byteText (bytes : Nat) : String :=
  let x := Magnitude.ofNat bytes
  if Magnitude.le (Magnitude.ofNat 1024) x then inLargerUnit x "B" largerUnits
  else s!"{bytes} B"

def Tally.line (t : Tally) : String :=
  s!"stats: events={inWord t.events} bytes={byteText (inWord t.bytes)} " ++
    s!"malformed={inWord t.malformed}\n"

end SyscallMeter
