import SyscallMeter.Report
import SyscallMeter.Tally.Line
import SyscallMeter.Text.Column

/-! The table at the end of a run. -/
namespace SyscallMeter.Report

/-- Bytes per call. -/
def Row.average (r : Row) : Magnitude :=
  (Magnitude.ofNat r.totals.told.bytes).div (Magnitude.ofNat (max r.totals.told.calls 1))

def tableLine (name calls bytes average : String) : String :=
  s!"   {Text.left 10 name} {Text.right 12 calls} {Text.right 14 bytes} {Text.right 12 average}\n"

def Row.line (r : Row) : String :=
  tableLine r.name (toString r.totals.told.calls) (toString r.totals.told.bytes)
    (String.ofList r.average.inTable)

def summary (r : Report) : String :=
  let head := s!"\n{r.exitReason}: {r.duration.inTable}s, {inWord r.totalEvents} events, " ++
    s!"{byteText (inWord r.totalBytes)}\n"
  if r.rows.isEmpty then head ++ "   no I/O observed\n"
  else
    let malformed := inWord r.malformed
    let ignored := if malformed > 0 then s!"   {malformed} malformed records ignored\n" else ""
    head ++ tableLine "kind" "calls" "bytes" "avg" ++ String.join (r.rows.map Row.line) ++ ignored

end SyscallMeter.Report
