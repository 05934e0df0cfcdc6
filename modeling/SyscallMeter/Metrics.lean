import SyscallMeter.Number.Notation
import SyscallMeter.Tally

/-! The totals of a run as metrics in the text format of a metrics gateway: families in the order
of their names, each with its samples in the order of the operations' names. -/
namespace SyscallMeter

/-- Metrics of one name. Each sample has an operation, or belongs to the run as a whole. -/
structure MetricFamily where
  name : String
  help : String
  samples : List (Option Operation × Nat)

namespace MetricFamily

/-- A sample's value is a binary number, so above `2 ^ 53` what is told is rounded. -/
def sampleLine (family : String) (sample : Option Operation × Nat) : String :=
  let value := String.ofList (Magnitude.ofNat (inWord sample.2)).inMetrics
  match sample.1 with
  | some op => family ++ "\x7bkind=\"" ++ op.name ++ "\"\x7d " ++ value ++ "\n"
  | none => family ++ " " ++ value ++ "\n"

/-- A family without samples is left out. -/
def text (f : MetricFamily) : String :=
  if f.samples.isEmpty then ""
  else
    s!"# HELP {f.name} {f.help}\n# TYPE {f.name} counter\n"
      ++ String.join (f.samples.map (sampleLine f.name))

end MetricFamily

namespace Metrics

def runs : MetricFamily := ⟨"iotap_runs", "iotap measuring runs", [(none, 1)]⟩

/-- The operations that were called, in the order of their names. -/
def active (t : Tally) : List (Operation × Totals) :=
  t.active.mergeSort fun a b => a.1.name ≤ b.1.name

def calls (t : Tally) : MetricFamily where
  name := "iotap_io_calls"
  help := "I/O syscalls made by the target, per operation kind"
  samples := (active t).map fun row => (some row.1, row.2.calls)

def bytes (t : Tally) : MetricFamily where
  name := "iotap_io_bytes"
  help := "Bytes named by the target's I/O syscalls, per operation kind"
  samples := (active t).map fun row => (some row.1, row.2.bytes)

/-- The body of a push. -/
def text (t : Tally) : String := (bytes t).text ++ (calls t).text ++ runs.text

end Metrics

end SyscallMeter
