import SyscallMeter.Json.Writer
import SyscallMeter.KeyMap
import SyscallMeter.Outcome
import SyscallMeter.Text.Column

/-! The counts that the probes keep of their outcomes, as a run reads them. -/
namespace SyscallMeter

/-- Name of a count in reports. -/
def ProbeStat.key : ProbeStat → String
  | admitted => "admitted"
  | emitted => "emitted"
  | saturated => "saturated"
  | faulted => "faulted"
  | missingArgument => "missing_argument"

structure ProbeCounts where
  counts : Vector Nat ProbeStat.number

namespace ProbeCounts

/-- One count is kept per processor. The sum stops at the largest 64-bit number. -/
def sumProcessors (counts : List Nat) : Nat :=
  counts.foldl (fun total n => min (total + n) (UInt64.size - 1)) 0

/-- The counts of all processors together. -/
def sumOver (processors : List (Vector Nat ProbeStat.number)) : ProbeCounts :=
  ⟨Vector.ofFn fun i => sumProcessors (processors.map fun counts => counts[i])⟩

def get (c : ProbeCounts) (stat : ProbeStat) : Nat := c.counts.get stat.index

/-- Calls of the measured process that gave no event. -/
def dropped (c : ProbeCounts) : Nat := c.get .saturated + c.get .faulted + c.get .missingArgument

def toMap (c : ProbeCounts) : KeyMap Nat :=
  KeyMap.ofList (ProbeStat.all.map fun stat => (stat.key, c.get stat))

/-- The counts by name on one line. -/
def compact (c : ProbeCounts) : String := String.ofList (Json.compactNumbers c.toMap.entries)

/-- The counts as a table. It tells "the process did nothing" from "events were lost". -/
def table (c : ProbeCounts) : String :=
  let rows := ProbeStat.all.map fun stat => s!"   - {Text.left 28 stat.label} {c.get stat}\n"
  let hint :=
    if c.get .admitted == 0 then
      "   (no call from the target reached a probe: is it doing any I/O?)\n"
    else ""
  "\nprobe diagnostics:\n" ++ String.join rows ++ hint

end ProbeCounts

end SyscallMeter
