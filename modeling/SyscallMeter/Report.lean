import SyscallMeter.Number.Binary64
import SyscallMeter.ProbeCounts
import SyscallMeter.Settings
import SyscallMeter.Tally

/-! The report of a finished run. -/
namespace SyscallMeter

/-- Why a run stopped measuring. -/
inductive ExitReason
  | interrupted
  | durationReached
  | processExited
  deriving DecidableEq, Repr

def ExitReason.text : ExitReason → String
  | interrupted => "interrupted"
  | durationReached => "duration limit reached"
  | processExited => "process exited"

/-- A length of time in whole seconds and nanoseconds. -/
structure Elapsed where
  seconds : Nat
  nanoseconds : Nat
  deriving DecidableEq, Repr

/-- The time in seconds: both parts are rounded, and then their sum. -/
def Elapsed.inSeconds (e : Elapsed) : Binary64 :=
  let fraction := (Magnitude.ofNat e.nanoseconds).div (Magnitude.ofNat 1000000000)
  ⟨false, (Magnitude.ofNat e.seconds).add fraction⟩

namespace Report

/-- The totals of one operation. -/
structure Row where
  name : String
  tag : UInt16
  totals : Totals
  deriving DecidableEq, Repr

end Report

structure Report where
  pid : UInt32
  transport : String
  faultPolicy : String
  batchPolicy : String
  ringBytes : UInt32
  /-- Time measured, in seconds. -/
  duration : Binary64
  exitReason : String
  labels : KeyMap String
  totalEvents : Nat
  totalBytes : Nat
  malformed : Nat
  rows : List Report.Row
  probeCounts : Option (KeyMap Nat)

/-- Only operations that were called have a row. -/
def Report.build (s : Settings) (t : Tally) (counts : Option ProbeCounts) (elapsed : Elapsed)
    (reason : ExitReason) : Report where
  pid := s.pid
  transport := s.mode.name
  faultPolicy := s.policy.fault.name
  batchPolicy := s.policy.batch.name
  ringBytes := s.ringBytes
  duration := elapsed.inSeconds
  exitReason := reason.text
  labels := s.reportLabels
  totalEvents := t.events
  totalBytes := t.bytes
  malformed := t.malformed
  rows := t.active.map fun row => ⟨row.1.name, row.1.tag, row.2⟩
  probeCounts := counts.map ProbeCounts.toMap

end SyscallMeter
