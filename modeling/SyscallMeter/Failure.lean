import SyscallMeter.Gateway
import SyscallMeter.Lookup
import SyscallMeter.Options
import SyscallMeter.Preflight
import SyscallMeter.ProbeError

/-! How a run can fail, what is said of it, and the exit code that it gets. -/
namespace SyscallMeter

/-- A report file that could not be written. -/
structure WriteError where
  path : String
  reason : String
  deriving DecidableEq, Repr

def WriteError.message (e : WriteError) : String :=
  s!"Failed to write report file: {e.path}: {e.reason}"

/-- What goes wrong when a report is written to a file that could be made. -/
structure WriteFault where
  /-- Characters of the report that the file is left with. -/
  written : Nat
  reason : String
  deriving DecidableEq, Repr

inductive Failure
  /-- The process is given by its name and by its number. -/
  | twoTargets
  | noTarget
  | lookup (e : LookupError)
  | settings (e : SettingsError)
  | preflight (e : PreflightError)
  | gateway (e : GatewayError)
  | loading (e : ProbeError)
  | attaching (e : ProbeError)
  | noEvents
  | events (reason : String)
  | totals (e : ProbeError)
  | report (e : WriteError)
  /-- A report that was not written to its end. -/
  | unwritten (reason : String)
  deriving DecidableEq, Repr

namespace Failure

/-- What failed. -/
def headline : Failure → String
  | twoTargets =>
    "Cannot use PROCESS argument with --pid.\n\nUse either:\n"
      ++ "  iotap my-app              (by name)\n  iotap --pid 1234          (explicit PID)"
  | noTarget =>
    "Missing required argument: PROCESS or --pid\n\nUsage:\n"
      ++ "  iotap my-app              Find the process by name\n"
      ++ "  iotap --pid 1234          Explicit PID\n\nRun 'iotap --help' for more options"
  | lookup .noDirectory => "Failed to read /proc"
  | lookup e => e.message
  | settings e => e.message
  | preflight e => e.headline
  | gateway _ => "Invalid --push-gateway"
  | loading _ => "Failed to load probes"
  | attaching _ => "Failed to attach probes"
  | noEvents => "EVENTS map not found"
  | events reason => reason
  | totals _ => "Failed to read COUNTERS map"
  | report _ => "Failed to export report"
  | unwritten _ => "Failed to export report"

/-- What failed, and why. -/
def message : Failure → String
  | lookup e => e.message
  | preflight e => e.message
  | gateway e => s!"{(gateway e).headline}: {e.message}"
  | loading e => s!"{(loading e).headline}: {e.message}"
  | attaching e => s!"{(attaching e).headline}: {e.message}"
  | totals e => s!"{(totals e).headline}: {e.message}"
  | report e => s!"{(report e).headline}: {e.message}"
  | unwritten reason => s!"{(unwritten reason).headline}: {reason}"
  | f => f.headline

end Failure

/-- The exit code that a text about a failure gives: for missing rights, for wrong usage, and for
all else. Letters of either case count as one. -/
def exitCodeOfText (text : String) : Nat :=
  let lower := text.toList.map Char.toLower
  let mentions := fun (part : String) => Text.contains lower part.toList
  if mentions "permission denied" || mentions "requires root" then 77
  else if mentions "missing required argument" then 2
  else 1

/-- Wrong settings are wrong usage. Otherwise what is said first decides. -/
def Failure.exitCode : Failure → Nat
  | settings _ => 2
  | f => exitCodeOfText f.headline

/-- The exit code of a run. -/
def exitCodeOfRun : Except Failure Unit → Nat
  | .ok () => 0
  | .error f => f.exitCode

/-- The process that the options name. -/
def Options.target (o : Options) (m : Machine) : Except Failure UInt32 :=
  match o.process, o.pid with
  | some _, some _ => .error .twoTargets
  | some name, none => (Lookup.find m name).mapError .lookup
  | none, some n => ((Pid.ofInt n).mapError .settings).map Pid.number
  | none, none => .error .noTarget

end SyscallMeter
