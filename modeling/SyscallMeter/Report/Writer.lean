import SyscallMeter.Json.Writer
import SyscallMeter.Report

/-! Reports as JSON. The totals of an operation stand beside its name, and missing probe counts
are left out. -/
namespace SyscallMeter.Report
open Json (Written)

def Row.written (r : Row) : Written :=
  Written.object [
    ("kind", Written.string r.name),
    ("tag", Written.number r.tag.toNat),
    ("calls", Written.number r.totals.told.calls),
    ("bytes", Written.number r.totals.told.bytes)]

/-- The members that every report has, in order. -/
def members (r : Report) : List (String × Written) := [
  ("pid", Written.number r.pid.toNat),
  ("transport", Written.string r.transport),
  ("fault_policy", Written.string r.faultPolicy),
  ("batch_policy", Written.string r.batchPolicy),
  ("ring_bytes", Written.number r.ringBytes.toNat),
  ("duration_secs", fun _ => r.duration.inReport.toList),
  ("exit_reason", Written.string r.exitReason),
  ("labels", Written.object (r.labels.entries.map fun e => (e.1, Written.string e.2))),
  ("total_events", Written.number (inWord r.totalEvents)),
  ("total_bytes", Written.number (inWord r.totalBytes)),
  ("malformed_records", Written.number (inWord r.malformed)),
  ("kinds", Written.array (r.rows.map Row.written))]

/-- The member that only some reports have. -/
def countsMember (r : Report) : List (String × Written) :=
  match r.probeCounts with
  | none => []
  | some counts =>
    [("probe_stats", Written.object (counts.entries.map fun e => (e.1, Written.number e.2)))]

def written (r : Report) : Written := Written.object (r.members ++ r.countsMember)

/-- The text of a report file. -/
def toJson (r : Report) : String := String.ofList (r.written 0 ++ ['\n'])

end SyscallMeter.Report
