import SyscallMeter.Event

/-! How a call ends at its probe, and the counts kept of that. -/
namespace SyscallMeter

inductive DropReason
  /-- The transport had no room. -/
  | saturated
  /-- An argument could not be read. -/
  | missingArgument
  /-- Memory could not be read, and the policy drops such events. -/
  | fault
  deriving DecidableEq, Repr

inductive Outcome
  /-- The caller is not the measured process. -/
  | filteredOut
  | emitted (event : Event)
  | dropped (reason : DropReason)
  deriving DecidableEq, Repr

/-- What the probes count of the calls that the measured process makes. -/
inductive ProbeStat
  | admitted
  | emitted
  | saturated
  | faulted
  | missingArgument
  deriving DecidableEq, Repr

namespace ProbeStat

/-- Every count, in the order of the slots. -/
def all : List ProbeStat := [admitted, emitted, saturated, faulted, missingArgument]

abbrev number : Nat := 5

/-- The slot that holds a count. -/
def index : ProbeStat → Fin number
  | admitted => 0
  | emitted => 1
  | saturated => 2
  | faulted => 3
  | missingArgument => 4

def label : ProbeStat → String
  | admitted => "admitted"
  | emitted => "emitted"
  | saturated => "dropped (ring full)"
  | faulted => "dropped (memory fault)"
  | missingArgument => "dropped (missing argument)"

theorem mem_all (stat : ProbeStat) : stat ∈ all := by cases stat <;> decide

end ProbeStat

/-- The count of an outcome. Calls of other processes are not counted at all. -/
def Outcome.stat? : Outcome → Option ProbeStat
  | filteredOut => none
  | emitted _ => some .emitted
  | dropped .saturated => some .saturated
  | dropped .fault => some .faulted
  | dropped .missingArgument => some .missingArgument

/-- The event of a call that was published. -/
def Outcome.event? : Outcome → Option Event
  | emitted e => some e
  | _ => none

end SyscallMeter
