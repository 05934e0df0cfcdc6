/-! Commands of the system, and how they end. -/
namespace SyscallMeter.BuildTool

/-- How a command ended. -/
inductive CommandStatus
  | exited (code : Nat)
  | killed (signal : Nat)
  deriving DecidableEq, Repr

/-- Names of the signals from 1 on. -/
def signalNames : List String :=
  ["HUP", "INT", "QUIT", "ILL", "TRAP", "ABRT", "BUS", "FPE", "KILL", "USR1", "SEGV", "USR2",
    "PIPE", "ALRM", "TERM", "STKFLT", "CHLD", "CONT", "STOP", "TSTP", "TTIN", "TTOU", "URG", "XCPU",
    "XFSZ", "VTALRM", "PROF", "WINCH", "IO", "PWR", "SYS"]

namespace CommandStatus

def isSuccess : CommandStatus → Bool
  | exited code => code == 0
  | killed _ => false

def text : CommandStatus → String
  | exited code => s!"exit status: {code}"
  | killed signal =>
    match signalNames[signal - 1]? with
    | some name => s!"signal: {signal} (SIG{name})"
    | none => s!"signal: {signal}"

end CommandStatus

/-- A command line in words, the command first. -/
abbrev CommandWords := List String

/-- The commands that can be found, each with how its calls to come will end. A call past the end
of the list is a success. -/
structure Shell where
  commands : List (String × List CommandStatus)

namespace Shell

/-- Calls a command. One that cannot be found does not start. -/
def call? (sh : Shell) (name : String) : Option (CommandStatus × Shell) :=
  match sh.commands.lookup name with
  | none => none
  | some [] => some (.exited 0, sh)
  | some (status :: later) =>
    some (status, ⟨sh.commands.map fun c => if c.1 == name then (name, later) else c⟩)

end Shell

end SyscallMeter.BuildTool
