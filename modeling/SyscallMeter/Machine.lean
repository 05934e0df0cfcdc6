import SyscallMeter.Machine.Files
import SyscallMeter.Settings

/-! What a run sees of the machine around it: the directory of processes, the kernel's version,
the user, and files. -/
namespace SyscallMeter

/-- One directory of the process directory. -/
structure ProcessEntry where
  name : String
  /-- The status line, if it can be read. -/
  stat : Option String
  /-- Where the link to the executable leads, if it can be read. -/
  exe : Option String
  deriving DecidableEq, Repr

structure Machine where
  /-- The process directory, if there is one. -/
  processes : Option (List ProcessEntry)
  /-- What the kernel tells of its version, if anything. -/
  kernelVersion : Option String
  /-- The user as whom the run acts. -/
  user : Nat
  /-- The run's own process. -/
  ownPid : UInt32
  /-- Bytes of a page. -/
  pageSize : Nat
  files : Files

namespace Machine

def entry? (m : Machine) (pid : UInt32) : Option ProcessEntry :=
  m.processes.bind fun entries => entries.find? fun e => e.name == toString pid.toNat

/-- A process exists as long as its directory does. -/
def exists_ (m : Machine) (pid : UInt32) : Bool := (m.entry? pid).isSome

/-- The executable of a process. -/
def executable? (m : Machine) (pid : UInt32) : Option String :=
  (m.entry? pid).bind fun e => e.exe

/-- Why the executable of a process is not known. -/
def executableError (pid : UInt32) : String :=
  s!"Cannot read {(Pid.mk pid).directory}/exe: {noSuchFile}"

/-- Removes the directory of a process. -/
def removeProcess (m : Machine) (name : String) : Machine :=
  { m with processes := m.processes.map fun entries => entries.filter fun e => e.name != name }

end Machine

end SyscallMeter
