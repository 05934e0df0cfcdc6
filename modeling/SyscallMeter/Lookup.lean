import SyscallMeter.Machine
import SyscallMeter.Number.Numeral
import SyscallMeter.Text.Search

/-! Finding the one process of a name. A process answers to the name of its command, which its
status line tells, and to the file name of its executable. -/
namespace SyscallMeter

inductive LookupError
  | noDirectory
  | nobody (name : String)
  /-- The processes with their commands, in the order of their numbers. -/
  | several (name : String) (found : List (UInt32 × String))
  deriving DecidableEq, Repr

def LookupError.message : LookupError → String
  | noDirectory => s!"Failed to read /proc: {noSuchFile}"
  | nobody name =>
    s!"No process matching '{name}' found.\nCheck running processes with: ps aux | grep {name}"
  | several name found =>
    let lines := found.map fun f => s!"  {f.1.toNat} ({f.2})"
    s!"Multiple processes match '{name}':\n" ++ "\n".intercalate lines
      ++ "\n\nSpecify PID explicitly: iotap --pid <PID>"

namespace Lookup

/-- The command in a status line: between the first opening and the last closing parenthesis,
since a process may have parentheses in its name. -/
def command? (stat : List Char) : Option (List Char) := do
  let (before, _) ← Text.splitFirst? '(' stat
  let (upTo, _) ← Text.splitLast? ')' stat
  if before.length < upTo.length then some (upTo.drop (before.length + 1)) else none

/-- The last name in a path. Dots for the same directory do not count, and two dots are no name. -/
def fileName? (path : List Char) : Option (List Char) :=
  let names := (Text.splitOn '/' path).filter fun name => name != [] && name != ['.']
  names.getLast?.filter (· ≠ ['.', '.'])

/-- Whether a process answers to a name. Of a path its last part counts, which may not be empty. -/
def answersTo (command executable wanted : List Char) : Bool :=
  let name := ((Text.splitOn '/' wanted).getLast?).getD wanted
  ! name.isEmpty && (Text.contains command name || Text.contains executable name)

/-- Command and file name of the executable of a process, if both can be read. -/
def names? (m : Machine) (pid : UInt32) : Option (List Char × List Char) := do
  let entry ← m.entry? pid
  let executable ← fileName? (← entry.exe).toList
  let command ← command? (← entry.stat).toList
  return (command, executable)

/-- The processes other than the run itself that answer to a name. -/
def matching (m : Machine) (entries : List ProcessEntry) (wanted : String) :
    List (UInt32 × String) :=
  entries.filterMap fun e => do
    let pid := UInt32.ofNat (← Numeral.natural? UInt32.size e.name.toList)
    if pid = m.ownPid then none
    let (command, executable) ← names? m pid
    if answersTo command executable wanted.toList then some (pid, String.ofList command) else none

/-- Order by number, then by command. -/
def before (a b : UInt32 × String) : Bool := a.1 < b.1 || (a.1 == b.1 && a.2 ≤ b.2)

def single (name : String) (found : List (UInt32 × String)) : Except LookupError UInt32 :=
  match found with
  | [] => .error (.nobody name)
  | [(pid, _)] => .ok pid
  | _ => .error (.several name (found.mergeSort before))

def find (m : Machine) (name : String) : Except LookupError UInt32 :=
  match m.processes with
  | none => .error .noDirectory
  | some entries => single name (matching m entries name)

end Lookup

end SyscallMeter
