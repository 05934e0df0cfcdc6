import SyscallMeter.BuildTool.Shell
import SyscallMeter.CommandLine
import SyscallMeter.Machine.Files

/-! The tool that builds the probes, and the meter with them, and then runs the meter. -/
namespace SyscallMeter.BuildTool
open CommandLine

/-- Byte order of the machine that the probes are built for. -/
inductive Architecture
  | littleEndian
  | bigEndian
  deriving DecidableEq, Repr

namespace Architecture

def all : List Architecture := [littleEndian, bigEndian]

def name : Architecture → String
  | littleEndian => "bpfel-unknown-none"
  | bigEndian => "bpfeb-unknown-none"

/-- The probe object, once it is built. -/
def object (a : Architecture) : String := s!"target/{a.name}/release/iotap"

end Architecture

inductive Task
  | buildProbes (target : Architecture)
  | run (target : Architecture) (arguments : List String)
  deriving DecidableEq, Repr

/-! ### Reading the command line -/

structure TaskOptions where
  target : Architecture
  /-- Words for the meter. -/
  arguments : List String

def TaskOptions.default : TaskOptions := ⟨.littleEndian, []⟩

def targetSwitch : Switch TaskOptions :=
  ⟨"target", none, true, false, fun word o => do
    return { o with target := ← choice (Architecture.all.map fun a => (a.name, a)) word }⟩

def argumentOperand : Switch TaskOptions :=
  ⟨"", none, true, true, fun word o => .ok { o with arguments := o.arguments ++ [word] }⟩

def buildGrammar : Grammar TaskOptions := ⟨[targetSwitch], .none⟩

def runGrammar : Grammar TaskOptions := ⟨[targetSwitch], .behindEscape argumentOperand⟩

/-- Names of the tasks on the command line. -/
def buildWord : String := "build-ebpf"
def runWord : String := "run"
def helpWord : String := "help"

/-- Help about a task, or about all of them. -/
def parseHelp : List String → UsageError
  | [] => .help
  | [name] => if name ∈ [buildWord, runWord, helpWord] then .help else .unknownArgument
  | _ => .unknownArgument

def parse : List String → Except UsageError Task
  | [] => .error .noCommand
  | word :: rest =>
    if word = buildWord then do
      return .buildProbes (← CommandLine.parse buildGrammar .default rest).settings.target
    else if word = runWord then do
      let o := (← CommandLine.parse runGrammar .default rest).settings
      return .run o.target o.arguments
    else if word = helpWord then .error (parseHelp rest)
    else if word = "--" ∧ rest = [] then .error .noCommand
    else do
      let _ ← CommandLine.parse ⟨[], .none⟩ () [word]
      .error .unknownArgument

/-! ### Carrying it out -/

/-- One step of a task: a command, what is said if it cannot be started or does not succeed, and
what is said if it does. -/
structure Step where
  command : CommandWords
  notStarted : String
  notDone : CommandStatus → String
  done : List String

def Step.buildProbes (target : Architecture) : Step where
  command := ["cargo", "+nightly", "build", "--package", "iotap-ebpf", "--target", target.name,
    "-Z", "build-std=core", "--release"]
  notStarted := "Failed to build eBPF program"
  notDone status := s!"Failed to build eBPF program: {status.text}"
  done := ["✓ eBPF program built successfully", s!"  Object: {target.object}"]

def Step.buildMeter : Step where
  command := ["cargo", "build", "--release", "--package", "iotap"]
  notStarted := "Failed to build iotap"
  notDone status := s!"Failed to build iotap: {status.text}"
  done := []

def Step.runMeter (target : Architecture) (arguments : List String) : Step where
  command := ["sudo", "-E", "target/release/iotap", "--object", target.object] ++ arguments
  notStarted := "Failed to run iotap"
  notDone status := s!"iotap exited with {status.text}"
  done := []

def Task.steps : Task → List Step
  | .buildProbes target => [Step.buildProbes target]
  | .run target arguments =>
    [Step.buildProbes target, Step.buildMeter, Step.runMeter target arguments]

/-- What became of a task. -/
structure Ending where
  /-- The commands that were started, in order. -/
  calls : List CommandWords
  /-- The lines that were printed. -/
  lines : List String
  error? : Option String

/-- Carries steps out, up to the first that fails. -/
def carryOut (sh : Shell) : List Step → Ending
  | [] => ⟨[], [], none⟩
  | step :: rest =>
    match sh.call? (step.command.headD "") with
    | none => ⟨[], [], some s!"{step.notStarted}\n\nCaused by:\n    {noSuchFile}"⟩
    | some (status, sh) =>
      if status.isSuccess then
        let e := carryOut sh rest
        ⟨step.command :: e.calls, step.done ++ e.lines, e.error?⟩
      else ⟨[step.command], [], some (step.notDone status)⟩

/-- What is said of an error, and the exit code. -/
def Ending.errorText (e : Ending) : String :=
  match e.error? with
  | some text => s!"Error: {text}\n"
  | none => ""

def Ending.exitCode (e : Ending) : Nat := if e.error?.isSome then 1 else 0

end SyscallMeter.BuildTool
