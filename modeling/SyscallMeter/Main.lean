import SyscallMeter.Run.Measurement
import SyscallMeter.Text.Blank
import SyscallMeter.Trace

/-! The meter as a program: it takes the machine as it finds it, measures, and does what the run
asks for. This program cannot load probes into a kernel, and says so where they would be loaded. -/
namespace SyscallMeter

/-- Variable of the environment that names the gateway. -/
def gatewayVariable : String := "IOTAP_PUSH_GATEWAY"

def usageText : String :=
  "Usage: iotap [OPTIONS] [PROCESS]\n\nOptions:\n" ++ String.join (Options.switches.map fun s =>
    let short := match s.short with
      | some letter => s!"-{letter}, "
      | none => "    "
    let value := if s.takesValue then s!" <{s.long.map Char.toUpper}>" else ""
    s!"  {short}--{s.long}{value}\n")

def readText? (path : String) : IO (Option String) := do
  try return some (← IO.FS.readFile path) catch _ => return none

/-- Where a link leads. -/
def linkTarget? (path : String) : IO (Option String) := do
  try return some (toString (← IO.FS.realPath path)) catch _ => return none

/-- The effective user: the second number behind its mark in the status of a process. -/
def userOf (status : String) : Nat :=
  let words := Text.words status.toList
  let numbers := (words.dropWhile (· ≠ "Uid:".toList)).drop 2
  (numbers.head?.bind (Numeral.natural? UInt32.size)).getD 0

def processEntries : IO (Option (List ProcessEntry)) := do
  try
    let directory := (← IO.currentDir) / "/proc"
    let entries ← directory.readDir
    let numbers := entries.toList.filter fun e => e.fileName.all Char.isDigit
    return some (← numbers.mapM fun e => do
      let stat ← readText? s!"/proc/{e.fileName}/stat"
      let exe ← linkTarget? s!"/proc/{e.fileName}/exe"
      return ⟨e.fileName, stat, exe⟩)
  catch _ => return none

def kindAt? (place : FilePlace) : IO (Option FileKind) := do
  try
    let path := (← IO.currentDir) / ("/" ++ "/".intercalate place)
    return match (← path.metadata).type with
      | .dir => some .directory
      | .file => some .regular
      | _ => some .special
  catch _ => return none

/-- The files on the ways to some paths. -/
def filesAround (paths : List String) : IO Files := do
  let working := (Files.names (toString (← IO.currentDir))).filter (· ≠ "")
  let places := (paths.map fun path => (Files.mk [] working).start path ++ Files.names path).flatMap
    fun place =>
      let names := place.filter fun name => name ≠ "" ∧ name ≠ "."
      (List.range (names.length + 1)).map names.take
  let entries ← places.filterMapM fun place => do
    return (← kindAt? place).map fun kind => (place, kind)
  return ⟨entries, working⟩

def machineFor (o : Options) : IO Machine := do
  let self := (← linkTarget? "/proc/self").getD ""
  return {
    processes := ← processEntries
    kernelVersion := ← readText? "/proc/version"
    user := userOf ((← readText? "/proc/self/status").getD "")
    ownPid := UInt32.ofNat ((Numeral.natural? UInt32.size (self.toList.drop 6)).getD 0)
    pageSize := 4096
    files := ← filesAround (o.object :: o.reportFile.toList) }

/-- A kernel that takes no probes from this program. -/
def kernelWithoutProbes : Kernel.Host :=
  Kernel.Host.fresh
    { Kernel.Refusals.none with object? := some "probes cannot be loaded from here" }
    (Kernel.Maps.empty defaultRingBytes 1 Operation.number ProbeStat.number)

/-- Does what a run asks for. Only notices of some weight are shown. -/
def perform : Effect → IO Unit
  | .print line => IO.println line
  | .tell text => IO.eprint text
  | .notice .info _ => return
  | .notice level text => IO.eprintln s!"[{level.name}] {text}"
  | .save place text => IO.FS.writeFile ("/" ++ "/".intercalate place) text
  | .request _ => return
  | .push _ _ => return

end SyscallMeter

open SyscallMeter in
def main (arguments : List String) : IO UInt32 := do
  match Options.parse arguments (← IO.getEnv gatewayVariable) with
  | .error e =>
    if e.exitCode = 0 then IO.print usageText else IO.eprint usageText
    return UInt32.ofNat e.exitCode
  | .ok o =>
    let world : World := {
      machine := ← machineFor o, kernel := kernelWithoutProbes, gateway := fun _ => .unreachable
      effects := [], looks := 0 }
    let (result, world) := (Run.measure o []).run.run world
    world.effects.reverse.forM perform
    if let .error f := result then
      IO.eprintln s!"error: {f.message}"
    return UInt32.ofNat (exitCodeOfRun result)
