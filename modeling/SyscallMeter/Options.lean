import SyscallMeter.CommandLine
import SyscallMeter.Number.Numeral
import SyscallMeter.Settings

/-! The options of the meter, and the settings of a run that they stand for. -/
namespace SyscallMeter

structure Options where
  /-- Name of the process to measure. -/
  process : Option String
  /-- Its number, instead of a name. -/
  pid : Option Int
  object : String
  mode : Mode
  policy : Policy
  /-- Bytes wanted for the event ring. -/
  capacity : Nat
  /-- Seconds to measure; 0 is without limit. -/
  duration : Nat
  reportFile : Option String
  gateway : Option String
  labels : List Label
  logLevel : LogLevel
  verifierLog : Bool
  quiet : Bool
  deriving Repr

namespace Options
open CommandLine

def default : Options where
  process := none
  pid := none
  object := "target/bpfel-unknown-none/release/iotap"
  mode := .stream
  policy := ⟨.emitPartial, .skipEntry⟩
  capacity := defaultRingBytes
  duration := 0
  reportFile := none
  gateway := none
  labels := []
  logLevel := .off
  verifierLog := false
  quiet := false

/-- A switch with a value. -/
def valued {α : Type} (long : String) (short : Option Char) (read : String → Except UsageError α)
    (set : Options → α → Options) : Switch Options :=
  ⟨long, short, true, false, fun word o => return set o (← read word)⟩

/-- A switch without a value. -/
def flag (long : String) (short : Option Char) (set : Options → Options) : Switch Options :=
  ⟨long, short, false, false, fun _ o => .ok (set o)⟩

def natural64 : String → Except UsageError Nat :=
  readable fun word => Numeral.natural? UInt64.size word.toList

def labelSwitch : Switch Options :=
  ⟨"label", some 'L', true, true, fun word o => do
    let label ← readable (fun word => (Label.parse word).toOption) word
    return { o with labels := o.labels ++ [label] }⟩

def switches : List (Switch Options) := [
  valued "pid" (some 'p') (readable fun word => Numeral.integer? (UInt32.size / 2) word.toList)
    fun o n => { o with pid := some n },
  valued "object" none filePath fun o path => { o with object := path },
  valued "transport" none (choice ([Mode.stream, .counters].map fun m => (m.name, m)))
    fun o m => { o with mode := m },
  valued "fault-policy" none
    (choice ([FaultPolicy.emitPartial, .discard].map fun p => (p.name, p)))
    fun o p => { o with policy := { o.policy with fault := p } },
  valued "batch-policy" none
    (choice ([BatchPolicy.skipEntry, .abortBatch].map fun p => (p.name, p)))
    fun o p => { o with policy := { o.policy with batch := p } },
  valued "capacity" none natural64 fun o n => { o with capacity := n },
  valued "duration" none natural64 fun o n => { o with duration := n },
  valued "export" none filePath fun o path => { o with reportFile := some path },
  valued "push-gateway" none .ok fun o address => { o with gateway := some address },
  labelSwitch,
  valued "bpf-log" none (choice ([LogLevel.off, .error, .debug].map fun l => (l.name, l)))
    fun o l => { o with logLevel := l },
  flag "verifier-log" none fun o => { o with verifierLog := true },
  flag "quiet" (some 'q') fun o => { o with quiet := true }]

def grammar : Grammar Options where
  switches := switches
  operands := .one (valued "" none .ok fun o name => { o with process := some name })

/-- Reads a command line. Without a gateway on it, that of the environment is used. -/
def parse (words : List String) (gatewayVariable : Option String) : Except UsageError Options := do
  let o := (← CommandLine.parse grammar default words).settings
  return { o with gateway := o.gateway <|> gatewayVariable }

/-- The settings for a process, unless a label is repeated or the ring cannot have the size. -/
def settings (o : Options) (pid : UInt32) (page : Nat) : Except SettingsError Settings := do
  if let some key := firstRepeated? [] o.labels then .error (.duplicateLabel key)
  let ringBytes ← ringSize o.capacity page
  return {
    pid
    object := o.object
    mode := o.mode
    policy := o.policy
    ringBytes
    logLevel := o.logLevel
    verifierLog := o.verifierLog
    duration := if o.duration > 0 then some o.duration else none
    labels := o.labels }

end Options

end SyscallMeter
