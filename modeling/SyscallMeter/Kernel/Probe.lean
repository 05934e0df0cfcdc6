import SyscallMeter.Kernel.Globals
import SyscallMeter.Kernel.Maps

/-! The probe programs as the kernel runs them: settings come from globals, arguments from the
record of a tracepoint, and everything is published through maps. -/
namespace SyscallMeter.Kernel

/-- One entry of a system call: who calls, what the tracepoint recorded, and where. -/
structure Entry where
  caller : UInt64
  record : Octets
  processor : Nat

/-- A record of a tracepoint: 16 bytes that do not matter here, and the arguments. -/
def tracepointRecord (arguments : List UInt64) : Octets :=
  List.replicate argumentsOffset 0 ++ arguments.flatMap fun a => Octets.ofNat 8 a.toNat

/-- The arguments in a record. Those past its end cannot be read. -/
def recordArguments (record : Octets) : Arguments := fun slot =>
  let offset := argumentOffset slot
  if offset + 8 ≤ record.length then
    some (UInt64.ofNat (Octets.toNat ((record.drop offset).take 8)))
  else none

/-- One request of a probe to the kernel. -/
inductive Request
  | argument (offset : Nat) (granted : Bool)
  | memory (address : UInt64) (length : Nat) (granted : Bool)
  | reserve (length : Nat) (granted : Bool)
  | submit (record : Octets)
  | discard
  | totals (slot : Nat) (granted : Bool)
  | stat (slot : Nat) (granted : Bool)
  deriving DecidableEq, Repr

/-- A message that a probe logs. -/
structure LogLine where
  level : LogLevel
  text : String
  deriving DecidableEq, Repr

/-- What running a probe did. -/
structure ProbeRun where
  maps : Maps
  requests : List Request
  log : List LogLine
  /-- What the program answers to the kernel. -/
  answer : UInt32

def accessRequest : Access → Request
  | .argument slot present => .argument (argumentOffset slot) present
  | .memory address length readable => .memory address length readable

/-- The requests of a step when events go to the ring. -/
def streamRequests : Step → List Request
  | .reserve _ granted => [.reserve Event.recordSize granted]
  | .access a => [accessRequest a]
  | .write record => [.submit record]
  | .commit => []
  | .discard => [.discard]

/-- The requests of a step when totals are updated in place. -/
def totalsRequests (m : Maps) (op : Operation) : Step → List Request
  | .access a => [accessRequest a]
  | .commit => [.totals op.index (m.hasTotals op)]
  | _ => []

/-- What is logged of an outcome. -/
def outcomeLog (level : LogLevel) (op : Operation) (o : Outcome) : List LogLine :=
  match o, o.stat? with
  | .emitted e, _ =>
    if level.showsDebug then [⟨.debug, s!"{op.name} len={e.length.toNat}"⟩] else []
  | .dropped _, some stat =>
    if level.showsErrors then [⟨.error, s!"{op.name} dropped: {stat.label}"⟩] else []
  | _, _ => []

/-- Handles a call through the transport that the globals choose. -/
def handleCall (g : Globals) (r : Reader) (call : Call) (m : Maps) :
    Outcome × Maps × List Request :=
  match Mode.ofByte g.mode with
  | .stream =>
    let h := handle streamTransport g.settings r call m
    (h.outcome, h.state, h.steps.flatMap streamRequests)
  | .counters =>
    let h := handle totalsTransport g.settings r call m
    (h.outcome, h.state, h.steps.flatMap (totalsRequests m call.op))

/-- The answer of every probe to the kernel. -/
def probeReturn : UInt32 := 0

/-- Runs the probe of an operation. Other processes leave before any map is touched. -/
def runProbe (g : Globals) (r : Reader) (op : Operation) (e : Entry) (m : Maps) : ProbeRun :=
  if g.settings.target.admits e.caller then
    let admitted := Request.stat ProbeStat.admitted.index (m.hasStat .admitted)
    let m := m.bump e.processor .admitted
    let (outcome, m, requests) := handleCall g r ⟨op, e.caller, recordArguments e.record⟩ m
    match outcome.stat? with
    | none => ⟨m, admitted :: requests, [], probeReturn⟩
    | some stat =>
      ⟨m.bump e.processor stat,
        admitted :: requests ++ [.stat stat.index (m.hasStat stat)],
        outcomeLog (LogLevel.ofByte g.log) op outcome, probeReturn⟩
  else ⟨m, [], [], probeReturn⟩

end SyscallMeter.Kernel
