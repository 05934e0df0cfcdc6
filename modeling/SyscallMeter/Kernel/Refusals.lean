import SyscallMeter.Operation
import SyscallMeter.Octets
import SyscallMeter.ProbeError

/-! What a run asks of the kernel before any probe runs, and what the kernel may refuse. -/
namespace SyscallMeter.Kernel

/-- One request to the kernel. -/
inductive LoaderRequest
  /-- The object has to have the global. -/
  | setGlobal (name : String) (bytes : Octets)
  | setSize (map : String) (size : UInt32)
  /-- All that the kernel's check of the probes has to tell. -/
  | verifierLog
  | loadObject (path : String)
  | loadProgram (name : String)
  | attach (program tracepoint : String)
  | startLogger
  deriving DecidableEq, Repr

/-- Names of the maps that the probes share with a run. -/
def eventsMap : String := "EVENTS"
def totalsMap : String := "COUNTERS"
def statsMap : String := "PROBE_STATS"

/-- What the kernel refuses, with its reasons. -/
structure Refusals where
  object? : Option String
  /-- Programs that the object does not have. -/
  missingPrograms : List String
  /-- Programs that are for no tracepoint. -/
  otherPrograms : List (String × String)
  programs : List (String × String)
  tracepoints : List (String × String)
  /-- Maps that the object does not have. -/
  missingMaps : List String
  maps : List (String × String)
  /-- Slots of maps that cannot be read. -/
  slots : List ((String × Nat) × String)
  logger? : Option String

namespace Refusals

/-- A kernel that grants everything. -/
def none : Refusals := ⟨.none, [], [], [], [], [], [], [], .none⟩

/-- Why a program cannot be had, before it is loaded. -/
def program? (r : Refusals) (name : String) : Option ProbeError :=
  if name ∈ r.missingPrograms then some (.noProgram name)
  else (r.otherPrograms.lookup name).map .programRefused

/-- Why an operation gets no probe, if it gets none. -/
def probe? (r : Refusals) (op : Operation) : Option ProbeError :=
  match r.program? op.program, r.programs.lookup op.program with
  | some e, _ => some e
  | .none, some reason => some (.programRefused reason)
  | .none, .none =>
    (r.tracepoints.lookup op.tracepoint).map fun reason =>
      .notAttached op.program op.tracepoint reason

/-- The requests for the probe of an operation, up to the one that is refused. -/
def probeRequests (r : Refusals) (op : Operation) : List LoaderRequest :=
  match r.program? op.program, r.programs.lookup op.program with
  | some _, _ => []
  | .none, some _ => [.loadProgram op.program]
  | .none, .none => [.loadProgram op.program, .attach op.program op.tracepoint]

/-- Why a map cannot be opened. -/
def map? (r : Refusals) (name : String) : Option ProbeError :=
  if name ∈ r.missingMaps then some (.noMap name)
  else (r.maps.lookup name).map .mapRefused

/-- Why none of the first `count` slots of a map can be read, or one of them cannot. -/
def firstSlots? (r : Refusals) (map : String) (count : Nat) : Option ProbeError :=
  match r.map? map with
  | some e => some e
  | .none =>
    ((List.range count).findSome? fun slot => r.slots.lookup (map, slot)).map .mapRefused

end Refusals

end SyscallMeter.Kernel
