import SyscallMeter.Kernel.Probe
import SyscallMeter.Kernel.Refusals
import SyscallMeter.ProbeCounts

/-! The kernel that a run works with: what it refuses, the probes that are attached, the maps that
they fill, and the memory of the processes. -/
namespace SyscallMeter.Kernel

structure Host where
  refusals : Refusals
  globals : Globals
  maps : Maps
  memory : Memory
  /-- The operations whose probes are attached. -/
  attached : List Operation
  /-- What the probes logged, the latest first. -/
  log : List LogLine

namespace Host

/-- A kernel in which nothing is loaded. -/
def fresh (refusals : Refusals) (maps : Maps) : Host :=
  ⟨refusals, Globals.zero, maps, Memory.empty, [], []⟩

/-- Sets the globals and the size of the event ring. -/
def load (h : Host) (s : Settings) : Host :=
  { h with
    globals := Globals.afterSetting (Globals.assigned s)
    maps := { h.maps with events := EventQueue.empty s.ringBytes.toNat } }

def attach (h : Host) (op : Operation) : Host := { h with attached := h.attached ++ [op] }

/-- What the probe of an operation does. -/
def probeRun (h : Host) (op : Operation) (e : Entry) : ProbeRun :=
  runProbe h.globals h.memory.reader op e h.maps

/-- The kernel after the probe of an operation ran. -/
def probed (h : Host) (op : Operation) (e : Entry) : Host :=
  let run := h.probeRun op e
  { h with maps := run.maps, log := run.log.reverse ++ h.log }

/-- The kernel after the probe of an operation ran some times. -/
def probedTimes (h : Host) (op : Operation) (e : Entry) : (times : Nat) → Host
  | 0 => h
  | times + 1 => (h.probed op e).probedTimes op e times

/-- A system call: every probe that is attached to its tracepoint runs. -/
def enter (h : Host) (tracepoint : String) (e : Entry) : Host :=
  (h.attached.filter fun op => op.tracepoint == tracepoint).foldl (fun h op => h.probed op e) h

/-- The same system call, made a number of times. -/
def enterTimes (h : Host) (tracepoint : String) (e : Entry) : (times : Nat) → Host
  | 0 => h
  | times + 1 => (h.enter tracepoint e).enterTimes tracepoint e times

/-- All records that wait in the event ring, and the kernel without them. -/
def drain (h : Host) : List Octets × Host :=
  let (records, events) := h.maps.events.drain
  (records, { h with maps := { h.maps with events } })

/-- Why there is no event ring to read from. -/
def events? (h : Host) : Option ProbeError := h.refusals.map? eventsMap

/-- The totals in one slot of their map, if the kernel lets them be read. -/
def totalsIn (h : Host) (slot : Nat) : Except ProbeError Totals :=
  match h.refusals.slots.lookup (totalsMap, slot), h.maps.totals[slot]? with
  | some reason, _ => .error (.mapRefused reason)
  | none, some totals => .ok totals
  | none, none =>
    .error (.mapRefused s!"the index is {slot} but `max_entries` is {Operation.number}")

/-- The totals of an operation are read from the slot below its tag, and go to its row. -/
def readRow (h : Host) (table : TotalsTable) (op : Operation) : Except ProbeError TotalsTable := do
  return table.setRow op (← h.totalsIn (op.tag - 1).toNat)

/-- The totals per operation, as far as the kernel lets them be read. -/
def readTotals (h : Host) : Except ProbeError TotalsTable :=
  match h.refusals.map? totalsMap with
  | some e => .error e
  | none => Operation.all.foldlM h.readRow TotalsTable.empty

/-- The counts of outcomes, summed over the processors. -/
def readCounts (h : Host) : Except ProbeError ProbeCounts :=
  match h.refusals.firstSlots? statsMap ProbeStat.number with
  | some e => .error e
  | none => .ok (ProbeCounts.sumOver h.maps.stats)

end Host

end SyscallMeter.Kernel
