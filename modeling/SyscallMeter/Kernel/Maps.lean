import SyscallMeter.Kernel.EventQueue
import SyscallMeter.Outcome
import SyscallMeter.Totals

/-! The maps that the probes share with the measuring program: the event ring, the totals per
operation, and the counts of outcomes, which every processor keeps for itself. -/
namespace SyscallMeter.Kernel

structure Maps where
  events : EventQueue
  totals : TotalsTable
  /-- The counts of each processor. -/
  stats : List (Vector Nat ProbeStat.number)
  /-- Slots of the totals that can be looked up. -/
  totalSlots : Nat
  /-- Slots of the counts that can be looked up. -/
  statSlots : Nat

namespace Maps

def empty (ringBytes processors totalSlots statSlots : Nat) : Maps where
  events := EventQueue.empty ringBytes
  totals := TotalsTable.empty
  stats := List.replicate processors (Vector.replicate ProbeStat.number 0)
  totalSlots := totalSlots
  statSlots := statSlots

def hasStat (m : Maps) (stat : ProbeStat) : Bool := stat.index < m.statSlots

def hasTotals (m : Maps) (op : Operation) : Bool := op.index < m.totalSlots

/-- The counts of one processor. A number past the last processor stands for the last. -/
def modifyStats (m : Maps) (processor : Nat)
    (f : Vector Nat ProbeStat.number → Vector Nat ProbeStat.number) : Maps :=
  { m with stats := m.stats.modify (min processor (m.stats.length - 1)) f }

/-- Counts one outcome, if its slot can be looked up. -/
def bump (m : Maps) (processor : Nat) (stat : ProbeStat) : Maps :=
  if m.hasStat stat then
    m.modifyStats processor fun v => v.set stat.index (v.get stat.index + 1) stat.index.isLt
  else m

/-- Sets one count by its slot. -/
def setStat (m : Maps) (processor slot count : Nat) : Maps :=
  m.modifyStats processor fun v => v.setIfInBounds slot count

/-- One count of every processor. -/
def statOf (m : Maps) (stat : ProbeStat) : List Nat := m.stats.map fun v => v.get stat.index

end Maps

/-- The event ring as a transport. A window holds the bytes written so far. -/
def streamTransport : Transport Maps Octets where
  reserve? _ m := (m.events.reserve? Event.recordSize).map fun events => ([], { m with events })
  write _ record m := (record, m)
  commit record m := { m with events := m.events.finish ⟨record, false⟩ }
  discard _ m :=
    { m with events := m.events.finish ⟨List.replicate Event.recordSize 0, true⟩ }

/-- The totals as a transport. What cannot be looked up is not counted. -/
def totalsTransport : Transport Maps Event where
  reserve? op m := some (⟨op, 0⟩, m)
  write pending record m :=
    match Event.decode record with
    | .ok e => (e, m)
    | .error _ => (pending, m)
  commit pending m :=
    if m.hasTotals pending.op then { m with totals := m.totals.add pending } else m
  discard _ m := m

end SyscallMeter.Kernel
