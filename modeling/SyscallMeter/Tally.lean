import SyscallMeter.Totals

/-! What a run has counted: totals per operation and over all of them, and the records that were
no events. -/
namespace SyscallMeter

structure Tally where
  table : TotalsTable
  events : Nat
  bytes : Nat
  malformed : Nat

/-- A record that is no event. -/
structure RecordError where
  size : Nat
  reason : DecodeError
  deriving DecidableEq, Repr

def RecordError.message (e : RecordError) : String :=
  s!"Malformed {e.size}-byte record: {e.reason.message}"

namespace Tally

def empty : Tally := ⟨TotalsTable.empty, 0, 0, 0⟩

def totals (t : Tally) (op : Operation) : Totals := t.table.row op

def add (t : Tally) (e : Event) : Tally :=
  { t with
    table := t.table.add e
    events := t.events + 1
    bytes := t.bytes + e.length.toNat }

/-- Counts one record, as an event or as malformed. -/
def ingest (t : Tally) (record : Octets) : Except RecordError Event × Tally :=
  match Event.decode record with
  | .ok e => (.ok e, t.add e)
  | .error reason => (.error ⟨record.length, reason⟩, { t with malformed := t.malformed + 1 })

/-- Counts records in order. -/
def ingestAll (t : Tally) : List Octets → List (Except RecordError Event) × Tally
  | [] => ([], t)
  | record :: rest =>
    let (first, t) := t.ingest record
    let (others, t) := t.ingestAll rest
    (first :: others, t)

/-- Takes over the totals of one operation that were summed elsewhere. -/
def takeOver (t : Tally) (op : Operation) (totals : Totals) : Tally :=
  { t with
    table := t.table.setRow op totals
    events := t.events + totals.calls
    bytes := t.bytes + totals.bytes }

/-- The tally of totals that were summed elsewhere, listed in the order of the tags. -/
def ofTotals (sums : TotalsTable) : Tally :=
  (Operation.all.zip sums.toList).foldl (fun t (op, totals) => t.takeOver op totals) empty

/-- The operations that were called, in the order of the tags. -/
def active (t : Tally) : List (Operation × Totals) :=
  t.table.rows.filter fun row => row.2.calls > 0

end Tally

end SyscallMeter
