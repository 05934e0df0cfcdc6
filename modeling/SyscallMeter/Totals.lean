import SyscallMeter.Event
import SyscallMeter.Operation.Table
import SyscallMeter.Transport

/-! Totals per operation, updated in place: the transport that keeps no single events and is never
saturated. -/
namespace SyscallMeter

/-- A sum as it is told. Here sums are exact, but they are told in 64 bits, so that a larger one
starts again at zero. -/
def inWord (sum : Nat) : Nat := sum % UInt64.size

theorem inWord_of_lt {sum : Nat} (fits : sum < UInt64.size) : inWord sum = sum :=
  Nat.mod_eq_of_lt fits

/-- Calls and the sum of their lengths. -/
structure Totals where
  calls : Nat
  bytes : Nat
  deriving DecidableEq, Repr

namespace Totals

def zero : Totals := ⟨0, 0⟩

/-- One more call. -/
def add (t : Totals) (length : UInt32) : Totals := ⟨t.calls + 1, t.bytes + length.toNat⟩

/-- The totals as they are told. -/
def told (t : Totals) : Totals := ⟨inWord t.calls, inWord t.bytes⟩

theorem told_of_lt {t : Totals} (calls : t.calls < UInt64.size) (bytes : t.bytes < UInt64.size) :
    t.told = t := by
  rw [told, inWord_of_lt calls, inWord_of_lt bytes]

/-- It makes no difference whether sums are cut at every addition or once they are told. -/
theorem told_add (t : Totals) (length : UInt32) :
    (t.told.add length).told = (t.add length).told := by
  simp only [told, add, inWord, Nat.mod_add_mod]

def isZero (t : Totals) : Bool := t.calls == 0 && t.bytes == 0

end Totals

abbrev TotalsTable := OperationTable Totals

namespace TotalsTable

def empty : TotalsTable := OperationTable.fill Totals.zero

def add (t : TotalsTable) (e : Event) : TotalsTable :=
  t.modifyRow e.op fun totals => totals.add e.length

/-- The totals of every operation, listed in the order of the tags. -/
def snapshot (t : TotalsTable) : TotalsTable := ⟨(Operation.all.map t.row).toArray, rfl⟩

/-- The table as a transport. A window is the event that committing it will add; a record that is
no event leaves it as it is. -/
def transport : Transport TotalsTable Event where
  reserve? op t := some (⟨op, 0⟩, t)
  write pending record t :=
    match Event.decode record with
    | .ok e => (e, t)
    | .error _ => (pending, t)
  commit pending t := t.add pending
  discard _ t := t

end TotalsTable

end SyscallMeter
