import SyscallMeter.Operation

/-! Tables with one row per operation. -/
namespace SyscallMeter

abbrev OperationTable (α : Type) := Vector α Operation.number

namespace OperationTable

def fill {α : Type} (a : α) : OperationTable α := Vector.replicate Operation.number a

def row {α : Type} (t : OperationTable α) (op : Operation) : α := t.get op.index

def setRow {α : Type} (t : OperationTable α) (op : Operation) (a : α) : OperationTable α :=
  t.set op.index a op.index.isLt

def modifyRow {α : Type} (t : OperationTable α) (op : Operation) (f : α → α) : OperationTable α :=
  t.setRow op (f (t.row op))

/-- The rows with their operations, in the order of the tags. -/
def rows {α : Type} (t : OperationTable α) : List (Operation × α) :=
  Operation.all.map fun op => (op, t.row op)

end OperationTable

end SyscallMeter
