import SyscallMeter.Kernel.Host
import SyscallMeter.Proofs.OperationTable

/-! The totals as they are read from a kernel, slot by slot. The slot below the tag of an operation is
the row that its probe counts in, so that reading every slot gives the table that the probes filled. -/
namespace SyscallMeter.Kernel.Host

theorem readRow_eq (h : Host) (table : TotalsTable) (op : Operation) :
    h.readRow table op =
      match h.refusals.slots.lookup (totalsMap, (op.tag - 1).toNat) with
      | some reason => .error (.mapRefused reason)
      | none => .ok (table.setRow op (h.maps.totals.row op)) := by
  have own : h.maps.totals[(op.tag - 1).toNat]? = some (h.maps.totals.row op) := by
    rw [op.toNat_tag_sub_one]
    exact Vector.getElem?_eq_getElem op.index.isLt
  unfold readRow totalsIn
  rw [own]
  cases h.refusals.slots.lookup (totalsMap, (op.tag - 1).toNat) <;> rfl

/-- Rows are read in order, up to the first one whose slot is refused. -/
theorem foldlM_readRow (h : Host) (ops : List Operation) (table : TotalsTable) :
    ops.foldlM h.readRow table =
      match (ops.map fun op => (op.tag - 1).toNat).findSome? fun slot =>
        h.refusals.slots.lookup (totalsMap, slot) with
      | some reason => .error (.mapRefused reason)
      | none => .ok (ops.foldl (fun t op => t.setRow op (h.maps.totals.row op)) table) := by
  induction ops generalizing table with
  | nil => rfl
  | cons op rest ih =>
    rw [List.foldlM_cons, readRow_eq, List.map_cons, List.findSome?_cons]
    cases h.refusals.slots.lookup (totalsMap, (op.tag - 1).toNat) with
    | some reason => rfl
    | none => exact ih _

/-- The totals are read as the probes left them, unless the kernel refuses the map or a slot. -/
theorem readTotals_eq (h : Host) :
    h.readTotals =
      match h.refusals.firstSlots? totalsMap Operation.number with
      | some e => .error e
      | none => .ok h.maps.totals := by
  unfold readTotals Refusals.firstSlots?
  cases h.refusals.map? totalsMap with
  | some e => rfl
  | none =>
    dsimp only
    rw [foldlM_readRow, Operation.slots_in_order, OperationTable.foldl_setRow_all]
    cases (List.range Operation.number).findSome? fun slot =>
      h.refusals.slots.lookup (totalsMap, slot) <;> rfl

end SyscallMeter.Kernel.Host
