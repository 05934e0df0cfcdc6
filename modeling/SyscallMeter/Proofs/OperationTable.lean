import SyscallMeter.Operation.Table

/-! Tables with one row per operation. The row of an operation is the slot below its tag, so that the
rows stand in the order of the tags, and a table is known by them. -/
namespace SyscallMeter

namespace Operation

theorem index_injective {op op' : Operation} (h : op.index = op'.index) : op = op' := by
  have tags : op.tag = op'.tag := by
    apply UInt16.toNat_inj.mp
    rw [← op.index_eq_tag, ← op'.index_eq_tag, h]
  have found := congrArg ofTag? tags
  rw [ofTag?_tag, ofTag?_tag] at found
  exact Option.some.inj found

/-- The operations are listed in the order of their rows. -/
theorem index_get_all : ∀ i : Fin all.length, (all.get i).index.val = i.val := by decide

theorem exists_index (i : Fin number) : ∃ op : Operation, op.index = i :=
  ⟨all.get i, Fin.ext (index_get_all i)⟩

/-- The slot below the tag of an operation. -/
theorem toNat_tag_sub_one (op : Operation) : (op.tag - 1).toNat = op.index.val := by
  have one_le : (1 : UInt16) ≤ op.tag := by
    rw [UInt16.le_iff_toNat_le, ← op.index_eq_tag]
    exact Nat.le_add_left 1 _
  rw [UInt16.toNat_sub_of_le _ _ one_le, ← op.index_eq_tag]
  rfl

/-- The slots of all operations are read in their order. -/
theorem slots_in_order : (all.map fun op => (op.tag - 1).toNat) = List.range number := by decide

end Operation

namespace OperationTable

variable {α : Type}

theorem row_setRow (t : OperationTable α) (op op' : Operation) (a : α) :
    (t.setRow op a).row op' = if op = op' then a else t.row op' := by
  have set : (t.setRow op a).row op' = if op.index.val = op'.index.val then a else t.row op' :=
    Vector.getElem_set op.index.isLt op'.index.isLt
  have same : op.index.val = op'.index.val ↔ op = op' :=
    ⟨fun h => Operation.index_injective (Fin.ext h), fun h => by rw [h]⟩
  simpa only [same] using set

/-- Changing a row leaves the others alone. -/
theorem row_modifyRow (t : OperationTable α) (op op' : Operation) (f : α → α) :
    (t.modifyRow op f).row op' = if op = op' then f (t.row op) else t.row op' :=
  row_setRow t op op' (f (t.row op))

theorem row_fill (a : α) (op : Operation) : (fill a).row op = a :=
  Vector.getElem_replicate op.index.isLt

/-- Every row has an operation, so a table is known by the rows of the operations. -/
theorem ext_row {t t' : OperationTable α} (same : ∀ op, t.row op = t'.row op) : t = t' := by
  apply Vector.ext
  intro i inside
  obtain ⟨op, at_row⟩ := Operation.exists_index ⟨i, inside⟩
  have rows : t.get op.index = t'.get op.index := same op
  rw [at_row] at rows
  exact rows

/-- Rows that are set one after the other. -/
theorem row_foldl_setRow (source t : OperationTable α) (ops : List Operation) (op : Operation) :
    (ops.foldl (fun t op => t.setRow op (source.row op)) t).row op =
      if op ∈ ops then source.row op else t.row op := by
  induction ops generalizing t with
  | nil => rfl
  | cons first rest ih =>
    rw [List.foldl_cons, ih, row_setRow]
    by_cases own : first = op
    · simp [own]
    · simp [own, Ne.symm own]

/-- A table of which every row was set is the table that the rows are from. -/
theorem foldl_setRow_all (source t : OperationTable α) :
    Operation.all.foldl (fun t op => t.setRow op (source.row op)) t = source := by
  apply ext_row
  intro op
  rw [row_foldl_setRow, if_pos op.mem_all]

/-- In the order of the tags the rows are the entries of the table. -/
theorem map_row_all (t : OperationTable α) : Operation.all.map t.row = t.toList := by
  apply List.ext_getElem
  · rw [List.length_map, Vector.length_toList]
    rfl
  · intro i inside _
    have listed : i < Operation.all.length := by rwa [List.length_map] at inside
    have own : Operation.all[i].index = ⟨i, listed⟩ := Fin.ext (Operation.index_get_all ⟨i, listed⟩)
    rw [List.getElem_map, Vector.getElem_toList, row, own]
    rfl

theorem zip_toList (t : OperationTable α) : Operation.all.zip t.toList = t.rows := by
  rw [← map_row_all, rows, List.map_prod_left_eq_zip]

end OperationTable

end SyscallMeter
