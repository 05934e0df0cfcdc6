import Mathlib.Algebra.GroupWithZero.Nat
import Mathlib.Algebra.Order.BigOperators.Group.List
import Mathlib.Algebra.Order.Group.Nat
import SyscallMeter.Proofs.OperationTable
import SyscallMeter.Tally

/-! What a tally holds once events were counted. Encoded events are read back as they were, each
goes to the row of its operation, and the overall totals are the sums of the rows. -/
namespace SyscallMeter

/-- Raising the number of one operation raises the sum once for each time it is listed. -/
theorem Operation.sum_raised (ops : List Operation) (number : Operation → Nat) (op : Operation)
    (more : Nat) : (ops.map fun o => if op = o then number o + more else number o).sum =
      (ops.map number).sum + ops.count op * more := by
  induction ops with
  | nil => simp
  | cons o rest ih =>
    rw [List.map_cons, List.sum_cons, ih, List.map_cons, List.sum_cons]
    by_cases same : op = o
    · rw [if_pos same, same, List.count_cons_self, Nat.add_mul, Nat.one_mul]
      omega
    · rw [if_neg same, List.count_cons_of_ne (Ne.symm same)]
      omega

theorem Operation.count_all (op : Operation) : all.count op = 1 := by
  cases op <;> rfl

/-- The operations are listed as their rows stand, so that a snapshot has them in their rows. -/
theorem TotalsTable.snapshot_eq (t : TotalsTable) : t.snapshot = t := by
  have entries : t.snapshot.toList = t.toList := OperationTable.map_row_all t
  exact Vector.toList_inj.mp entries

/-- An encoded event is read back, whatever stands behind it. -/
theorem Event.decode_encode_append (e : Event) (rest : Octets) :
    decode (e.encode ++ rest) = .ok e := by
  have long : ¬ (e.encode ++ rest).length < recordSize := by simp
  have tag_bytes : (e.encode ++ rest).take 2 = Octets.ofNat 2 e.op.tag.toNat := by
    simp [encode]
  have length_bytes : ((e.encode ++ rest).drop 2).take 4 = Octets.ofNat 4 e.length.toNat := by
    simp [encode]
  have tag : UInt16.ofNat (Octets.toNat (Octets.ofNat 2 e.op.tag.toNat)) = e.op.tag := by
    have bound := e.op.tag.toNat_lt
    rw [Octets.toNat_ofNat, Nat.mod_eq_of_lt (by simpa [Octets.valuesOf] using bound),
      UInt16.ofNat_toNat]
  simp only [decode, if_neg long, tag_bytes, length_bytes, tag, Octets.ofNat_toNat_word,
    Operation.ofTag?_tag]

@[simp] theorem Event.decode_encode (e : Event) : decode e.encode = .ok e := by
  simpa using decode_encode_append e []

/-- The totals of one operation in a list of events. -/
def Totals.ofEvents (op : Operation) (events : List Event) : Totals :=
  let own := events.filter (·.op = op)
  ⟨own.length, (own.map (·.length.toNat)).sum⟩

namespace Tally

def addAll (t : Tally) (events : List Event) : Tally := events.foldl add t

/-- The overall totals are the sums over all operations. -/
def Summed (t : Tally) : Prop :=
  t.events = (Operation.all.map fun op => (t.totals op).calls).sum ∧
    t.bytes = (Operation.all.map fun op => (t.totals op).bytes).sum

theorem totals_empty (op : Operation) : empty.totals op = Totals.zero :=
  OperationTable.row_fill Totals.zero op

theorem totals_add (t : Tally) (e : Event) (op : Operation) :
    (t.add e).totals op = if e.op = op then (t.totals op).add e.length else t.totals op := by
  have row := OperationTable.row_modifyRow t.table e.op op (Totals.add · e.length)
  by_cases own : e.op = op
  · obtain rfl := own
    rw [if_pos rfl] at row ⊢
    exact row
  · rw [if_neg own] at row ⊢
    exact row

theorem summed_empty : empty.Summed := by
  simp only [Summed, totals_empty]
  exact ⟨rfl, rfl⟩

/-- An event adds to one row what it adds to the overall totals. -/
theorem Summed.add {t : Tally} (h : t.Summed) (e : Event) : (t.add e).Summed := by
  obtain ⟨calls, bytes⟩ := h
  constructor
  · have row (op : Operation) : ((t.add e).totals op).calls =
        if e.op = op then (t.totals op).calls + 1 else (t.totals op).calls := by
      rw [totals_add]
      split <;> rfl
    have overall : (t.add e).events = t.events + 1 := rfl
    rw [overall, calls, funext row, Operation.sum_raised, Operation.count_all, Nat.one_mul]
  · have row (op : Operation) : ((t.add e).totals op).bytes =
        if e.op = op then (t.totals op).bytes + e.length.toNat else (t.totals op).bytes := by
      rw [totals_add]
      split <;> rfl
    have overall : (t.add e).bytes = t.bytes + e.length.toNat := rfl
    rw [overall, bytes, funext row, Operation.sum_raised, Operation.count_all, Nat.one_mul]

theorem Summed.addAll {t : Tally} (h : t.Summed) (events : List Event) :
    (t.addAll events).Summed := by
  induction events generalizing t with
  | nil => exact h
  | cons e rest ih => exact ih (h.add e)

theorem addAll_append (t : Tally) (first second : List Event) :
    t.addAll (first ++ second) = (t.addAll first).addAll second := List.foldl_append

theorem malformed_addAll (t : Tally) (events : List Event) :
    (t.addAll events).malformed = t.malformed := by
  induction events generalizing t with
  | nil => rfl
  | cons e rest ih => exact ih (t.add e)

/-- Each row grows by the totals of the events of its operation. -/
theorem totals_addAll (t : Tally) (events : List Event) (op : Operation) :
    (t.addAll events).totals op =
      ⟨(t.totals op).calls + (Totals.ofEvents op events).calls,
        (t.totals op).bytes + (Totals.ofEvents op events).bytes⟩ := by
  induction events generalizing t with
  | nil => rfl
  | cons e rest ih =>
    change ((t.add e).addAll rest).totals op = _
    rw [ih, totals_add]
    by_cases own : e.op = op
    · simp only [Totals.add, Totals.ofEvents, List.filter_cons, own, decide_true,
        if_true, List.length_cons, List.map_cons, List.sum_cons, Totals.mk.injEq]
      omega
    · simp [own, Totals.ofEvents]

theorem totals_addAll_empty (events : List Event) (op : Operation) :
    (empty.addAll events).totals op = Totals.ofEvents op events := by
  rw [totals_addAll, totals_empty]
  simp [Totals.zero]

theorem table_addAll (t : Tally) (events : List Event) :
    (t.addAll events).table = events.foldl TotalsTable.add t.table := by
  induction events generalizing t with
  | nil => rfl
  | cons e rest ih => exact ih (t.add e)

theorem events_addAll (t : Tally) (events : List Event) :
    (t.addAll events).events = t.events + events.length := by
  induction events generalizing t with
  | nil => rfl
  | cons e rest ih =>
    have next : ((t.add e).addAll rest).events = (t.events + 1) + rest.length := ih (t.add e)
    rw [List.length_cons, Nat.add_comm rest.length, ← Nat.add_assoc]
    exact next

theorem bytes_addAll (t : Tally) (events : List Event) :
    (t.addAll events).bytes = t.bytes + (events.map (·.length.toNat)).sum := by
  induction events generalizing t with
  | nil => rfl
  | cons e rest ih =>
    have next : ((t.add e).addAll rest).bytes =
        (t.bytes + e.length.toNat) + (rest.map (·.length.toNat)).sum := ih (t.add e)
    rw [List.map_cons, List.sum_cons, ← Nat.add_assoc]
    exact next

/-- The calls in all rows are as many as the events. -/
theorem sum_calls (events : List Event) :
    (Operation.all.map fun op =>
      ((events.foldl TotalsTable.add TotalsTable.empty).row op).calls).sum = events.length := by
  have table : (empty.addAll events).table = events.foldl TotalsTable.add TotalsTable.empty :=
    table_addAll empty events
  have number : (empty.addAll events).events = events.length :=
    (events_addAll empty events).trans (Nat.zero_add _)
  obtain ⟨calls, -⟩ := summed_empty.addAll events
  rw [← table, ← number]
  exact calls.symm

/-- Totals that are taken over go to their rows, and all of them to the overall totals. -/
theorem foldl_takeOver (sums : TotalsTable) (ops : List Operation) (t : Tally) :
    (ops.map fun op => (op, sums.row op)).foldl (fun t (op, totals) => t.takeOver op totals) t =
      { t with
        table := ops.foldl (fun table op => table.setRow op (sums.row op)) t.table
        events := t.events + (ops.map fun op => (sums.row op).calls).sum
        bytes := t.bytes + (ops.map fun op => (sums.row op).bytes).sum } := by
  induction ops generalizing t with
  | nil => rfl
  | cons op rest ih =>
    rw [List.map_cons, List.foldl_cons, ih]
    simp only [takeOver, List.map_cons, List.sum_cons, List.foldl_cons, Nat.add_assoc]

/-- The totals of a tally that was made of a table are those of the table. -/
theorem ofTotals_eq (table : TotalsTable) :
    ofTotals table =
      ⟨table, (Operation.all.map fun op => (table.row op).calls).sum,
        (Operation.all.map fun op => (table.row op).bytes).sum, 0⟩ := by
  rw [ofTotals, OperationTable.zip_toList, OperationTable.rows, foldl_takeOver,
    OperationTable.foldl_setRow_all]
  simp only [empty, Nat.zero_add]

/-- A tally without malformed records can be had back from its rows. -/
theorem ofTotals_table {t : Tally} (summed : t.Summed) (clean : t.malformed = 0) :
    ofTotals t.table = t := by
  obtain ⟨table, events, bytes, malformed⟩ := t
  obtain ⟨calls, sizes⟩ := summed
  simp only [totals] at calls sizes clean
  rw [ofTotals_eq, calls, sizes, clean]

/-- Encoded events are counted in their order, and none is malformed. -/
theorem ingestAll_encode (t : Tally) (events : List Event) :
    t.ingestAll (events.map Event.encode) = (events.map .ok, t.addAll events) := by
  induction events generalizing t with
  | nil => rfl
  | cons e rest ih =>
    simp [ingestAll, ingest, ih, addAll]

theorem mem_active {t : Tally} {row : Operation × Totals} :
    row ∈ t.active ↔ 0 < (t.totals row.1).calls ∧ row = (row.1, t.totals row.1) := by
  constructor
  · intro inside
    obtain ⟨listed, called⟩ := List.mem_filter.mp inside
    obtain ⟨op, -, rfl⟩ := List.mem_map.mp listed
    exact ⟨of_decide_eq_true called, rfl⟩
  · rintro ⟨called, own⟩
    rw [own]
    refine List.mem_filter.mpr ⟨List.mem_map.mpr ⟨row.1, Operation.mem_all row.1, rfl⟩, ?_⟩
    exact decide_eq_true called

end Tally

end SyscallMeter
