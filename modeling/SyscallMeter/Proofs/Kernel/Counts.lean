import Mathlib.Algebra.GroupWithZero.Nat
import SyscallMeter.Kernel.Maps
import SyscallMeter.ProbeCounts

/-! The counts of outcomes that every processor keeps for itself. What a probe counts raises the sum
over the processors by one, on whatever processor it runs, and the sum is read exactly as long as
it fits a 64-bit number. -/
namespace SyscallMeter

theorem sum_map_modify {α : Type} (l : List α) (k : Nat) (change : α → α) (weight : α → Nat)
    (more : Nat) (inside : k < l.length) (raised : ∀ a, weight (change a) = weight a + more) :
    ((l.modify k change).map weight).sum = (l.map weight).sum + more := by
  induction l generalizing k with
  | nil => exact absurd inside (Nat.not_lt_zero k)
  | cons a rest ih =>
    cases k with
    | zero =>
      simp only [List.modify_zero_cons, List.map_cons, List.sum_cons, raised]
      omega
    | succ k =>
      simp only [List.modify_succ_cons, List.map_cons, List.sum_cons,
        ih k (Nat.lt_of_succ_lt_succ inside)]
      omega

theorem ProbeStat.index_injective {stat stat' : ProbeStat} (same : stat.index = stat'.index) :
    stat = stat' := by
  cases stat <;> cases stat' <;> first | rfl | exact absurd same (by decide)

namespace ProbeCounts

/-- The sum over processors stops only at the largest 64-bit number. -/
theorem sumProcessors_eq (counts : List Nat) :
    sumProcessors counts = min counts.sum (UInt64.size - 1) := by
  have from_any (total : Nat) (small : total ≤ UInt64.size - 1) :
      counts.foldl (fun total n => min (total + n) (UInt64.size - 1)) total =
        min (total + counts.sum) (UInt64.size - 1) := by
    induction counts generalizing total with
    | nil => exact (Nat.min_eq_left small).symm
    | cons n rest ih =>
      rw [List.foldl_cons, ih _ (Nat.min_le_right _ _), List.sum_cons]
      omega
  rw [sumProcessors, from_any 0 (Nat.zero_le _), Nat.zero_add]

theorem get_sumOver (processors : List (Vector Nat ProbeStat.number)) (stat : ProbeStat) :
    (sumOver processors).get stat =
      sumProcessors (processors.map fun counts => counts.get stat.index) :=
  Vector.getElem_ofFn stat.index.isLt

end ProbeCounts

/-- By how much an outcome raises a count. -/
def Outcome.raises (o : Outcome) (stat : ProbeStat) : Nat :=
  match o.stat? with
  | none => 0
  | some own => (if .admitted = stat then 1 else 0) + if own = stat then 1 else 0

namespace Kernel.Maps

variable {m : Maps} {processor : Nat} {stat : ProbeStat}

@[simp] theorem bump_events : (m.bump processor stat).events = m.events := by
  unfold bump
  split <;> rfl

@[simp] theorem bump_totals : (m.bump processor stat).totals = m.totals := by
  unfold bump
  split <;> rfl

@[simp] theorem bump_totalSlots : (m.bump processor stat).totalSlots = m.totalSlots := by
  unfold bump
  split <;> rfl

@[simp] theorem bump_statSlots : (m.bump processor stat).statSlots = m.statSlots := by
  unfold bump
  split <;> rfl

@[simp] theorem length_stats_bump : (m.bump processor stat).stats.length = m.stats.length := by
  unfold bump
  split
  · exact List.length_modify _ _ _
  · rfl

/-- A count goes up by one in the sum over the processors, and the others stay. -/
theorem sum_statOf_bump (m : Maps) (processor : Nat) (stat stat' : ProbeStat)
    (some_processor : 0 < m.stats.length) (slot : m.hasStat stat) :
    ((m.bump processor stat).statOf stat').sum =
      (m.statOf stat').sum + if stat = stat' then 1 else 0 := by
  have inside : min processor (m.stats.length - 1) < m.stats.length := by omega
  simp only [bump, slot, if_true, statOf, modifyStats]
  refine sum_map_modify _ _ _ _ _ inside fun v => ?_
  have set : (v.set stat.index (v.get stat.index + 1) stat.index.isLt).get stat'.index =
      if stat.index.val = stat'.index.val then v.get stat.index + 1 else v.get stat'.index :=
    Vector.getElem_set stat.index.isLt stat'.index.isLt
  by_cases same : stat = stat'
  · obtain rfl := same
    simpa using set
  · have apart : stat.index.val ≠ stat'.index.val :=
      fun h => same (ProbeStat.index_injective (Fin.ext h))
    rw [set, if_neg apart, if_neg same, Nat.add_zero]

/-- The counts go up as an outcome tells. -/
def counted (m : Maps) (processor : Nat) (o : Outcome) : Maps :=
  match o.stat? with
  | none => m
  | some stat => (m.bump processor .admitted).bump processor stat

theorem counted_of_stat? {o : Outcome} {stat : ProbeStat} (counts : o.stat? = some stat)
    (m : Maps) (processor : Nat) :
    m.counted processor o = (m.bump processor .admitted).bump processor stat := by
  simp [counted, counts]

@[simp] theorem counted_slots (m : Maps) (processor : Nat) (o : Outcome) :
    (m.counted processor o).stats.length = m.stats.length ∧
      (m.counted processor o).statSlots = m.statSlots ∧
      (m.counted processor o).totalSlots = m.totalSlots := by
  unfold counted
  split <;> simp

@[simp] theorem counted_totals (m : Maps) (processor : Nat) (o : Outcome) :
    (m.counted processor o).totals = m.totals := by
  unfold counted
  split <;> simp

@[simp] theorem counted_events (m : Maps) (processor : Nat) (o : Outcome) :
    (m.counted processor o).events = m.events := by
  unfold counted
  split <;> simp

/-- The sums over the processors go up by what the outcome raises. -/
theorem sum_statOf_counted (m : Maps) (processor : Nat) (o : Outcome) (stat : ProbeStat)
    (some_processor : 0 < m.stats.length) (slots : m.statSlots = ProbeStat.number) :
    ((m.counted processor o).statOf stat).sum = (m.statOf stat).sum + o.raises stat := by
  have slot (own : ProbeStat) (m : Maps) (slots : m.statSlots = ProbeStat.number) :
      m.hasStat own := by
    simp only [hasStat, slots, decide_eq_true_eq, own.index.isLt]
  unfold counted Outcome.raises
  split
  · rfl
  · rename_i own _
    rw [sum_statOf_bump _ _ _ _ (by simpa using some_processor) (slot own _ (by simpa using slots)),
      sum_statOf_bump _ _ _ _ some_processor (slot _ m slots), Nat.add_assoc]

end Kernel.Maps

end SyscallMeter
