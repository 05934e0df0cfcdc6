import SyscallMeter.Proofs.Json.Containers
import SyscallMeter.Proofs.Json.Numbers
import SyscallMeter.Report.Reader
import SyscallMeter.Report.Writer

/-! The members of a report, read back from what is written of them: maps, rows, and members of
every type. -/
namespace SyscallMeter

namespace KeyMap

variable {α : Type}

/-- A key behind all others is put last. -/
theorem entries_insert_last {m : KeyMap α} {key : String} (value : α)
    (last : ∀ e ∈ m.entries, e.1 < key) :
    (m.insert key value).entries = m.entries ++ [(key, value)] := by
  show insertEntry key value m.entries = _
  generalize m.entries = l at last
  induction l with
  | nil => rfl
  | cons e rest ih =>
    have below : e.1 < key := last e List.mem_cons_self
    have other : ¬ key < e.1 := fun above => String.lt_irrefl key (String.lt_trans above below)
    rw [insertEntry, if_neg other, if_pos below, ih fun e h => last e (List.mem_cons_of_mem _ h)]
    rfl

theorem ext {m m' : KeyMap α} (h : m.entries = m'.entries) : m = m' := by
  cases m
  cases m'
  cases h
  rfl

end KeyMap

namespace Report
open Json

variable {α : Type}

/-- A sorted map is read back entry by entry. -/
theorem accepts_entries {element : Reading α} {text : α → List Char} {m : KeyMap α}
    (each : ∀ e ∈ m.entries, Reads element (text e.2) e.2) (done : KeyMap α)
    (l : List (String × α)) (all : m.entries = done.entries ++ l) :
    Accepts (fun key (m : KeyMap α) => do
        colon
        return m.insert key (← element)) done (l.map fun e => (e.1, text e.2)) m := by
  induction l generalizing done with
  | nil =>
    obtain rfl : m = done := KeyMap.ext (by rw [all, List.append_nil])
    exact .nil m
  | cons e rest ih =>
    have sorted := m.sorted
    rw [all, List.pairwise_append] at sorted
    have last : ∀ e' ∈ done.entries, e'.1 < e.1 :=
      fun e' h => sorted.2.2 e' h e List.mem_cons_self
    have next : m.entries = (done.insert e.1 e.2).entries ++ rest := by
      rw [KeyMap.entries_insert_last e.2 last, all, List.append_assoc, List.singleton_append]
    have mem : e ∈ m.entries := all ▸ List.mem_append_right _ List.mem_cons_self
    exact .cons ((each e mem).takes (done.insert e.1)) (ih (done.insert e.1 e.2) next)

theorem reads_readMap {element : Reading α} {text : α → List Char} {m : KeyMap α}
    (each : ∀ e ∈ m.entries, Reads element (text e.2) e.2) (level : Nat) :
    Reads (readMap element) (objectText level (m.entries.map fun e => (e.1, text e.2))) m :=
  reads_expectObject (accepts_entries each KeyMap.empty m.entries rfl) level

/-! ### Rows -/

/-- A natural number is kept where any value may stand. -/
theorem reads_scalarOr {n : Nat} (fits : n < UInt64.size) (nested : Char → Reading Unit) :
    Reads (scalarOr nested) (digitsOf n) (some n) := by
  intro blanks rest hb hr
  obtain ⟨c, more, front⟩ := List.exists_cons_of_ne_nil (Digits.ofNat n).filled
  have digit : c.isDigit := (Digits.ofNat n).decimal c (front ▸ List.mem_cons_self)
  have number := run_number_digitsOf fits hr
  rw [show digitsOf n = c :: more from front, List.cons_append] at number ⊢
  have starts : startsNumber c := by simp [startsNumber, digit]
  have closed : ¬ (c = '[' ∨ c = '\x7b') := by rintro (rfl | rfl) <;> cases digit
  have plain : c ≠ '"' := by rintro rfl; cases digit
  unfold scalarOr
  rw [run_bind_of_ok (run_peek hb (isSpace_of_startsNumber starts) _)]
  dsimp only
  rw [if_neg closed, if_neg plain, if_pos starts, run_bind_of_ok number]
  rfl

theorem reads_value {n : Nat} (fits : n < UInt64.size) (depth : Nat) :
    Reads (value depth) (digitsOf n) (some n) := by
  cases depth <;> exact reads_scalarOr fits _

namespace PartialRow

theorem takes_name {r : PartialRow} (first : r.name = none) (name : String) :
    Takes (member "kind" r) (quote name) { r with name := some name } := by
  rw [member, if_pos rfl, first]
  exact (reads_expectString name).takes fun name => { r with name := some name }

theorem takes_tag {r : PartialRow} (first : r.tag = none) (tag : UInt16) :
    Takes (member "tag" r) (digitsOf tag.toNat) { r with tag := some tag.toNat } := by
  rw [member, if_neg (by decide), if_pos rfl, first]
  exact (reads_expectNatural tag.toNat_lt (by decide)).takes fun tag => { r with tag := some tag }

theorem takes_other {key : String} (name : key ≠ "kind") (tag : key ≠ "tag") {n : Nat}
    (fits : n < UInt64.size) (r : PartialRow) :
    Takes (member key r) (digitsOf n) { r with others := (key, some n) :: r.others } := by
  rw [member, if_neg name, if_neg tag]
  exact (reads_value fits rowDepth).takes fun n => { r with others := (key, n) :: r.others }

end PartialRow

/-- The members of a row with its totals in full. -/
def Row.memberTexts (r : Row) : List (String × List Char) := [
  ("kind", quote r.name),
  ("tag", digitsOf r.tag.toNat),
  ("calls", digitsOf r.totals.calls),
  ("bytes", digitsOf r.totals.bytes)]

theorem Row.finish?_eq_self (r : Row) : PartialRow.finish? ⟨some r.name, some r.tag.toNat,
    [("bytes", some r.totals.bytes), ("calls", some r.totals.calls)]⟩ = some r := by
  have calls : PartialRow.total? ⟨some r.name, some r.tag.toNat,
      [("bytes", some r.totals.bytes), ("calls", some r.totals.calls)]⟩ "calls" =
        some r.totals.calls := rfl
  have bytes : PartialRow.total? ⟨some r.name, some r.tag.toNat,
      [("bytes", some r.totals.bytes), ("calls", some r.totals.calls)]⟩ "bytes" =
        some r.totals.bytes := rfl
  simp only [PartialRow.finish?, calls, bytes]
  simp

/-- The totals of a row fit 64 bits. -/
def Row.Fits (r : Row) : Prop := r.totals.calls < UInt64.size ∧ r.totals.bytes < UInt64.size

theorem Row.written_eq {r : Row} (fits : r.Fits) (level : Nat) :
    r.written level = objectText level r.memberTexts := by
  rw [Row.written, Totals.told_of_lt fits.1 fits.2]
  exact object_eq _ level

theorem reads_readRow {r : Row} (fits : r.Fits) (level : Nat) :
    Reads readRow (r.written level) r := by
  have accepted : Accepts PartialRow.member ⟨none, none, []⟩ r.memberTexts
      ⟨some r.name, some r.tag.toNat,
        [("bytes", some r.totals.bytes), ("calls", some r.totals.calls)]⟩ :=
    .cons (PartialRow.takes_name rfl r.name) <|
    .cons (PartialRow.takes_tag rfl r.tag) <|
    .cons (PartialRow.takes_other (by decide) (by decide) fits.1 _) <|
    .cons (PartialRow.takes_other (by decide) (by decide) fits.2 _) (.nil _)
  rw [Row.written_eq fits]
  refine (reads_expectObject accepted level).bind fun rest => ?_
  rw [r.finish?_eq_self]
  rfl

theorem Row.opens_written (r : Row) (level : Nat) : Opens (r.written level) :=
  ⟨'\x7b', _, rfl, by decide, by decide⟩

end Report

end SyscallMeter
