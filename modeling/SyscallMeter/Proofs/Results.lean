import SyscallMeter.Proofs.Metrics
import SyscallMeter.Report

/-! The two results of a run, its report and its metrics, are taken from one tally and agree. An
operation without calls is left out of both, and as it has moved no bytes either, the rows account
for all that was counted. -/
namespace SyscallMeter

/-- What is left out of a sum may be left out if it is zero. -/
theorem sum_map_filter {α : Type} {p : α → Bool} {f : α → Nat} {l : List α}
    (zero : ∀ a ∈ l, p a = false → f a = 0) : ((l.filter p).map f).sum = (l.map f).sum := by
  induction l with
  | nil => rfl
  | cons a rest ih =>
    have others := ih fun a inside => zero a (List.mem_cons_of_mem _ inside)
    cases kept : p a with
    | true => simp [kept, others]
    | false => simp [kept, others, zero a List.mem_cons_self kept]

namespace Tally

/-- The tallies that counting leads to: from an empty one, or from totals that were summed
elsewhere, where an operation without calls has no bytes. -/
inductive Counted : Tally → Prop
  | empty : Counted empty
  | ofTotals (table : TotalsTable)
      (quiet : ∀ op, (table.row op).calls = 0 → (table.row op).bytes = 0) :
      Counted (ofTotals table)
  | ingest {t : Tally} (counted : Counted t) (record : Octets) : Counted (t.ingest record).2
  | add {t : Tally} (counted : Counted t) (e : Event) : Counted (t.add e)

/-- An operation that was not called has moved nothing. -/
def Quiet (t : Tally) : Prop := ∀ op, (t.totals op).calls = 0 → (t.totals op).bytes = 0

theorem summed_ofTotals (table : TotalsTable) : (ofTotals table).Summed := by
  rw [ofTotals_eq]
  exact ⟨rfl, rfl⟩

theorem Quiet.add {t : Tally} (h : t.Quiet) (e : Event) : (t.add e).Quiet := by
  intro op
  rw [totals_add]
  split
  · simp [Totals.add]
  · exact h op

/-- Counting a record adds an event or leaves all totals alone. -/
theorem ingest_cases (t : Tally) (record : Octets) :
    (∃ e, (t.ingest record).2 = t.add e) ∨
      (t.ingest record).2 = { t with malformed := t.malformed + 1 } := by
  unfold ingest
  cases Event.decode record with
  | ok e => exact .inl ⟨e, rfl⟩
  | error reason => exact .inr rfl

namespace Counted

variable {t : Tally}

theorem summed (counted : t.Counted) : t.Summed := by
  induction counted with
  | empty => exact summed_empty
  | ofTotals table quiet => exact summed_ofTotals table
  | @ingest t counted record ih =>
    obtain ⟨e, event⟩ | malformed := t.ingest_cases record
    · rw [event]
      exact ih.add e
    · rw [malformed]
      exact ih
  | add counted e ih => exact ih.add e

theorem quiet (counted : t.Counted) : t.Quiet := by
  induction counted with
  | empty =>
    intro op _
    rw [totals_empty]
    rfl
  | ofTotals table quiet =>
    rw [ofTotals_eq]
    exact quiet
  | @ingest t counted record ih =>
    obtain ⟨e, event⟩ | malformed := t.ingest_cases record
    · rw [event]
      exact ih.add e
    · rw [malformed]
      exact ih
  | add counted e ih => exact ih.add e

end Counted

theorem active_sorted (t : Tally) : t.active.Pairwise fun a b => a.1.tag < b.1.tag :=
  (Operation.tags_sorted.map (fun op => (op, t.table.row op)) fun _ _ less => less).filter _

/-- What the rows left out would add is nothing. -/
theorem sum_active (t : Tally) (number : Totals → Nat)
    (zero : ∀ op, (t.totals op).calls = 0 → number (t.totals op) = 0) :
    (t.active.map fun row => number row.2).sum =
      (Operation.all.map fun op => number (t.totals op)).sum := by
  have all : (t.table.rows.map fun row => number row.2) =
      Operation.all.map fun op => number (t.totals op) := List.map_map
  rw [active, sum_map_filter, all]
  intro row listed unseen
  obtain ⟨op, -, rfl⟩ := List.mem_map.mp listed
  have none : ¬ 0 < (t.totals op).calls := of_decide_eq_false unseen
  exact zero op (Nat.eq_zero_of_not_pos none)

end Tally

/-- The report of a tally has one row for each operation that was called, in the order of the tags,
and they add up to the overall totals. The samples of its metrics are the numbers of these rows, as
long as none of them needs more than 53 bits. -/
theorem results_agree {t : Tally} (counted : t.Counted) (s : Settings)
    (counts : Option ProbeCounts) (elapsed : Elapsed) (reason : ExitReason) :
    let report := Report.build s t counts elapsed reason
    (∀ row, row ∈ report.rows ↔
      ∃ op, 0 < (t.totals op).calls ∧ row = ⟨op.name, op.tag, t.totals op⟩) ∧
    report.rows.Pairwise (fun a b => a.tag < b.tag) ∧
    (report.rows.map (·.totals.calls)).sum = report.totalEvents ∧
    (report.rows.map (·.totals.bytes)).sum = report.totalBytes ∧
    ((∀ op, (t.totals op).calls < 2 ^ 53 ∧ (t.totals op).bytes < 2 ^ 53) →
      (Metrics.sampleLines (Metrics.text t)).Perm ("iotap_runs 1" ::
        (report.rows.map (fun row =>
          Metrics.sampleOf "iotap_io_calls" row.name row.totals.calls) ++
        report.rows.map fun row =>
          Metrics.sampleOf "iotap_io_bytes" row.name row.totals.bytes))) := by
  intro report
  obtain ⟨calls, bytes⟩ := counted.summed
  refine ⟨fun row => ⟨fun inside => ?_, ?_⟩, ?_, ?_, ?_, fun small => ?_⟩
  · obtain ⟨pair, active, rfl⟩ := List.mem_map.mp inside
    obtain ⟨called, own⟩ := Tally.mem_active.mp active
    exact ⟨pair.1, called, by rw [own]⟩
  · rintro ⟨op, called, rfl⟩
    exact List.mem_map.mpr ⟨(op, t.totals op), Tally.mem_active.mpr ⟨called, rfl⟩, rfl⟩
  · exact t.active_sorted.map _ fun _ _ less => less
  · have rows := t.sum_active Totals.calls fun _ none => none
    simpa [report, Report.build, Function.comp_def] using rows.trans calls.symm
  · have rows := t.sum_active Totals.bytes counted.quiet
    simpa [report, Report.build, Function.comp_def] using rows.trans bytes.symm
  · simpa [report, Report.build, Function.comp_def] using Metrics.sampleLines_perm small

/-- Three calls after a record that is no event: two operations are in both results, in the report
in the order of their tags. -/
theorem results_agree_on_three_calls :
    let t := (((Tally.empty.ingest [1, 2, 3]).2.add ⟨.sendmsg, 60⟩).add ⟨.write, 100⟩).add
      ⟨.write, 28⟩
    let s : Settings :=
      { pid := 42, object := "probes.o", mode := .stream, policy := ⟨.discard, .skipEntry⟩,
        ringBytes := 4096, logLevel := .off, verifierLog := false, duration := none, labels := [] }
    let report := Report.build s t none ⟨1, 0⟩ .interrupted
    t.Counted ∧
      (report.rows.map (·.totals.calls)).sum = 3 ∧
      (report.rows.map (·.totals.bytes)).sum = 188 ∧
      (Metrics.sampleLines (Metrics.text t)).Perm
        ["iotap_runs 1", "iotap_io_calls\x7bkind=\"WRITE\"\x7d 2",
          "iotap_io_calls\x7bkind=\"SENDMSG\"\x7d 1", "iotap_io_bytes\x7bkind=\"WRITE\"\x7d 128",
          "iotap_io_bytes\x7bkind=\"SENDMSG\"\x7d 60"] := by
  intro t s report
  have counted : t.Counted := (((Tally.Counted.empty.ingest [1, 2, 3]).add _).add _).add _
  have small : ∀ op, (t.totals op).calls < 2 ^ 53 ∧ (t.totals op).bytes < 2 ^ 53 := by
    intro op
    cases op <;> decide +kernel
  obtain ⟨-, -, calls, bytes, samples⟩ := results_agree counted s none ⟨1, 0⟩ .interrupted
  have written : ("iotap_runs 1" :: (report.rows.map (fun row =>
        Metrics.sampleOf "iotap_io_calls" row.name row.totals.calls) ++
      report.rows.map fun row => Metrics.sampleOf "iotap_io_bytes" row.name row.totals.bytes)) =
      ["iotap_runs 1", "iotap_io_calls\x7bkind=\"WRITE\"\x7d 2",
        "iotap_io_calls\x7bkind=\"SENDMSG\"\x7d 1", "iotap_io_bytes\x7bkind=\"WRITE\"\x7d 128",
        "iotap_io_bytes\x7bkind=\"SENDMSG\"\x7d 60"] := by
    decide +kernel
  exact ⟨counted, calls, bytes, written ▸ samples small⟩

end SyscallMeter
