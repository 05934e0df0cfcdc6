import SyscallMeter.Metrics
import SyscallMeter.Proofs.Number.Integers
import SyscallMeter.Proofs.Splitting
import SyscallMeter.Proofs.Tally

/-! The samples in the text of the metrics: one for the run, and for each operation that was called
one of its calls and one of its bytes. -/
namespace SyscallMeter

namespace Metrics

/-- A line that is neither empty nor a comment. -/
def isSample (line : List Char) : Bool := ! line.isEmpty && line.head? != some '#'

/-- The samples of a text in the format of metrics. -/
def sampleLines (text : String) : List String :=
  ((Text.splitOn '\n' text.toList).filter isSample).map String.ofList

/-- A sample that belongs to an operation. -/
def sampleOf (family operation : String) (value : Nat) : String :=
  family ++ "\x7bkind=\"" ++ operation ++ "\"\x7d " ++ toString value

end Metrics

namespace MetricFamily

/-- The line of a sample without its end. -/
def shown (family : String) (sample : Option Operation × Nat) : List Char :=
  let series := match sample.1 with
    | some op => family ++ "\x7bkind=\"" ++ op.name ++ "\"\x7d "
    | none => family ++ " "
  series.toList ++ (Magnitude.ofNat (inWord sample.2)).inMetrics

/-- The lines of a family without their ends. -/
def lines (f : MetricFamily) : List (List Char) :=
  if f.samples.isEmpty then []
  else ("# HELP " ++ f.name ++ " " ++ f.help).toList ::
    ("# TYPE " ++ f.name ++ " counter").toList :: f.samples.map (shown f.name)

theorem toList_sampleLine (family : String) (sample : Option Operation × Nat) :
    (sampleLine family sample).toList = shown family sample ++ ['\n'] := by
  obtain ⟨op | op, value⟩ := sample <;> simp [sampleLine, shown]

theorem toList_text (f : MetricFamily) :
    f.text.toList = f.lines.flatMap fun line => line ++ ['\n'] := by
  have plain (s : String) : toString s = s := rfl
  unfold text lines
  split
  · rfl
  · simp [plain, List.flatMap_map, toList_sampleLine]

/-- A family whose name can stand in a line. -/
structure Printable (f : MetricFamily) : Prop where
  name : '\n' ∉ f.name.toList
  help : '\n' ∉ f.help.toList
  start : ∃ c rest, f.name.toList = c :: rest ∧ c ≠ '#'

theorem newline_not_mem_inMetrics (x : Magnitude) : '\n' ∉ x.inMetrics := by
  intro inside
  obtain digit | zero := List.mem_append.mp inside
  · have isDigit : '\n'.isDigit = true :=
      Nat.isDigit_of_mem_toDigits (b := 10) (by decide) (by decide) digit
    exact absurd isDigit (by decide)
  · exact absurd (List.eq_of_mem_replicate zero) (by decide)

theorem newline_not_mem_name (op : Operation) : '\n' ∉ op.name.toList := by
  cases op <;> decide

variable {f : MetricFamily}

theorem newline_not_mem_lines (h : f.Printable) : ∀ line ∈ f.lines, '\n' ∉ line := by
  unfold lines
  split
  · simp
  · refine List.forall_mem_cons.mpr ⟨?_, List.forall_mem_cons.mpr ⟨?_, ?_⟩⟩
    · simp [h.name, h.help]
    · simp [h.name]
    · intro line inside
      obtain ⟨⟨op | op, value⟩, -, rfl⟩ := List.mem_map.mp inside
      · simp [shown, h.name, newline_not_mem_inMetrics]
      · simp [shown, h.name, newline_not_mem_inMetrics, newline_not_mem_name]

/-- Of the lines of a family those of its samples are no comments. -/
theorem filter_isSample_lines (h : f.Printable) :
    f.lines.filter Metrics.isSample = f.samples.map (shown f.name) := by
  obtain ⟨c, rest, name, other⟩ := h.start
  have sample : ∀ line ∈ f.samples.map (shown f.name), Metrics.isSample line = true := by
    intro line inside
    obtain ⟨⟨op | op, value⟩, -, rfl⟩ := List.mem_map.mp inside
    · simp [shown, name, Metrics.isSample, other]
    · simp [shown, name, Metrics.isSample, other]
  unfold lines
  split
  · rename_i none
    simp [List.isEmpty_iff.mp none]
  · rw [List.filter_cons_of_neg, List.filter_cons_of_neg, List.filter_eq_self.mpr sample]
    · simp [Metrics.isSample]
    · simp [Metrics.isSample]

end MetricFamily

namespace Metrics

open MetricFamily

/-- The families of a run, in the order of their names. -/
def families (t : Tally) : List MetricFamily := [bytes t, calls t, runs]

theorem printable_of_mem {t : Tally} {f : MetricFamily} (inside : f ∈ families t) :
    f.Printable := by
  simp only [families, List.mem_cons, List.not_mem_nil, or_false] at inside
  obtain rfl | rfl | rfl := inside
  · exact ⟨by simp [bytes], by simp [bytes], by simp [bytes]⟩
  · exact ⟨by simp [calls], by simp [calls], by simp [calls]⟩
  · exact ⟨by simp [runs], by simp [runs], by simp [runs]⟩

/-- The samples of the text are those of the families. -/
theorem sampleLines_text (t : Tally) : sampleLines (text t) =
    ((families t).flatMap fun f => f.samples.map (shown f.name)).map String.ofList := by
  have written : (text t).toList =
      ((families t).flatMap lines).flatMap fun line => line ++ ['\n'] := by
    simp [text, families, toList_text]
  have clear : ∀ line ∈ (families t).flatMap lines, '\n' ∉ line := by
    intro line inside
    obtain ⟨f, family, inside⟩ := List.mem_flatMap.mp inside
    exact newline_not_mem_lines (printable_of_mem family) line inside
  have samples : ((families t).flatMap lines).filter isSample =
      (families t).flatMap fun f => f.samples.map (shown f.name) := by
    rw [List.filter_flatMap, List.flatMap_def, List.flatMap_def]
    refine congrArg List.flatten (List.map_congr_left fun f family => ?_)
    exact filter_isSample_lines (printable_of_mem family)
  have last : isSample [] = false := rfl
  rw [sampleLines, written, Text.splitOn_ended clear, List.filter_append, samples,
    List.filter_cons_of_neg (by simp [last]), List.filter_nil, List.append_nil]

/-- A total of at most 53 bits is shown exactly. -/
theorem shown_eq_sampleOf (family : String) (op : Operation) {n : Nat} (small : n < 2 ^ 53) :
    String.ofList (shown family (some op, n)) = sampleOf family op.name n := by
  apply String.toList_inj.mp
  have told : inWord n = n := inWord_of_lt (small.trans (by decide))
  simp [shown, sampleOf, told, Magnitude.inMetrics_ofNat small, digitsOf]

/-- The samples of the operations that were called, for one of their totals. -/
theorem shown_active (t : Tally) (family : String) (number : Totals → Nat)
    (small : ∀ op, number (t.totals op) < 2 ^ 53) :
    (((active t).map fun row => (some row.1, number row.2)).map (shown family)).map
        String.ofList =
      (active t).map fun row => sampleOf family row.1.name (number row.2) := by
  rw [List.map_map, List.map_map]
  refine List.map_congr_left fun row inside => shown_eq_sampleOf _ _ ?_
  have listed : row ∈ t.active := (List.mergeSort_perm ..).mem_iff.mp inside
  obtain ⟨-, own⟩ := Tally.mem_active.mp listed
  rw [own]
  exact small row.1

/-- If all totals have at most 53 bits, the samples are those of the run, and for each operation
that was called its calls and its bytes in decimal. -/
theorem sampleLines_perm {t : Tally}
    (small : ∀ op, (t.totals op).calls < 2 ^ 53 ∧ (t.totals op).bytes < 2 ^ 53) :
    (sampleLines (text t)).Perm ("iotap_runs 1" ::
      (t.active.map (fun row => sampleOf "iotap_io_calls" row.1.name row.2.calls) ++
        t.active.map fun row => sampleOf "iotap_io_bytes" row.1.name row.2.bytes)) := by
  have sorted : (active t).Perm t.active := List.mergeSort_perm ..
  have callSamples := shown_active t "iotap_io_calls" Totals.calls fun op => (small op).1
  have byteSamples := shown_active t "iotap_io_bytes" Totals.bytes fun op => (small op).2
  have runSample :
      (runs.samples.map (shown "iotap_runs")).map String.ofList = ["iotap_runs 1"] := by
    decide +kernel
  have samples : sampleLines (text t) =
      (active t).map (fun row => sampleOf "iotap_io_bytes" row.1.name row.2.bytes) ++
        (active t).map (fun row => sampleOf "iotap_io_calls" row.1.name row.2.calls) ++
          ["iotap_runs 1"] := by
    rw [sampleLines_text, ← byteSamples, ← callSamples, ← runSample, ← List.map_append,
      ← List.map_append]
    simp [families, bytes, calls, runs]
  rw [samples]
  refine (List.perm_append_singleton _ _).trans (List.Perm.cons _ ?_)
  exact List.perm_append_comm.trans ((sorted.map _).append (sorted.map _))

end Metrics

end SyscallMeter
