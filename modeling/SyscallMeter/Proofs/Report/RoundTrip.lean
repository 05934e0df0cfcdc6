import SyscallMeter.Proofs.Report.Duration
import SyscallMeter.Proofs.Report.Members

/-! A report that is written as JSON is read back: every field but the duration is as it was,
whatever texts and numbers the report has. -/
namespace SyscallMeter.Report
open Json

/-- A member of the schema is taken once. -/
theorem takes_member {key : String} {type : MemberType} (known : schema.lookup key = some type)
    {ms : Members} (first : ms.lookup key = none) {text : List Char} {v : MemberValue}
    (read : Reads (readMember type) text v) : Takes (member key ms) text ((key, v) :: ms) := by
  unfold member
  rw [known, first]
  exact read.takes fun v => (key, v) :: ms

theorem reads_word (n : UInt32) : Reads (readMember .word) (digitsOf n.toNat) (.number n.toNat) :=
  (reads_expectNatural n.toNat_lt (by decide)).map MemberValue.number

theorem reads_count {n : Nat} (fits : n < UInt64.size) :
    Reads (readMember .count) (digitsOf n) (.number n) :=
  (reads_expectNatural fits (Nat.le_refl _)).map MemberValue.number

/-- A sum that fits 64 bits is told as it is. -/
theorem reads_sum {n : Nat} (fits : n < UInt64.size) :
    Reads (readMember .count) (digitsOf (inWord n)) (.number n) := by
  rw [inWord_of_lt fits]
  exact reads_count fits

theorem reads_text (s : String) : Reads (readMember .text) (quote s) (.text s) :=
  (reads_expectString s).map MemberValue.text

theorem reads_real {x y : Binary64} (read : Reads expectReal x.inReport.toList y) :
    Reads (readMember .real) x.inReport.toList (.real y) := read.map MemberValue.real

theorem reads_texts (m : KeyMap String) (level : Nat) :
    Reads (readMember .texts)
      (Written.object (m.entries.map fun e => (e.1, Written.string e.2)) level) (.texts m) := by
  rw [object_eq, List.map_map]
  exact (reads_readMap (fun e _ => reads_expectString e.2) level).map MemberValue.texts

theorem reads_rows {rows : List Row} (fit : ∀ row ∈ rows, row.Fits) (level : Nat) :
    Reads (readMember .rows) (Written.array (rows.map Row.written) level) (.rows rows) := by
  have each : ∀ item ∈ rows.map fun row => (row.written (level + 1), row),
      Reads readRow item.1 item.2 ∧ Opens item.1 := by
    intro item h
    obtain ⟨row, mem, rfl⟩ := List.mem_map.mp h
    exact ⟨reads_readRow (fit row mem) _, row.opens_written _⟩
  have read := (reads_expectArray each level).map MemberValue.rows
  simp only [List.map_map, Function.comp_def, List.map_id_fun'] at read
  rw [array_eq, List.map_map]
  exact read

theorem reads_counts {m : KeyMap Nat} (fit : ∀ e ∈ m.entries, e.2 < UInt64.size) (level : Nat) :
    Reads (readMember .counts)
      (Written.object (m.entries.map fun e => (e.1, Written.number e.2)) level)
      (.counts (some m)) := by
  intro blanks rest hb hr
  have text : Written.object (m.entries.map fun e => (e.1, Written.number e.2)) level =
      objectText level (m.entries.map fun e => (e.1, digitsOf e.2)) := by
    rw [object_eq, List.map_map]
    rfl
  have read : Reads (readMap (expectNatural UInt64.size)) _ m :=
    reads_readMap (fun e h => reads_expectNatural (fit e h) (Nat.le_refl _)) level
  rw [text, readMember, run_bind_of_ok (run_peek_objectText hb level _ rest), if_neg (by decide),
    run_bind_of_ok (read.run hr)]
  rfl

/-! ### The whole report -/

/-- The totals of a report fit 64 bits. -/
structure Fits (r : Report) : Prop where
  events : r.totalEvents < UInt64.size
  bytes : r.totalBytes < UInt64.size
  malformed : r.malformed < UInt64.size
  rows : ∀ row ∈ r.rows, row.Fits
  counts : ∀ m, r.probeCounts = some m → ∀ e ∈ m.entries, e.2 < UInt64.size

/-- The values of the members that every report has, the last one first. -/
def values (r : Report) (x : Binary64) : Members := [
  ("kinds", .rows r.rows),
  ("malformed_records", .number r.malformed),
  ("total_bytes", .number r.totalBytes),
  ("total_events", .number r.totalEvents),
  ("labels", .texts r.labels),
  ("exit_reason", .text r.exitReason),
  ("duration_secs", .real x),
  ("ring_bytes", .number r.ringBytes.toNat),
  ("batch_policy", .text r.batchPolicy),
  ("fault_policy", .text r.faultPolicy),
  ("transport", .text r.transport),
  ("pid", .number r.pid.toNat)]

def countsValues (r : Report) : Members :=
  match r.probeCounts with
  | none => []
  | some m => [("probe_stats", .counts (some m))]

theorem report?_values (r : Report) (x : Binary64) :
    Members.report? (r.countsValues ++ r.values x) = some { r with duration := x } := by
  have found : Members.report? (r.countsValues ++ r.values x) = some { r with
      pid := UInt32.ofNat r.pid.toNat
      ringBytes := UInt32.ofNat r.ringBytes.toNat
      duration := x } := by
    unfold countsValues
    cases r with
    | mk _ _ _ _ _ _ _ _ _ _ _ _ counts => cases counts <;> rfl
  rw [found, UInt32.ofNat_toNat, UInt32.ofNat_toNat]

/-- The members that every report has are accepted one after the other. -/
theorem accepts_members {r : Report} (fits : r.Fits) {x : Binary64}
    (duration : Reads expectReal r.duration.inReport.toList x) :
    Accepts member [] (r.members.map fun m => (m.1, m.2 1)) (r.values x) :=
  .cons (takes_member rfl rfl (reads_word r.pid)) <|
  .cons (takes_member rfl rfl (reads_text r.transport)) <|
  .cons (takes_member rfl rfl (reads_text r.faultPolicy)) <|
  .cons (takes_member rfl rfl (reads_text r.batchPolicy)) <|
  .cons (takes_member rfl rfl (reads_word r.ringBytes)) <|
  .cons (takes_member rfl rfl (reads_real duration)) <|
  .cons (takes_member rfl rfl (reads_text r.exitReason)) <|
  .cons (takes_member rfl rfl (reads_texts r.labels 1)) <|
  .cons (takes_member rfl rfl (reads_sum fits.events)) <|
  .cons (takes_member rfl rfl (reads_sum fits.bytes)) <|
  .cons (takes_member rfl rfl (reads_sum fits.malformed)) <|
  .cons (takes_member rfl rfl (reads_rows fits.rows 1)) (.nil _)

theorem accepts_countsMember {r : Report} (fits : r.Fits) (x : Binary64) :
    Accepts member (r.values x) (r.countsMember.map fun m => (m.1, m.2 1))
      (r.countsValues ++ r.values x) := by
  unfold countsMember countsValues
  cases h : r.probeCounts with
  | none => exact .nil _
  | some m => exact .cons (takes_member rfl rfl (reads_counts (fits.counts m h) 1)) (.nil _)

theorem reads_read {r : Report} (fits : r.Fits) {x : Binary64}
    (duration : Reads expectReal r.duration.inReport.toList x) :
    Reads read (r.written 0) { r with duration := x } := by
  have accepted := (accepts_members fits duration).append (accepts_countsMember fits x)
  rw [← List.map_append] at accepted
  have read : Reads readMembers (r.written 0) (r.countsValues ++ r.values x) := by
    intro blanks rest hb hr
    rw [written, object_eq, readMembers, run_bind_of_ok (run_peek_objectText hb 0 _ rest),
      if_neg (by decide)]
    exact (reads_expectObject accepted 0).run hr
  refine read.bind fun rest => ?_
  rw [report?_values]
  rfl

/-- A report file is always read, and as the report that was written. Only the duration goes
through a decimal that need not give it back. -/
theorem ofJson?_toJson {r : Report} (fits : r.Fits) (finite : r.duration.magnitude.Finite) :
    ∃ x, ofJson? r.toJson = .ok { r with duration := x } := by
  obtain ⟨x, duration⟩ := reads_inReport finite
  have line : Delimited ['\n'] := ⟨'\n', [], rfl, .inr rfl⟩
  have all : read.run r.toJson.toList = .ok ({ r with duration := x }, ['\n']) := by
    rw [toJson, String.toList_ofList]
    exact (reads_read fits duration).run line
  refine ⟨x, ?_⟩
  rw [ofJson?, readAll, all]
  rfl

/-- A report whose texts and numbers are at their limits. -/
def awkward : Report where
  pid := 4294967295
  transport := ""
  faultPolicy := "\"\\/\n\u0000\u001f\u007f"
  batchPolicy := "\u2028😀"
  ringBytes := 0
  duration := ⟨false, ⟨2 ^ 53 - 1, 971⟩⟩
  exitReason := "[\x7b\",\": null"
  labels := KeyMap.ofList [("b\t", "\u001b"), ("", "\\u0041"), ("\"", "é")]
  totalEvents := 18446744073709551615
  totalBytes := 18446744073709551615
  malformed := 0
  rows := [⟨"write", 65535, ⟨18446744073709551615, 0⟩⟩, ⟨"write", 0, ⟨0, 1⟩⟩]
  probeCounts := some (KeyMap.ofList [("lost", 18446744073709551615)])

theorem ofJson?_toJson_awkward : awkward.Fits ∧ awkward.duration.magnitude.Finite ∧
    ∃ x, ofJson? awkward.toJson = .ok { awkward with duration := x } := by
  have fits : awkward.Fits := {
    events := by decide
    bytes := by decide
    malformed := by decide
    rows := by
      intro row h
      obtain rfl | h := List.mem_cons.mp h
      · exact ⟨by decide, by decide⟩
      · rw [List.mem_singleton.mp h]
        exact ⟨by decide, by decide⟩
    counts := by
      rintro _ ⟨⟩ e h
      rw [List.mem_singleton.mp h]
      decide }
  have finite : awkward.duration.magnitude.Finite := ⟨by decide, by decide⟩
  exact ⟨fits, finite, ofJson?_toJson fits finite⟩

end SyscallMeter.Report
