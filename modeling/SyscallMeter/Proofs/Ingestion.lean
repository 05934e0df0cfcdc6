import SyscallMeter.Proofs.Transports

/-! What a tally holds once arbitrary records were counted. A record that is no event raises the
number of malformed records and nothing else, so it is enough to look at the events among the
records, and at how many of the records are none. -/
namespace SyscallMeter

/-- The events among the records, in their order. -/
def Event.amongRecords (records : List Octets) : List Event :=
  records.filterMap fun record => (decode record).toOption

/-- A record that is no event. -/
def Event.isMalformed (record : Octets) : Bool := (decode record).toOption.isNone

namespace Event

theorem amongRecords_cons_ok {record : Octets} {e : Event} (decoded : decode record = .ok e)
    (rest : List Octets) : amongRecords (record :: rest) = e :: amongRecords rest := by
  simp [amongRecords, decoded, Except.toOption]

theorem amongRecords_cons_error {record : Octets} {reason : DecodeError}
    (refused : decode record = .error reason) (rest : List Octets) :
    amongRecords (record :: rest) = amongRecords rest := by
  simp [amongRecords, refused, Except.toOption]

/-- Each record is an event or malformed. -/
theorem length_amongRecords_add (records : List Octets) :
    (amongRecords records).length + records.countP isMalformed = records.length := by
  induction records with
  | nil => rfl
  | cons record rest ih =>
    cases decoded : decode record with
    | ok e =>
      have event : isMalformed record = false := by rw [isMalformed, decoded]; rfl
      rw [amongRecords_cons_ok decoded, List.countP_cons_of_neg (by simp [event]),
        List.length_cons, List.length_cons]
      omega
    | error reason =>
      have none : isMalformed record = true := by rw [isMalformed, decoded]; rfl
      rw [amongRecords_cons_error decoded, List.countP_cons_of_pos none, List.length_cons]
      omega

theorem amongRecords_perm {records records' : List Octets} (same : records.Perm records') :
    (amongRecords records).Perm (amongRecords records') := same.filterMap _

end Event

namespace Tally

/-- Tallies are equal if they show the same. -/
theorem ext_totals {t t' : Tally} (totals : ∀ op, t.totals op = t'.totals op)
    (events : t.events = t'.events) (bytes : t.bytes = t'.bytes)
    (malformed : t.malformed = t'.malformed) : t = t' := by
  have table : t.table = t'.table := OperationTable.ext_row totals
  cases t
  cases t'
  simp only at table events bytes malformed
  rw [table, events, bytes, malformed]

/-- A record that cannot be counted raises the number of malformed records and nothing else. -/
theorem ingest_of_error {t : Tally} {record : Octets} {e : RecordError}
    (refused : (t.ingest record).1 = .error e) :
    (t.ingest record).2 = { t with malformed := t.malformed + 1 } := by
  unfold ingest at refused ⊢
  cases decoded : Event.decode record with
  | ok event =>
    rw [decoded] at refused
    cases refused
  | error reason => rfl

/-- Counting events neither reads nor changes the number of malformed records. -/
theorem addAll_with_malformed (t : Tally) (n : Nat) (events : List Event) :
    addAll { t with malformed := n } events = { t.addAll events with malformed := n } := by
  induction events generalizing t with
  | nil => rfl
  | cons e rest ih => exact ih (t.add e)

/-- Records count as the events among them and as the number of those that are none. -/
theorem ingestAll_eq_addAll (t : Tally) (records : List Octets) :
    (t.ingestAll records).2 =
      { t.addAll (Event.amongRecords records) with
        malformed := t.malformed + records.countP Event.isMalformed } := by
  induction records generalizing t with
  | nil => rfl
  | cons record rest ih =>
    have later : (t.ingestAll (record :: rest)).2 = ((t.ingest record).2.ingestAll rest).2 := rfl
    rw [later, ih]
    cases decoded : Event.decode record with
    | ok e =>
      have event : Event.isMalformed record = false := by rw [Event.isMalformed, decoded]; rfl
      have counted : (t.ingest record).2 = t.add e := by rw [ingest, decoded]
      rw [counted, Event.amongRecords_cons_ok decoded, List.countP_cons_of_neg (by simp [event])]
      rfl
    | error reason =>
      have none : Event.isMalformed record = true := by rw [Event.isMalformed, decoded]; rfl
      have counted : (t.ingest record).2 = { t with malformed := t.malformed + 1 } := by
        rw [ingest, decoded]
      have number : t.malformed + 1 + rest.countP Event.isMalformed =
          t.malformed + (record :: rest).countP Event.isMalformed := by
        rw [List.countP_cons_of_pos none]
        omega
      rw [counted, Event.amongRecords_cons_error decoded, addAll_with_malformed, number]

/-- The order of the records makes no difference to what is counted. -/
theorem ingestAll_perm (t : Tally) {records records' : List Octets}
    (same : records.Perm records') : (t.ingestAll records).2 = (t.ingestAll records').2 := by
  have events := Event.amongRecords_perm same
  have malformed := same.countP_eq Event.isMalformed
  rw [ingestAll_eq_addAll, ingestAll_eq_addAll, malformed]
  apply ext_totals
  · intro op
    have rows := totals_addAll t (Event.amongRecords records) op
    rw [Totals.ofEvents_perm events, ← totals_addAll] at rows
    exact rows
  · change (t.addAll _).events = (t.addAll _).events
    rw [events_addAll, events_addAll, events.length_eq]
  · change (t.addAll _).bytes = (t.addAll _).bytes
    rw [bytes_addAll, bytes_addAll, (events.map (·.length.toNat)).sum_nat]
  · rfl

/-- What a new tally shows once records were counted, whatever they are: the number of the events
among them and the sum of their lengths, overall and in the row of each operation, and the number
of the records that are none. -/
theorem ingestion_invariant (records : List Octets) :
    let t := (empty.ingestAll records).2
    let events := Event.amongRecords records
    (t.events = events.length ∧
        t.events = (Operation.all.map fun op => (t.totals op).calls).sum) ∧
      (t.bytes = (events.map (·.length.toNat)).sum ∧
        t.bytes = (Operation.all.map fun op => (t.totals op).bytes).sum) ∧
      (t.malformed = records.countP Event.isMalformed ∧
        t.events + t.malformed = records.length) ∧
      (∀ op, t.totals op = Totals.ofEvents op events) ∧
      (∀ (u : Tally) (record : Octets) (e : RecordError), (u.ingest record).1 = .error e →
        (u.ingest record).2 = { u with malformed := u.malformed + 1 }) ∧
      ∀ records', records'.Perm records → (empty.ingestAll records').2 = t := by
  intro t events
  have shown : t = { empty.addAll events with malformed := records.countP Event.isMalformed } := by
    have counted := ingestAll_eq_addAll empty records
    rwa [show empty.malformed = 0 from rfl, Nat.zero_add] at counted
  have number : t.events = events.length := by
    rw [shown]
    exact (events_addAll empty events).trans (Nat.zero_add _)
  have size : t.bytes = (events.map (·.length.toNat)).sum := by
    rw [shown]
    exact (bytes_addAll empty events).trans (Nat.zero_add _)
  have malformed : t.malformed = records.countP Event.isMalformed := by rw [shown]
  have summed : t.Summed := by
    rw [shown]
    exact summed_empty.addAll events
  refine ⟨⟨number, summed.1⟩, ⟨size, summed.2⟩, ⟨malformed, ?_⟩, ?_, ?_, ?_⟩
  · rw [number, malformed]
    exact Event.length_amongRecords_add records
  · intro op
    rw [shown]
    exact totals_addAll_empty events op
  · intro u record e refused
    exact ingest_of_error refused
  · intro records' same
    exact ingestAll_perm empty same

end Tally

end SyscallMeter
