import SyscallMeter.Proofs.Measure.Descriptors

/-! The length of a batch of messages over unbounded numbers. An entry fails, or it has an exact
sum; what is measured is the sum over the entries that do not fail, cut once at the largest 32-bit
number, unless the policy drops a batch for any entry that fails. -/
namespace SyscallMeter

namespace Reader

/-- Where the header of an entry says that its descriptors are, and how many there are. -/
def entryHeader? (r : Reader) (headers entry : Nat) : Option (Nat × Nat) :=
  r.wordsAt? (headers + 64 * entry + 16)

/-- The exact sum of an entry up to its first descriptor that cannot be read, unless the entry
fails. -/
def entrySum? (r : Reader) (onFault : FaultPolicy) (headers entry : Nat) : Option Nat := do
  let (array, count) ← r.entryHeader? headers entry
  let lengths := r.lengths array count
  if onFault = .discard ∧ none ∈ lengths then none else some (readableSum lengths)

/-- What makes an entry fail: its header cannot be read, or, if such entries are to be dropped, one
of the descriptors that are looked at cannot. -/
inductive EntryFails (r : Reader) (onFault : FaultPolicy) (headers entry : Nat) : Prop
  | header (unreadable : r.wordsAt? (headers + 64 * entry + 16) = none)
  | descriptor {array count index : Nat} (drop : onFault = .discard)
      (header : r.wordsAt? (headers + 64 * entry + 16) = some (array, count))
      (inside : index < min count 32) (unreadable : r.wordsAt? (array + 16 * index) = none)

variable {r : Reader} {onFault : FaultPolicy} {headers entry : Nat}

theorem entrySum?_eq_none : r.entrySum? onFault headers entry = none ↔
    r.EntryFails onFault headers entry := by
  unfold entrySum? entryHeader?
  cases header : r.wordsAt? (headers + 64 * entry + 16) with
  | none => exact ⟨fun _ => .header header, fun _ => rfl⟩
  | some words =>
    obtain ⟨array, count⟩ := words
    constructor
    · intro failed
      by_cases dropped : onFault = .discard ∧ none ∈ r.lengths array count
      · obtain ⟨index, inside, unreadable⟩ := none_mem_lengths.mp dropped.2
        exact .descriptor dropped.1 header inside unreadable
      · simp [dropped] at failed
    · intro failed
      cases failed with
      | header unreadable =>
        rw [header] at unreadable
        cases unreadable
      | descriptor drop header' inside unreadable =>
        rw [header] at header'
        cases header'
        have unknown : none ∈ r.lengths array count :=
          none_mem_lengths.mpr ⟨_, inside, unreadable⟩
        simp [drop, unknown]

end Reader

namespace Measure

/-- A message has the exact sum of its descriptors, cut once. -/
theorem answer_message (r : Reader) (start : UInt64) (onFault : FaultPolicy) :
    (message r start onFault).answer =
      match r.wordsAt? (start.toNat + 16) with
      | none => .error .fault
      | some (array, count) =>
        if onFault = .discard ∧ none ∈ r.lengths array count then .error .fault
        else .ok (Length.ofNat (readableSum (r.lengths array count))) := by
  have header := r.answer_messageHeader start
  simp only [message, Traced.answer_bind]
  cases answer : (r.messageHeader start).answer with
  | ok h =>
    rw [answer] at header
    cases words : r.wordsAt? (start.toNat + 16) with
    | none =>
      rw [words] at header
      cases header
    | some found =>
      rw [words] at header
      obtain rfl : (h.array.toNat, h.count.toNat) = found := Except.ok.inj header
      exact answer_vectored r h.array h.count onFault
  | error obstacle =>
    rw [answer] at header
    cases words : r.wordsAt? (start.toNat + 16) with
    | none =>
      rw [words] at header
      obtain rfl : obstacle = .fault := Except.error.inj header
      rfl
    | some found =>
      rw [words] at header
      cases header

/-- An entry contributes its exact sum, cut once. -/
theorem answer_entry (r : Reader) (headers : UInt64) (onFault : FaultPolicy) (entry : Nat) :
    (do message r (← Reader.reach (elementAddress? headers entry MessageHeader.stride))
          onFault : Traced UInt32).answer =
      match r.entrySum? onFault headers.toNat entry with
      | none => .error .fault
      | some sum => .ok (Length.ofNat sum) := by
  have place : entry * MessageHeader.stride = 64 * entry := Nat.mul_comm _ _
  simp only [Traced.answer_bind, Reader.answer_reach, elementAddress?, place, offsetAddress?]
  by_cases inside : headers.toNat + 64 * entry < UInt64.size
  · have start : (UInt64.ofNat (headers.toNat + 64 * entry)).toNat = headers.toNat + 64 * entry :=
      UInt64.toNat_ofNat_of_lt' inside
    simp only [if_pos inside, answer_message, start, Reader.entrySum?, Reader.entryHeader?]
    cases r.wordsAt? (headers.toNat + 64 * entry + 16) with
    | none => rfl
    | some words =>
      by_cases dropped : onFault = .discard ∧ none ∈ r.lengths words.1 words.2
      · simp [dropped]
      · simp [dropped]
  · have beyond : ¬ headers.toNat + 64 * entry + 16 < 2 ^ 64 := by
      rw [UInt64.size] at inside
      omega
    simp only [if_neg inside, Reader.entrySum?, Reader.entryHeader?, Reader.wordsAt?, if_neg beyond]
    rfl

/-- Entries add the exact sums of those that do not fail. -/
theorem answer_entriesFrom (r : Reader) (headers : UInt64) (policy : Policy)
    (left entry : Nat) (total : UInt32) :
    let entries := (List.range' entry left).map (r.entrySum? policy.fault headers.toNat)
    (entriesFrom r headers policy left entry total).answer =
      if policy.batch = .abortBatch ∧ none ∈ entries then .error .fault
      else .ok (Length.ofNat (total.toNat + entries.reduceOption.sum)) := by
  induction left generalizing entry total with
  | zero => simp [entriesFrom]
  | succ left ih =>
    simp only [entriesFrom, Traced.answer_cases, answer_entry, List.range'_succ, List.map_cons]
    cases r.entrySum? policy.fault headers.toNat entry with
    | some sum =>
      simp only [ih, Length.ofNat_add, List.mem_cons, reduceCtorEq, false_or,
        List.reduceOption_cons_of_some, List.sum_cons]
    | none =>
      obtain ⟨fault, batch⟩ := policy
      cases batch with
      | skipEntry => simp [ih]
      | abortBatch => simp

/-- A batch is dropped just if the policy says so and one of the entries that are looked at fails.
Otherwise its length is the exact sum over the entries that do not fail, cut once. -/
theorem batch_eq_exact_sum (r : Reader) (headers count : UInt64) (policy : Policy) :
    let entries :=
      (List.range (min count.toNat 8)).map (r.entrySum? policy.fault headers.toNat)
    (∀ entry, r.entrySum? policy.fault headers.toNat entry = none ↔
        r.EntryFails policy.fault headers.toNat entry) ∧
      ((batch r headers count policy).answer = .error .fault ↔
        policy.batch = .abortBatch ∧
          ∃ entry < min count.toNat 8, r.EntryFails policy.fault headers.toNat entry) ∧
      (¬ (policy.batch = .abortBatch ∧
          ∃ entry < min count.toNat 8, r.EntryFails policy.fault headers.toNat entry) →
        ∃ length, (batch r headers count policy).answer = .ok length ∧
          length.toNat = min (2 ^ 32 - 1) entries.reduceOption.sum) := by
  intro entries
  have fails_iff : none ∈ entries ↔
      ∃ entry < min count.toNat 8, r.EntryFails policy.fault headers.toNat entry := by
    simp only [entries, List.mem_map, List.mem_range, Reader.entrySum?_eq_none]
  have measured : (batch r headers count policy).answer =
      if policy.batch = .abortBatch ∧ none ∈ entries then .error .fault
      else .ok (Length.ofNat (0 + entries.reduceOption.sum)) := by
    have all := answer_entriesFrom r headers policy (min count.toNat 8) 0 0
    rw [← List.range_eq_range'] at all
    exact all
  rw [Nat.zero_add] at measured
  rw [← fails_iff]
  refine ⟨fun entry => Reader.entrySum?_eq_none, ?_, ?_⟩
  · constructor
    · intro faulted
      by_contra kept
      rw [measured, if_neg kept] at faulted
      cases faulted
    · intro dropped
      rw [measured, if_pos dropped]
  · intro kept
    refine ⟨_, by rw [measured, if_neg kept], ?_⟩
    rw [Length.toNat_ofNat, Nat.min_comm]

end Measure

end SyscallMeter
