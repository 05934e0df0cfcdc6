import SyscallMeter.Proofs.Measure.Batch

/-! Measuring a call when some memory of the caller is gone. What is still read is what was read
before, so that a length can shrink or a call be dropped, but no length grows and no call that was
dropped is measured; and where every fault drops the call, what is measured is still exact. -/
namespace SyscallMeter

namespace Reader

/-- The second reader is the first one after memory was revoked: what it still reads is the same. -/
def Revoked (r r' : Reader) : Prop :=
  ∀ address length bytes, r'.read? address length = some bytes →
    r.read? address length = some bytes

variable {r r' : Reader}

theorem Revoked.wordsAt? (lost : r.Revoked r') {address : Nat} {words : Nat × Nat}
    (known : r'.wordsAt? address = some words) : r.wordsAt? address = some words := by
  unfold Reader.wordsAt? at known ⊢
  split at known
  · rename_i inside
    obtain ⟨bytes, read, rfl⟩ := Option.map_eq_some_iff.mp known
    rw [if_pos inside, lost _ _ _ read, Option.map_some]
  · cases known

theorem Revoked.lengthAt? (lost : r.Revoked r') {array index n : Nat}
    (known : r'.lengthAt? array index = some n) : r.lengthAt? array index = some n := by
  obtain ⟨words, read, rfl⟩ := Option.map_eq_some_iff.mp known
  exact Option.map_eq_some_iff.mpr ⟨words, lost.wordsAt? read, rfl⟩

/-- If more lengths are known, those in front of the first unknown one make no smaller sum. -/
theorem readableSum_map_le {f f' : Nat → Option Nat}
    (more : ∀ i n, f' i = some n → f i = some n) (indices : List Nat) :
    readableSum (indices.map f') ≤ readableSum (indices.map f) := by
  induction indices with
  | nil => exact Nat.le_refl _
  | cons i rest ih =>
    cases known : f' i with
    | none => simp [known]
    | some n => simpa [known, more i n known] using ih

theorem map_eq_of_none_not_mem {f f' : Nat → Option Nat}
    (more : ∀ i n, f' i = some n → f i = some n) {indices : List Nat}
    (complete : none ∉ indices.map f') : indices.map f = indices.map f' := by
  apply List.map_congr_left
  intro i inside
  cases known : f' i with
  | none => exact absurd (known ▸ List.mem_map_of_mem inside) complete
  | some n => exact more i n known

/-- An array that is not dropped was not dropped before, and its sum was no smaller. Where any fault
drops it, it was the same. -/
theorem Revoked.lengths (lost : r.Revoked r') {onFault : FaultPolicy} {array count : Nat}
    (kept : ¬ (onFault = .discard ∧ none ∈ r'.lengths array count)) :
    ¬ (onFault = .discard ∧ none ∈ r.lengths array count) ∧
      readableSum (r'.lengths array count) ≤ readableSum (r.lengths array count) ∧
      (onFault = .discard →
        readableSum (r.lengths array count) = readableSum (r'.lengths array count)) := by
  have more (i n : Nat) : r'.lengthAt? array i = some n → r.lengthAt? array i = some n :=
    lost.lengthAt?
  have same (drop : onFault = .discard) : r.lengths array count = r'.lengths array count :=
    map_eq_of_none_not_mem more fun unknown => kept ⟨drop, unknown⟩
  refine ⟨?_, readableSum_map_le more _, fun drop => by rw [same drop]⟩
  rintro ⟨drop, unknown⟩
  rw [same drop] at unknown
  exact kept ⟨drop, unknown⟩

theorem Revoked.entrySum? (lost : r.Revoked r') {onFault : FaultPolicy} {headers entry n' : Nat}
    (known : r'.entrySum? onFault headers entry = some n') :
    ∃ n, r.entrySum? onFault headers entry = some n ∧ n' ≤ n ∧ (onFault = .discard → n = n') := by
  obtain ⟨⟨array, count⟩, header, summed⟩ := Option.bind_eq_some_iff.mp known
  have before : r.entryHeader? headers entry = some (array, count) := lost.wordsAt? header
  dsimp only at summed
  split at summed
  · cases summed
  · rename_i kept
    obtain rfl := Option.some.inj summed
    obtain ⟨kept', le, same⟩ := lost.lengths kept
    refine ⟨_, ?_, le, same⟩
    simp [Reader.entrySum?, before, kept']

end Reader

namespace Length

theorem ofNat_le_ofNat {m n : Nat} (le : m ≤ n) : ofNat m ≤ ofNat n := by
  rw [UInt32.le_iff_toNat_le, toNat_ofNat, toNat_ofNat]
  omega

end Length

/-- The sum of what is known grows with every part. -/
theorem sum_reduceOption_map_le {f f' : Nat → Option Nat}
    (more : ∀ i n', f' i = some n' → ∃ n, f i = some n ∧ n' ≤ n) (indices : List Nat) :
    (indices.map f').reduceOption.sum ≤ (indices.map f).reduceOption.sum := by
  induction indices with
  | nil => exact Nat.le_refl _
  | cons i rest ih =>
    cases known : f' i with
    | none =>
      have grows : (rest.map f).reduceOption.sum ≤ (f i :: rest.map f).reduceOption.sum := by
        cases f i <;> simp
      rw [List.map_cons, known, List.reduceOption_cons_of_none]
      exact Nat.le_trans ih grows
    | some n' =>
      obtain ⟨n, known', le⟩ := more i n' known
      simp only [List.map_cons, known, known', List.reduceOption_cons_of_some, List.sum_cons]
      omega

/-- The second computation is the first one after memory was revoked: where it has a length, the
first one has no smaller one, and the same if the measurement is exact. -/
def Traced.Reduced (exact : Prop) (x x' : Traced UInt32) : Prop :=
  ∀ n', x'.answer = .ok n' → ∃ n, x.answer = .ok n ∧ n' ≤ n ∧ (exact → n = n')

namespace Traced

theorem reduced_refl (exact : Prop) (x : Traced UInt32) : x.Reduced exact x :=
  fun n' measured => ⟨n', measured, UInt32.le_refl n', fun _ => rfl⟩

theorem Reduced.imp {exact exact' : Prop} {x x' : Traced UInt32} (h : x.Reduced exact x')
    (imp : exact' → exact) : x.Reduced exact' x' := by
  intro n' measured
  obtain ⟨n, before, le, same⟩ := h n' measured
  exact ⟨n, before, le, fun e => same (imp e)⟩

/-- What is read of the arguments is not lost with memory. -/
theorem Reduced.bind {α : Type} {exact : Prop} {f f' : α → Traced UInt32}
    (next : ∀ a, (f a).Reduced exact (f' a)) (x : Traced α) :
    (x >>= f).Reduced exact (x >>= f') := by
  intro n' measured
  rw [answer_bind] at measured ⊢
  cases answer : x.answer with
  | ok a =>
    rw [answer] at measured
    exact next a n' measured
  | error o =>
    rw [answer] at measured
    cases measured

end Traced

namespace Measure

variable {r r' : Reader}

/-- What is made of a descriptor array is the same or less. -/
theorem array_of_revoked (lost : r.Revoked r') {onFault : FaultPolicy} {array count : Nat}
    {n' : UInt32}
    (measured : (if onFault = .discard ∧ none ∈ r'.lengths array count then .error .fault
      else .ok (Length.ofNat (readableSum (r'.lengths array count))) : Except Obstacle UInt32) =
        .ok n') :
    ∃ n, (if onFault = .discard ∧ none ∈ r.lengths array count then .error .fault
      else .ok (Length.ofNat (readableSum (r.lengths array count))) : Except Obstacle UInt32) =
        .ok n ∧ n' ≤ n ∧ (onFault = .discard → n = n') := by
  split at measured
  · cases measured
  · rename_i kept
    obtain rfl := Except.ok.inj measured
    obtain ⟨kept', le, same⟩ := lost.lengths kept
    exact ⟨_, if_neg kept', Length.ofNat_le_ofNat le, fun drop => by rw [same drop]⟩

theorem reduced_vectored (lost : r.Revoked r') (array count : UInt64) (onFault : FaultPolicy) :
    (vectored r array count onFault).Reduced (onFault = .discard)
      (vectored r' array count onFault) := by
  intro n' measured
  rw [answer_vectored] at measured ⊢
  exact array_of_revoked lost measured

theorem reduced_message (lost : r.Revoked r') (header : UInt64) (onFault : FaultPolicy) :
    (message r header onFault).Reduced (onFault = .discard) (message r' header onFault) := by
  intro n' measured
  rw [answer_message] at measured ⊢
  cases words : r'.wordsAt? (header.toNat + 16) with
  | none =>
    rw [words] at measured
    cases measured
  | some found =>
    rw [words] at measured
    rw [lost.wordsAt? words]
    exact array_of_revoked lost measured

theorem answer_batch (r : Reader) (headers count : UInt64) (policy : Policy) :
    let entries := (List.range (min count.toNat 8)).map (r.entrySum? policy.fault headers.toNat)
    (batch r headers count policy).answer =
      if policy.batch = .abortBatch ∧ none ∈ entries then .error .fault
      else .ok (Length.ofNat entries.reduceOption.sum) := by
  intro entries
  have all := answer_entriesFrom r headers policy (min count.toNat 8) 0 0
  rw [← List.range_eq_range'] at all
  rw [← Nat.zero_add entries.reduceOption.sum]
  exact all

theorem reduced_batch (lost : r.Revoked r') (headers count : UInt64) (policy : Policy) :
    (batch r headers count policy).Reduced (policy.fault = .discard ∧ policy.batch = .abortBatch)
      (batch r' headers count policy) := by
  intro n' measured
  rw [answer_batch] at measured ⊢
  have more (i n' : Nat) (known : r'.entrySum? policy.fault headers.toNat i = some n') :
      ∃ n, r.entrySum? policy.fault headers.toNat i = some n ∧ n' ≤ n ∧
        (policy.fault = .discard → n = n') := lost.entrySum? known
  split at measured
  · cases measured
  · rename_i kept
    obtain rfl := Except.ok.inj measured
    -- An entry that fails with all of the memory fails without some of it too.
    have kept' : ¬ (policy.batch = .abortBatch ∧ none ∈ (List.range (min count.toNat 8)).map
        (r.entrySum? policy.fault headers.toNat)) := by
      rintro ⟨abort, failed⟩
      obtain ⟨i, inside, failed⟩ := List.mem_map.mp failed
      refine kept ⟨abort, List.mem_map.mpr ⟨i, inside, ?_⟩⟩
      cases known : r'.entrySum? policy.fault headers.toNat i with
      | none => rfl
      | some n' =>
        obtain ⟨n, known', -⟩ := more i n' known
        rw [failed] at known'
        cases known'
    refine ⟨_, if_neg kept', Length.ofNat_le_ofNat (sum_reduceOption_map_le ?_ _), ?_⟩
    · intro i n' known
      obtain ⟨n, known', le, -⟩ := more i n' known
      exact ⟨n, known', le⟩
    · rintro ⟨drop, abort⟩
      have same : (List.range (min count.toNat 8)).map (r.entrySum? policy.fault headers.toNat) =
          (List.range (min count.toNat 8)).map (r'.entrySum? policy.fault headers.toNat) := by
        refine Reader.map_eq_of_none_not_mem ?_ fun failed => kept ⟨abort, failed⟩
        intro i n' known
        obtain ⟨n, known', -, equal⟩ := more i n' known
        rw [known', equal drop]
      rw [same]

end Measure

namespace Memory

theorem get?_of_revoke {m : Memory} {start length address : UInt64} {b : UInt8}
    (readable : (m.revoke start length).get? address = some b) : m.get? address = some b := by
  unfold get? revoke at readable
  rw [List.findSome?_cons] at readable
  cases revoked : Change.at? address (.revoke start length) with
  | none =>
    rw [revoked] at readable
    exact readable
  | some content =>
    rw [revoked] at readable
    rw [Change.at?] at revoked
    split at revoked
    · obtain rfl := Option.some.inj revoked
      cases readable
    · cases revoked

theorem mapM_of_more {f f' : Nat → Option UInt8} (more : ∀ i b, f' i = some b → f i = some b)
    {indices : List Nat} {bytes : Octets} (read : indices.mapM f' = some bytes) :
    indices.mapM f = some bytes := by
  induction indices generalizing bytes with
  | nil => exact read
  | cons i rest ih =>
    rw [List.mapM_cons] at read ⊢
    obtain ⟨b, first, read⟩ := Option.bind_eq_some_iff.mp read
    obtain ⟨others, later, last⟩ := Option.bind_eq_some_iff.mp read
    rw [more i b first, ih later]
    exact last

/-- Revoking a range leaves a reader that reads no more than before, and nothing else. -/
theorem revoked_revoke (m : Memory) (start length : UInt64) :
    m.reader.Revoked (m.revoke start length).reader := by
  intro address size bytes read
  refine mapM_of_more (fun i b readable => ?_) read
  obtain ⟨place, inside, readable⟩ := Option.bind_eq_some_iff.mp readable
  exact Option.bind_eq_some_iff.mpr ⟨place, inside, get?_of_revoke readable⟩

end Memory

/-- The source of a length is a batch of messages. -/
def LengthSource.IsBatch (source : LengthSource) : Prop :=
  ∃ headers count, source = .batch headers count

theorem reduced_measure (source : LengthSource) (arguments : Arguments) (policy : Policy)
    {r r' : Reader} (lost : r.Revoked r') :
    (measure source arguments r policy).Reduced
      (policy.fault = .discard ∧ (¬ source.IsBatch ∨ policy.batch = .abortBatch))
      (measure source arguments r' policy) := by
  cases source with
  | scalar length => exact Traced.reduced_refl _ _
  | vectored array count =>
    refine Traced.Reduced.bind (fun array => ?_) _
    refine Traced.Reduced.bind (fun count => ?_) _
    exact (Measure.reduced_vectored lost array count policy.fault).imp And.left
  | message header =>
    refine Traced.Reduced.bind (fun header => ?_) _
    exact (Measure.reduced_message lost header policy.fault).imp And.left
  | batch headers count =>
    have batch : LengthSource.IsBatch (.batch headers count) := ⟨headers, count, rfl⟩
    refine Traced.Reduced.bind (fun headers => ?_) _
    refine Traced.Reduced.bind (fun count => ?_) _
    refine (Measure.reduced_batch lost headers count policy).imp ?_
    rintro ⟨drop, apart⟩
    exact ⟨drop, apart.resolve_left (not_not_intro batch)⟩

/-- Revoking memory of the caller can lower the length that is measured, or drop the call, and no
more than that. Where every fault drops the call, in a batch too, a length that is still measured
has not changed. -/
theorem measure_of_revoked (source : LengthSource) (arguments : Arguments) (policy : Policy)
    {r r' : Reader} (lost : r.Revoked r') :
    (∀ n', (measure source arguments r' policy).answer = .ok n' →
        ∃ n, (measure source arguments r policy).answer = .ok n ∧ n' ≤ n ∧
          (policy.fault = .discard → ¬ source.IsBatch ∨ policy.batch = .abortBatch → n = n')) ∧
      ∀ o, (measure source arguments r policy).answer = .error o →
        ∃ o', (measure source arguments r' policy).answer = .error o' := by
  have reduced := reduced_measure source arguments policy lost
  constructor
  · intro n' measured
    obtain ⟨n, measured', le, same⟩ := reduced n' measured
    exact ⟨n, measured', le, fun drop apart => same ⟨drop, apart⟩⟩
  · intro o failed
    cases answer : (measure source arguments r' policy).answer with
    | error o' => exact ⟨o', rfl⟩
    | ok n' =>
      obtain ⟨n, measured, -⟩ := reduced n' answer
      rw [failed] at measured
      cases measured

/-- Two messages of 30 bytes each, of which the first loses its second descriptor and with it 20
bytes. -/
theorem measure_of_revoked_descriptor :
    let m := Memory.empty.putBatch 0x1000 0x10000 [[10, 20], [30]]
    let r := m.reader
    let r' := (m.revoke 0x10010 1).reader
    let arguments : Arguments := fun slot => [3, 0x1000, 2][slot]?
    r.Revoked r' ∧
      (measure (.batch 1 2) arguments r' ⟨.emitPartial, .skipEntry⟩).answer = .ok 40 ∧
      ∃ n, (measure (.batch 1 2) arguments r ⟨.emitPartial, .skipEntry⟩).answer = .ok n ∧
        40 ≤ n := by
  intro m r r' arguments
  have lost : r.Revoked r' := m.revoked_revoke 0x10010 1
  have measured : (measure (.batch 1 2) arguments r' ⟨.emitPartial, .skipEntry⟩).answer =
      .ok 40 := by
    rfl
  obtain ⟨n, before, le, -⟩ :=
    (measure_of_revoked (.batch 1 2) arguments ⟨.emitPartial, .skipEntry⟩ lost).1 40 measured
  exact ⟨lost, measured, n, before, le⟩

end SyscallMeter
