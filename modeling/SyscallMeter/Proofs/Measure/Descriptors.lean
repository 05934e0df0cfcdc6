import Mathlib.Algebra.GroupWithZero.Nat
import Mathlib.Data.List.ReduceOption
import SyscallMeter.Measure
import SyscallMeter.Proofs.Payload

/-! The length of a descriptor array over unbounded numbers: the lengths of its descriptors are read
as plain numbers, and what is measured is their exact sum up to the first that cannot be read, cut
once at the largest 32-bit number. Cutting each length and each sum on the way makes no
difference. -/
namespace SyscallMeter

namespace Reader

/-- The two words at an address, as numbers. Nothing can be read from `2 ^ 64` on. -/
def wordsAt? (r : Reader) (address : Nat) : Option (Nat × Nat) :=
  if address < 2 ^ 64 then
    (r.read? (UInt64.ofNat address) 16).map fun bytes =>
      (Octets.toNat (bytes.take 8), Octets.toNat ((bytes.drop 8).take 8))
  else none

/-- The length of one descriptor of an array: the second of its two words. -/
def lengthAt? (r : Reader) (array index : Nat) : Option Nat :=
  (r.wordsAt? (array + 16 * index)).map (·.2)

/-- The lengths of the descriptors that are looked at, as far as they can be read. -/
def lengths (r : Reader) (array count : Nat) : List (Option Nat) :=
  (List.range (min count 32)).map (r.lengthAt? array)

theorem none_mem_lengths {r : Reader} {array count : Nat} :
    none ∈ r.lengths array count ↔
      ∃ index < min count 32, r.wordsAt? (array + 16 * index) = none := by
  simp [lengths, lengthAt?]

end Reader

/-- The sum of the lengths in front of the first that is not known. -/
def readableSum (lengths : List (Option Nat)) : Nat :=
  (lengths.takeWhile Option.isSome).reduceOption.sum

@[simp] theorem readableSum_nil : readableSum [] = 0 := rfl

@[simp] theorem readableSum_none (rest : List (Option Nat)) : readableSum (none :: rest) = 0 := rfl

@[simp] theorem readableSum_some (n : Nat) (rest : List (Option Nat)) :
    readableSum (some n :: rest) = n + readableSum rest := by
  simp [readableSum]

/-- A number as a length, cut at the largest 32-bit number. -/
def Length.ofNat (n : Nat) : UInt32 := UInt32.ofNat (min n (2 ^ 32 - 1))

namespace Length

theorem toNat_ofNat (n : Nat) : (ofNat n).toNat = min n (2 ^ 32 - 1) := by
  simp only [ofNat, UInt32.toNat_ofNat']
  omega

@[simp] theorem ofNat_toNat (n : UInt32) : ofNat n.toNat = n := by
  apply UInt32.toNat_inj.mp
  have small := n.toNat_lt
  rw [toNat_ofNat]
  omega

/-- It is enough to cut a sum once. -/
theorem ofNat_add (m : UInt32) (n k : Nat) :
    ofNat ((add m (ofNat n)).toNat + k) = ofNat (m.toNat + (n + k)) := by
  apply UInt32.toNat_inj.mp
  simp only [toNat_ofNat, toNat_add, UInt32.size]
  omega

theorem clamp_eq (n : UInt64) : clamp n = ofNat n.toNat := rfl

end Length

namespace Traced

variable {α β : Type}

theorem answer_cases (x : Traced α) (f : α → Traced β) (g : Obstacle → Traced β) :
    (x.cases f g).answer = match x.answer with
      | .ok a => (f a).answer
      | .error o => (g o).answer := by
  unfold cases
  cases x.answer <;> rfl

theorem answer_bind (x : Traced α) (f : α → Traced β) :
    (x >>= f).answer = match x.answer with
      | .ok a => (f a).answer
      | .error o => .error o :=
  answer_cases x f fail

@[simp] theorem answer_pure (a : α) : (pure a : Traced α).answer = .ok a := rfl

@[simp] theorem answer_fail (o : Obstacle) : (fail o : Traced α).answer = .error o := rfl

end Traced

namespace Reader

theorem toNat_toWords (bytes : Octets) :
    (Octets.toWords bytes).1.toNat = Octets.toNat (bytes.take 8) ∧
      (Octets.toWords bytes).2.toNat = Octets.toNat ((bytes.drop 8).take 8) := by
  have first := Octets.toNat_lt 8 (bytes.take 8) (List.length_take_le 8 _)
  have second := Octets.toNat_lt 8 ((bytes.drop 8).take 8) (List.length_take_le 8 _)
  exact ⟨UInt64.toNat_ofNat_of_lt' first, UInt64.toNat_ofNat_of_lt' second⟩

/-- The words at an offset from an address. An offset that leaves the addresses is a fault. -/
theorem wordsAt?_offset (r : Reader) (base : UInt64) (offset : Nat) :
    r.wordsAt? (base.toNat + offset) =
      ((offsetAddress? base offset).bind fun address => r.read? address 16).map fun bytes =>
        ((Octets.toWords bytes).1.toNat, (Octets.toWords bytes).2.toNat) := by
  have words : (fun bytes => ((Octets.toWords bytes).1.toNat, (Octets.toWords bytes).2.toNat)) =
      fun bytes => (Octets.toNat (bytes.take 8), Octets.toNat ((bytes.drop 8).take 8)) := by
    funext bytes
    obtain ⟨first, second⟩ := toNat_toWords bytes
    rw [first, second]
  rw [words, wordsAt?, offsetAddress?]
  by_cases inside : base.toNat + offset < 2 ^ 64
  · have reached : base.toNat + offset < UInt64.size := inside
    rw [if_pos inside, if_pos reached, Option.bind_some]
  · have beyond : ¬ base.toNat + offset < UInt64.size := inside
    rw [if_neg inside, if_neg beyond, Option.bind_none, Option.map_none]

theorem answer_read (r : Reader) (address : UInt64) (length : Nat) :
    (r.read address length).answer = match r.read? address length with
      | some bytes => .ok bytes
      | none => .error .fault := by
  unfold read
  cases r.read? address length <;> rfl

theorem answer_reach (address? : Option UInt64) :
    (reach address?).answer = match address? with
      | some address => .ok address
      | none => .error .fault := by
  cases address? <;> rfl

/-- A descriptor is read if its length is known. -/
theorem answer_descriptor (r : Reader) (array : UInt64) (index : Nat) :
    (r.descriptor array index).answer.map (·.length.toNat) =
      match r.lengthAt? array.toNat index with
      | some n => .ok n
      | none => .error .fault := by
  have offset : index * Descriptor.size = 16 * index := Nat.mul_comm _ _
  simp only [descriptor, elementAddress?, Traced.answer_bind, answer_reach, lengthAt?,
    wordsAt?_offset, offset]
  cases reached : offsetAddress? array (16 * index) with
  | none => rfl
  | some address =>
    simp only [answer_read, Descriptor.size, Option.bind_some]
    cases r.read? address 16 <;> rfl

/-- What a header points to is known if the header is read. -/
theorem answer_messageHeader (r : Reader) (start : UInt64) :
    (r.messageHeader start).answer.map (fun h => (h.array.toNat, h.count.toNat)) =
      match r.wordsAt? (start.toNat + 16) with
      | some words => .ok words
      | none => .error .fault := by
  simp only [messageHeader, Traced.answer_bind, answer_reach, wordsAt?_offset,
    MessageHeader.arrayOffset]
  cases reached : offsetAddress? start 16 with
  | none => rfl
  | some address =>
    simp only [answer_read, Option.bind_some]
    cases r.read? address 16 <;> rfl

end Reader

namespace Measure

/-- Descriptors add their exact sum up to the first that cannot be read. If there is one, the policy
decides. -/
theorem answer_descriptorsFrom (r : Reader) (array : UInt64) (onFault : FaultPolicy)
    (left index : Nat) (total : UInt32) :
    let lengths := (List.range' index left).map (r.lengthAt? array.toNat)
    (descriptorsFrom r array onFault left index total).answer =
      if onFault = .discard ∧ none ∈ lengths then .error .fault
      else .ok (Length.ofNat (total.toNat + readableSum lengths)) := by
  induction left generalizing index total with
  | zero => simp [descriptorsFrom]
  | succ left ih =>
    have descriptor := r.answer_descriptor array index
    simp only [descriptorsFrom, Traced.answer_cases, List.range'_succ, List.map_cons]
    cases answer : (r.descriptor array index).answer with
    | ok d =>
      rw [answer] at descriptor
      cases length : r.lengthAt? array.toNat index with
      | none =>
        rw [length] at descriptor
        cases descriptor
      | some n =>
        rw [length] at descriptor
        have same : d.length.toNat = n := Except.ok.inj descriptor
        simp only [ih, List.mem_cons, reduceCtorEq, false_or, readableSum_some, ← same,
          Length.clamp_eq, Length.ofNat_add]
    | error obstacle =>
      rw [answer] at descriptor
      cases length : r.lengthAt? array.toNat index with
      | some n =>
        rw [length] at descriptor
        cases descriptor
      | none =>
        rw [length] at descriptor
        obtain rfl : obstacle = .fault := Except.error.inj descriptor
        cases onFault <;> simp

theorem answer_vectored (r : Reader) (array count : UInt64) (onFault : FaultPolicy) :
    let lengths := r.lengths array.toNat count.toNat
    (vectored r array count onFault).answer =
      if onFault = .discard ∧ none ∈ lengths then .error .fault
      else .ok (Length.ofNat (readableSum lengths)) := by
  intro lengths
  have from_first : (vectored r array count onFault).answer =
      if onFault = .discard ∧ none ∈ lengths then .error .fault
      else .ok (Length.ofNat (0 + readableSum lengths)) := by
    have all := answer_descriptorsFrom r array onFault (min count.toNat 32) 0 0
    rw [← List.range_eq_range'] at all
    exact all
  rwa [Nat.zero_add] at from_first

end Measure

end SyscallMeter
