import Mathlib.Data.List.Induction
import SyscallMeter.Proofs.Measure.Revocation
import SyscallMeter.Proofs.Memory

/-! Batches of messages as they are laid out in memory, and what is measured of them. Every entry has
places of its own, for its header and for its descriptors, so that no entry disturbs another one
when it is put, and losing the header of one loses that one only. -/
namespace SyscallMeter

namespace Memory

/-- The memory holds a message: a header for an array of descriptors, and there the descriptors of
buffers of the given lengths. -/
structure HoldsMessage (m : Memory) (header : Nat) (array buffers : UInt64)
    (lengths : List UInt64) : Prop where
  header : m.Holds (header + MessageHeader.arrayOffset)
    (MessageHeader.encode ⟨array, UInt64.ofNat lengths.length⟩)
  descriptors : m.Holds array.toNat ((descriptors buffers lengths).flatMap Descriptor.encode)

variable {m m' : Memory}

/-- Two words that are held are read as numbers. -/
theorem wordsAt?_of_holds {place : Nat} {a b : UInt64} (held : m.Holds place (Octets.ofWords a b)) :
    m.reader.wordsAt? place = some (a.toNat, b.toNat) := by
  have reached : place < 2 ^ 64 := (held 0 (by simp)).1
  have address : (UInt64.ofNat place).toNat = place := UInt64.toNat_ofNat_of_lt' reached
  have read : m.reader.read? (UInt64.ofNat place) 16 = some (Octets.ofWords a b) := by
    rw [← address] at held
    have all := held.read?
    rwa [Octets.length_ofWords] at all
  obtain ⟨first, second⟩ := Reader.toNat_toWords (Octets.ofWords a b)
  rw [Octets.toWords_ofWords] at first second
  rw [Reader.wordsAt?, if_pos reached, read, Option.map_some, ← first, ← second]

theorem lengthAt?_of_holds {array : Nat} {buffers : UInt64} {lengths : List UInt64}
    (held : m.Holds array ((descriptors buffers lengths).flatMap Descriptor.encode)) {i : Nat}
    (inside : i < lengths.length) : m.reader.lengthAt? array i = some lengths[i].toNat := by
  induction lengths generalizing array buffers i with
  | nil => cases inside
  | cons length rest ih =>
    rw [descriptors, List.flatMap_cons, holds_append] at held
    obtain ⟨first, others⟩ := held
    cases i with
    | zero =>
      rw [Reader.lengthAt?, Nat.mul_zero, Nat.add_zero, wordsAt?_of_holds first]
      rfl
    | succ i =>
      have size : (Descriptor.encode ⟨buffers, length⟩).length = 16 := Octets.length_ofWords _ _
      rw [size] at others
      have next : array + 16 * (i + 1) = array + 16 + 16 * i := by omega
      rw [Reader.lengthAt?, next]
      exact ih others (Nat.lt_of_succ_lt_succ inside)

end Memory

/-- The sum of the lengths of a message that are looked at. -/
def messageSum (lengths : List UInt64) : Nat := ((lengths.take 32).map UInt64.toNat).sum

theorem readableSum_map_some (ns : List Nat) : readableSum (ns.map some) = ns.sum := by
  induction ns with
  | nil => rfl
  | cons n rest ih => rw [List.map_cons, readableSum_some, ih, List.sum_cons]

namespace Memory

variable {m m' : Memory}

theorem lengths_of_holds {array : Nat} {buffers : UInt64} {lengths : List UInt64}
    (held : m.Holds array ((descriptors buffers lengths).flatMap Descriptor.encode)) :
    m.reader.lengths array lengths.length =
      ((lengths.take 32).map UInt64.toNat).map some := by
  apply List.ext_getElem
  · simp [Reader.lengths, Nat.min_comm]
  · intro i inside _
    have listed : i < lengths.length := by
      simp only [Reader.lengths, List.length_map, List.length_range] at inside
      omega
    simp [Reader.lengths, lengthAt?_of_holds held listed]

/-- A message that is held is measured in full, whatever a fault would do. -/
theorem HoldsMessage.entrySum? {headers entry : Nat} {array buffers : UInt64}
    {lengths : List UInt64} (held : m.HoldsMessage (headers + 64 * entry) array buffers lengths)
    (few : lengths.length < 2 ^ 64) (onFault : FaultPolicy) :
    m.reader.entrySum? onFault headers entry = some (messageSum lengths) := by
  have header : m.reader.entryHeader? headers entry = some (array.toNat, lengths.length) := by
    have words := wordsAt?_of_holds held.header
    rwa [UInt64.toNat_ofNat_of_lt' few] at words
  have known : none ∉ ((lengths.take 32).map UInt64.toNat).map some := by
    intro unknown
    obtain ⟨n, -, unknown⟩ := List.mem_map.mp unknown
    cases unknown
  rw [Reader.entrySum?, header, Option.bind_eq_bind, Option.bind_some]
  dsimp only
  rw [lengths_of_holds held.descriptors, if_neg fun h => known h.2, readableSum_map_some,
    messageSum]

/-- One entry can be laid out: what is written of it has addresses, and its descriptors have room
before those of the next entry. -/
structure EntryFits (headers arrays : UInt64) (entry : Nat) (lengths : List UInt64) : Prop where
  header : headers.toNat + 64 * entry + 64 ≤ 2 ^ 64
  array : lengths ≠ [] → arrays.toNat + 4096 * entry + 16 * lengths.length ≤ 2 ^ 64
  short : lengths.length ≤ 256

variable {headers arrays : UInt64} {entry : Nat} {lengths : List UInt64}

theorem EntryFits.toNat_batchArray (fits : EntryFits headers arrays entry lengths)
    (filled : lengths ≠ []) : (batchArray arrays entry).toNat = arrays.toNat + 4096 * entry := by
  have room := fits.array filled
  have some_length := List.length_pos_iff.mpr filled
  rw [batchArray, batchArrayStride, UInt64.toNat_add, UInt64.toNat_mul, UInt64.toNat_ofNat']
  show (arrays.toNat + entry % 2 ^ 64 * 4096 % 2 ^ 64) % 2 ^ 64 = _
  omega

/-- The descriptors of an entry lie in the places kept for them. -/
theorem EntryFits.within (fits : EntryFits headers arrays entry lengths) :
    Set.Ico (batchArray arrays entry).toNat
        ((batchArray arrays entry).toNat + 16 * lengths.length) ⊆
      Set.Ico (arrays.toNat + 4096 * entry) (arrays.toNat + 4096 * entry + 4096) := by
  by_cases filled : lengths = []
  · simp [filled]
  · have short := fits.short
    rw [fits.toNat_batchArray filled]
    exact Set.Ico_subset_Ico_right (by omega)

end Memory

/-- A batch can be laid out: what is written has addresses, the descriptors of each entry have room
before those of the next one, and the headers lie apart from the descriptors. Where the buffers lie
does not matter. -/
structure BatchFits (headers arrays : UInt64) (entries : List (List UInt64)) : Prop where
  headersInside : headers.toNat + 64 * entries.length ≤ 2 ^ 64
  arraysInside : ∀ entry (h : entry < entries.length), entries[entry] ≠ [] →
    arrays.toNat + 4096 * entry + 16 * entries[entry].length ≤ 2 ^ 64
  short : ∀ lengths ∈ entries, lengths.length ≤ 256
  apart : Disjoint (Set.Ico headers.toNat (headers.toNat + 64 * entries.length))
    (Set.Ico arrays.toNat (arrays.toNat + 4096 * entries.length))

namespace BatchFits
open Memory

variable {headers arrays : UInt64} {entries : List (List UInt64)}

theorem entry (fits : BatchFits headers arrays entries) {i : Nat} (inside : i < entries.length) :
    EntryFits headers arrays i entries[i] := by
  have room := fits.headersInside
  exact ⟨by omega, fits.arraysInside i inside, fits.short _ (List.getElem_mem inside)⟩

theorem front {lengths : List UInt64} (fits : BatchFits headers arrays (entries ++ [lengths])) :
    BatchFits headers arrays entries := by
  have room := fits.headersInside
  have apart := fits.apart
  rw [List.length_append, List.length_singleton] at room apart
  refine ⟨by omega, fun i inside filled => ?_, fun other mem => ?_, ?_⟩
  · have known := fits.arraysInside i (by rw [List.length_append]; omega)
    rw [List.getElem_append_left inside] at known
    exact known filled
  · exact fits.short other (List.mem_append_left _ mem)
  · exact apart.mono (Set.Ico_subset_Ico_right (by omega)) (Set.Ico_subset_Ico_right (by omega))

end BatchFits

namespace Measure
open Memory

variable {headers arrays : UInt64} {entries : List (List UInt64)}

end Measure

end SyscallMeter
