import SyscallMeter.Proofs.Measure.Descriptors

/-! What is read of a descriptor array, and what is made of it. The descriptors are read one after
the other, each at its own address, up to the first that cannot be read; nothing behind that one is
tried, and no address wraps around. -/
namespace SyscallMeter

theorem Traced.accesses_cases {α β : Type} (x : Traced α) (f : α → Traced β)
    (g : Obstacle → Traced β) : (x.cases f g).accesses = x.accesses ++ (match x.answer with
      | .ok a => f a
      | .error o => g o).accesses := rfl

namespace Reader

/-- No descriptor can be read there: there is no such address, or reading it is a fault. -/
def Unreadable (r : Reader) (address : Nat) : Prop :=
  2 ^ 64 ≤ address ∨ r.read? (UInt64.ofNat address) Descriptor.size = none

/-- The attempt to read a descriptor, if there is such an address. -/
def attempt (r : Reader) (address : Nat) : List Access :=
  if address < 2 ^ 64 then
    [.memory (UInt64.ofNat address) Descriptor.size
      (r.read? (UInt64.ofNat address) Descriptor.size).isSome]
  else []

/-- Of `left` descriptors from an address on, the first `known` can be read, and the next one, if it
is among them, cannot. -/
structure Stops (r : Reader) (address left known : Nat) : Prop where
  le : known ≤ left
  readable : ∀ i < known, ¬ r.Unreadable (address + 16 * i)
  unreadable : known < left → r.Unreadable (address + 16 * known)

variable {r : Reader} {address left known : Nat}

theorem stops_zero : r.Stops address 0 known ↔ known = 0 := by
  constructor
  · intro h
    exact Nat.le_zero.mp h.le
  · rintro rfl
    exact ⟨Nat.le_refl 0, by simp, by simp⟩

/-- Reading stops at the first descriptor, or it stops later in the rest of the array. -/
theorem stops_succ : r.Stops address (left + 1) known ↔
    r.Unreadable address ∧ known = 0 ∨
      ¬ r.Unreadable address ∧ ∃ k, known = k + 1 ∧ r.Stops (address + 16) left k := by
  have next (i : Nat) : address + 16 * (i + 1) = address + 16 + 16 * i := by omega
  constructor
  · intro h
    cases known with
    | zero => exact .inl ⟨h.unreadable (Nat.succ_pos _), rfl⟩
    | succ k =>
      refine .inr ⟨h.readable 0 (Nat.succ_pos _), k, rfl, Nat.le_of_succ_le_succ h.le, ?_, ?_⟩
      · intro i inside
        rw [← next]
        exact h.readable (i + 1) (Nat.succ_lt_succ inside)
      · intro more
        rw [← next]
        exact h.unreadable (Nat.succ_lt_succ more)
  · rintro (⟨unreadable, rfl⟩ | ⟨readable, k, rfl, rest⟩)
    · exact ⟨Nat.zero_le _, by simp, fun _ => unreadable⟩
    · refine ⟨Nat.succ_le_succ rest.le, ?_, ?_⟩
      · rintro (_ | i) inside
        · exact readable
        · rw [next]
          exact rest.readable i (Nat.lt_of_succ_lt_succ inside)
      · intro more
        rw [next]
        exact rest.unreadable (Nat.lt_of_succ_lt_succ more)

theorem exists_stops (r : Reader) (address left : Nat) : ∃ known, r.Stops address left known := by
  induction left generalizing address with
  | zero => exact ⟨0, stops_zero.mpr rfl⟩
  | succ left ih =>
    by_cases first : r.Unreadable address
    · exact ⟨0, stops_succ.mpr (.inl ⟨first, rfl⟩)⟩
    · obtain ⟨k, rest⟩ := ih (address + 16)
      exact ⟨k + 1, stops_succ.mpr (.inr ⟨first, k, rfl, rest⟩)⟩

theorem wordsAt?_eq_none : r.wordsAt? address = none ↔ r.Unreadable address := by
  simp only [wordsAt?, Unreadable, Descriptor.size]
  by_cases inside : address < 2 ^ 64
  · rw [if_pos inside, Option.map_eq_none_iff, or_iff_right (Nat.not_le.mpr inside)]
  · rw [if_neg inside, eq_self, true_iff]
    exact .inl (Nat.not_lt.mp inside)

theorem lengthAt?_eq_none {array index : Nat} :
    r.lengthAt? array index = none ↔ r.Unreadable (array + 16 * index) := by
  rw [lengthAt?, Option.map_eq_none_iff, wordsAt?_eq_none]

/-- A descriptor takes one attempt, at its own address. -/
theorem accesses_descriptor (r : Reader) (array : UInt64) (index : Nat) :
    (r.descriptor array index).accesses = r.attempt (array.toNat + 16 * index) := by
  have offset : index * Descriptor.size = 16 * index := Nat.mul_comm _ _
  simp only [descriptor, elementAddress?, offset, offsetAddress?, attempt]
  by_cases inside : array.toNat + 16 * index < UInt64.size
  · have reached : array.toNat + 16 * index < 2 ^ 64 := inside
    rw [if_pos inside, if_pos reached]
    simp only [reach, read, bind, Traced.cases, pure]
    cases r.read? (UInt64.ofNat (array.toNat + 16 * index)) Descriptor.size <;> rfl
  · have beyond : ¬ array.toNat + 16 * index < 2 ^ 64 := inside
    rw [if_neg inside, if_neg beyond]
    rfl

/-- The lengths that are known are those in front of where reading stops. -/
theorem Stops.readableSum_eq {array count : Nat} (h : r.Stops array (min count 32) known) :
    readableSum (r.lengths array count) =
      ((List.range known).filterMap (r.lengthAt? array)).sum := by
  obtain ⟨more, split⟩ := Nat.exists_eq_add_of_le h.le
  have before : ∀ length ∈ (List.range known).map (r.lengthAt? array), length.isSome := by
    intro length mem
    obtain ⟨i, inside, rfl⟩ := List.mem_map.mp mem
    have readable := h.readable i (List.mem_range.mp inside)
    rw [← lengthAt?_eq_none] at readable
    exact Option.isSome_iff_ne_none.mpr readable
  have behind : (((List.range more).map (known + ·)).map (r.lengthAt? array)).takeWhile
      Option.isSome = [] := by
    cases more with
    | zero => rfl
    | succ more =>
      have stop : r.lengthAt? array known = none :=
        lengthAt?_eq_none.mpr (h.unreadable (by omega))
      simp [List.range_succ_eq_map, stop]
  rw [readableSum, lengths, split, List.range_add, List.map_append,
    List.takeWhile_append_of_pos before, behind, List.append_nil, List.reduceOption,
    List.filterMap_map, Function.id_comp]

theorem Stops.none_mem_lengths_iff {array count : Nat} (h : r.Stops array (min count 32) known) :
    none ∈ r.lengths array count ↔ known < min count 32 := by
  simp only [none_mem_lengths, wordsAt?_eq_none]
  constructor
  · rintro ⟨i, inside, unreadable⟩
    have reached : known ≤ i := by
      by_contra early
      exact h.readable i (Nat.lt_of_not_le early) unreadable
    omega
  · intro inside
    exact ⟨known, inside, h.unreadable inside⟩

end Reader

namespace Measure

/-- Descriptors are attempted in order, up to and with the first that cannot be read. -/
theorem accesses_descriptorsFrom {r : Reader} {array : UInt64} {left index known : Nat}
    (onFault : FaultPolicy) (total : UInt32)
    (h : r.Stops (array.toNat + 16 * index) left known) :
    (descriptorsFrom r array onFault left index total).accesses =
      (List.range (min left (known + 1))).flatMap
        fun i => r.attempt (array.toNat + 16 * index + 16 * i) := by
  induction left generalizing index known total with
  | zero => simp [descriptorsFrom, pure]
  | succ left ih =>
    have attempted := r.accesses_descriptor array index
    have descriptor := r.answer_descriptor array index
    simp only [descriptorsFrom, Traced.accesses_cases, attempted]
    rcases Reader.stops_succ.mp h with ⟨unreadable, rfl⟩ | ⟨readable, k, rfl, rest⟩
    · rw [Reader.lengthAt?_eq_none.mpr unreadable] at descriptor
      cases answer : (r.descriptor array index).answer with
      | ok d =>
        rw [answer] at descriptor
        cases descriptor
      | error obstacle => cases onFault <;> simp [Traced.fail, pure]
    · cases answer : (r.descriptor array index).answer with
      | ok d =>
        have following : array.toNat + 16 * (index + 1) = array.toNat + 16 * index + 16 := by omega
        rw [← following] at rest
        simp only [ih _ rest, following]
        rw [Nat.add_min_add_right, List.range_succ_eq_map, List.flatMap_cons, List.flatMap_map]
        simp [Nat.mul_add, Nat.add_assoc, Nat.add_comm 16]
      | error obstacle =>
        rw [← Reader.lengthAt?_eq_none] at readable
        obtain ⟨n, known⟩ := Option.ne_none_iff_exists'.mp readable
        rw [answer, known] at descriptor
        cases descriptor

/-- A descriptor array is read in order, up to and with the first descriptor that cannot be read.
If there is one, the policy may drop the call for it; otherwise the length is the exact sum of the
descriptors in front of it, cut once. -/
theorem vectored_eq_exact_sum (r : Reader) (array count : UInt64) (onFault : FaultPolicy) :
    ∃ known, r.Stops array.toNat (min count.toNat 32) known ∧
      (vectored r array count onFault).accesses =
        ((List.range (min (min count.toNat 32) (known + 1))).flatMap
          fun i => r.attempt (array.toNat + 16 * i)) ∧
      ((vectored r array count onFault).answer = .error .fault ↔
        known < min count.toNat 32 ∧ onFault = .discard) ∧
      (¬ (known < min count.toNat 32 ∧ onFault = .discard) →
        ∃ length, (vectored r array count onFault).answer = .ok length ∧
          length.toNat = min (2 ^ 32 - 1)
            ((List.range known).filterMap (r.lengthAt? array.toNat)).sum) := by
  obtain ⟨known, stops⟩ := r.exists_stops array.toNat (min count.toNat 32)
  have answer := answer_vectored r array count onFault
  simp only [stops.none_mem_lengths_iff, stops.readableSum_eq, and_comm (a := onFault = _)] at answer
  refine ⟨known, stops, ?_, ?_, ?_⟩
  · have from_first : r.Stops (array.toNat + 16 * 0) (min count.toNat 32) known := stops
    exact accesses_descriptorsFrom onFault 0 from_first
  · constructor
    · intro faulted
      by_contra kept
      rw [answer, if_neg kept] at faulted
      cases faulted
    · intro dropped
      rw [answer, if_pos dropped]
  · intro kept
    refine ⟨_, by rw [answer, if_neg kept], ?_⟩
    rw [Length.toNat_ofNat, Nat.min_comm]

end Measure

end SyscallMeter
