import Mathlib.Algebra.GroupWithZero.Nat
import Mathlib.Order.CompletePartialOrder
import Mathlib.Order.Interval.Set.Disjoint
import SyscallMeter.Memory

/-! What a memory holds after it was changed. A change says something about its own places only, and
bytes are held as long as no later change says anything about them. Places are plain numbers, of
which those below `2 ^ 64` are addresses. -/
namespace SyscallMeter.Memory

/-- The second memory is like the first one but for some places. -/
def SameOutside (region : Set Nat) (m m' : Memory) : Prop :=
  ∀ address : UInt64, address.toNat ∉ region → m'.get? address = m.get? address

/-- The memory has these bytes from a place on. -/
def Holds (m : Memory) (start : Nat) (bytes : Octets) : Prop :=
  ∀ i (inside : i < bytes.length),
    start + i < 2 ^ 64 ∧ m.get? (UInt64.ofNat (start + i)) = some bytes[i]

variable {m m' m'' : Memory} {region region' : Set Nat}

namespace SameOutside

theorem mono (same : SameOutside region m m') (more : region ⊆ region') :
    SameOutside region' m m' :=
  fun address outside => same address fun inside => outside (more inside)

theorem trans (same : SameOutside region m m') (same' : SameOutside region' m' m'') :
    SameOutside (region ∪ region') m m'' := by
  intro address outside
  rw [Set.mem_union, not_or] at outside
  rw [same' address outside.2, same address outside.1]

end SameOutside

theorem holds_nil (m : Memory) (start : Nat) : m.Holds start [] :=
  fun _ inside => absurd inside (Nat.not_lt_zero _)

theorem holds_append {start : Nat} {front back : Octets} :
    m.Holds start (front ++ back) ↔
      m.Holds start front ∧ m.Holds (start + front.length) back := by
  constructor
  · intro held
    refine ⟨fun i inside => ?_, fun i inside => ?_⟩
    · have byte := held i (by rw [List.length_append]; omega)
      rwa [List.getElem_append_left inside] at byte
    · have byte := held (front.length + i) (by rw [List.length_append]; omega)
      rw [List.getElem_append_right (Nat.le_add_right _ _), ← Nat.add_assoc] at byte
      simpa only [Nat.add_sub_cancel_left] using byte
  · rintro ⟨first, second⟩ i inside
    by_cases early : i < front.length
    · rw [List.getElem_append_left early]
      exact first i early
    · have place : start + i = start + front.length + (i - front.length) := by omega
      rw [List.getElem_append_right (Nat.not_lt.mp early), place]
      exact second (i - front.length) (by rw [List.length_append] at inside; omega)

theorem mapM_range'_of_each {f : Nat → Option UInt8} {bytes : Octets} {first : Nat}
    (each : ∀ i (inside : i < bytes.length), f (first + i) = some bytes[i]) :
    (List.range' first bytes.length).mapM f = some bytes := by
  induction bytes generalizing first with
  | nil => rfl
  | cons b rest ih =>
    have head : f first = some b := each 0 (Nat.succ_pos _)
    have others : (List.range' (first + 1) rest.length).mapM f = some rest := by
      refine ih fun i inside => ?_
      have later := each (i + 1) (Nat.succ_lt_succ inside)
      rwa [← Nat.add_assoc, Nat.add_right_comm] at later
    rw [List.length_cons, List.range'_succ, List.mapM_cons, head, others]
    rfl

/-- What is held is read. -/
theorem Holds.read? {address : UInt64} {bytes : Octets} (held : m.Holds address.toNat bytes) :
    m.read? address bytes.length = some bytes := by
  rw [Memory.read?, List.range_eq_range']
  refine mapM_range'_of_each fun i inside => ?_
  obtain ⟨reached, byte⟩ := held i inside
  have reached : address.toNat + i < UInt64.size := reached
  rw [Nat.zero_add, offsetAddress?, if_pos reached]
  exact byte

end SyscallMeter.Memory
