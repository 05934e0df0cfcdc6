import SyscallMeter.Proofs.Ring.Refinement

/-! When an empty ring has room for a record. A record lies in one piece, either from the producer's
position to the end of the storage or from its front, and in the second case what it passes counts
as reserved, too. So an empty ring may refuse a record that its storage could hold. -/
namespace SyscallMeter
open RingBlock

namespace Ring

variable {c : RingCapacity} {r : Ring c} {length : Nat}

theorem reserve?_isSome_iff : (r.reserve? length).isSome ↔ length ≤ maxRecordLength ∧
    r.producer + r.padding (footprintWords length) + footprintWords length - r.consumer
      ≤ c.words := by
  constructor
  · intro granted
    obtain ⟨⟨w, s⟩, granted⟩ := Option.isSome_iff_exists.mp granted
    obtain ⟨short, room, -⟩ := reserve?_eq_some granted
    exact ⟨short, room⟩
  · rintro ⟨short, room⟩
    simp only [reserve?, if_neg (Nat.not_lt.mpr short), if_neg (Nat.not_lt.mpr room),
      Option.isSome_some]

/-- There is room in an empty ring behind the producer's position or in front of it. -/
theorem reserve?_of_drained (drained : r.consumer = r.producer)
    (short : length ≤ maxRecordLength) : (r.reserve? length).isSome ↔
      footprintWords length ≤ c.words - r.producer % c.words ∨
        footprintWords length ≤ r.producer % c.words := by
  have below := Nat.mod_lt r.producer c.words_pos
  have small := footprintWords_le (c := c) short
  rw [reserve?_isSome_iff, drained]
  simp only [padding]
  split <;> omega

end Ring

namespace RingSession

variable {c : RingCapacity}

theorem consumer_eq_of_drained {actions : List RingAction}
    (drained : (after c actions).ring.outstandingBytes = 0) :
    (after c actions).ring.consumer = (after c actions).ring.producer := by
  obtain ⟨q, gone, past, blocks, -, tracks⟩ := (tracks_fresh c).run actions
  have order : (after c actions).ring.consumer ≤ (after c actions).ring.producer :=
    tracks.layout.consumer_le
  simp only [Ring.outstandingBytes] at drained
  omega

/-- One record is reserved, committed and taken. -/
def oneRecord (length : Nat) : List RingAction := [.reserve length, .finish 0 .commit, .next]

/-- A first record leaves the ring empty and the producer behind the record. -/
theorem after_oneRecord (c : RingCapacity) {length : Nat} (short : length ≤ maxRecordLength) :
    (after c (oneRecord length)).ring.consumer = Ring.footprintWords length ∧
      (after c (oneRecord length)).ring.producer = Ring.footprintWords length := by
  have small := Ring.footprintWords_le (c := c) short
  have unpadded : (Ring.empty c).padding (Ring.footprintWords length) = 0 := by
    simp [Ring.padding, Ring.empty, small]
  have fits : ((Ring.empty c).reserve? length).isSome := by
    rw [Ring.reserve?_isSome_iff, unpadded]
    exact ⟨short, by simpa [Ring.empty] using small⟩
  obtain ⟨⟨w, r⟩, granted⟩ := Option.isSome_iff_exists.mp fits
  have layout := (Ring.Layout.empty c).reserve granted
  obtain ⟨-, -, rfl, producer, -⟩ := Ring.reserve?_eq_some granted
  rw [unpadded] at granted producer
  simp only [Ring.claims, unpadded, Nat.lt_irrefl, if_false, List.nil_append] at layout
  have alone : r.Layout ([] ++ [.record ⟨⟨(Ring.empty c).producer + 0, length⟩, none⟩
      (List.replicate length 0)]) := layout
  have committed := alone.finish .commit
  obtain ⟨-, taken⟩ := committed.next
  have same : (Ending.commit.apply r ⟨(Ring.empty c).producer + 0, length⟩).next.2.producer =
      Ring.footprintWords length := by
    rw [Ring.next, Ring.nextWithin_producer, Ending.apply_eq]
    simpa [Ring.setHeader, Ring.empty] using producer
  have ends : (after c (oneRecord length)).ring =
      (Ending.commit.apply r ⟨(Ring.empty c).producer + 0, length⟩).next.2 := by
    simp [after, fresh, oneRecord, run, step, granted, window?]
  rw [ends]
  exact ⟨taken.tiles.trans same, same⟩

theorem drained_reserve {actions : List RingAction} {length : Nat}
    (drained : (after c actions).ring.outstandingBytes = 0) (short : length ≤ maxRecordLength) :
    ((after c actions).ring.reserve? length).isSome ↔
      Ring.footprintWords length ≤ c.words - (after c actions).ring.producer % c.words ∨
        Ring.footprintWords length ≤ (after c actions).ring.producer % c.words :=
  Ring.reserve?_of_drained (consumer_eq_of_drained drained) short

/-- In a small ring a first record can be so long that a longest one fits neither behind it nor in
its place. -/
theorem longest_refused (few : c.words + 1 < 2 * Ring.footprintWords maxRecordLength) :
    ∃ length, (after c (oneRecord length)).ring.outstandingBytes = 0 ∧
      ¬ ((after c (oneRecord length)).ring.reserve? maxRecordLength).isSome := by
  have holds := c.holds_record
  simp only [Ring.footprintWords, payloadWords, maxRecordLength] at few holds
  -- 16 words are left behind this record, and it takes at most 16 itself
  have short : 4 * (c.words - 17) ≤ maxRecordLength := by
    simp only [maxRecordLength]
    omega
  obtain ⟨consumer, producer⟩ := after_oneRecord c short
  have drained : (after c (oneRecord (4 * (c.words - 17)))).ring.outstandingBytes = 0 := by
    simp [Ring.outstandingBytes, consumer, producer]
  refine ⟨4 * (c.words - 17), drained, ?_⟩
  rw [drained_reserve drained (Nat.le_refl _), producer]
  simp only [Ring.footprintWords, payloadWords, maxRecordLength]
  rw [Nat.mod_eq_of_lt (by omega)]
  omega

/-- In an empty ring the producer's position decides whether a legal record fits, and only a ring of
nearly two longest records takes every one of them whatever was done before. -/
theorem drained_room (c : RingCapacity) :
    (∀ actions length, (after c actions).ring.outstandingBytes = 0 → length ≤ maxRecordLength →
      (((after c actions).ring.reserve? length).isSome ↔
        Ring.footprintWords length ≤ c.words - (after c actions).ring.producer % c.words ∨
          Ring.footprintWords length ≤ (after c actions).ring.producer % c.words)) ∧
    ((∀ actions length, (after c actions).ring.outstandingBytes = 0 → length ≤ maxRecordLength →
      ((after c actions).ring.reserve? length).isSome) ↔
        2 * Ring.footprintWords maxRecordLength ≤ c.words + 1) := by
  refine ⟨fun actions length drained short => drained_reserve drained short, ?_, ?_⟩
  · intro always
    by_contra few
    obtain ⟨length, drained, refused⟩ := longest_refused (Nat.lt_of_not_le few)
    exact refused (always _ _ drained (Nat.le_refl _))
  · intro many actions length drained short
    rw [drained_reserve drained short]
    have below := Nat.mod_lt (after c actions).ring.producer c.words_pos
    have shorter : Ring.footprintWords length ≤ Ring.footprintWords maxRecordLength := by
      simp only [Ring.footprintWords, payloadWords]
      omega
    omega

/-- After one short record a ring of 18 words is empty and has no room for a longest record. -/
theorem drained_ring_refuses : ∃ c : RingCapacity, c.words = 18 ∧
    (after c (oneRecord 6)).ring.outstandingBytes = 0 ∧ (64 : Nat) ≤ maxRecordLength ∧
    (after c (oneRecord 6)).ring.reserve? 64 = none := by
  refine ⟨⟨18, by decide, by decide⟩, rfl, ?_, Nat.le_refl _, ?_⟩ <;> decide +kernel

end RingSession

end SyscallMeter
