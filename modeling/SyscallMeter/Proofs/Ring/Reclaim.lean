import SyscallMeter.Proofs.Ring.Invariant
import SyscallMeter.Proofs.Ring.Room

/-! What an empty answer of the consumer leaves. All that was finished in front of the first open
window has been given back by that one answer, and it never gives up early: every pass takes a
block, and there are no more blocks than the ring has words. -/
namespace SyscallMeter

/-- The earliest window that is still open. -/
def RingSession.firstOpen? {c : RingCapacity} (s : RingSession c) : Option RingWindow :=
  (s.reservations.find? (·.ending.isNone)).map (·.window)

namespace RingBlock

/-- Without a record to deliver, what the consumer passes are padding and discarded records. -/
theorem held_suffix {blocks : List RingBlock} (nothing : (delivery blocks).1 = none) :
    ∃ passed, blocks = passed ++ held blocks ∧ ∀ v bytes, record v bytes ∈ passed →
      ∃ e, v.ending = some e ∧ e.publishes = false := by
  fun_induction delivery blocks with
  | case1 => exact ⟨[], rfl, by simp⟩
  | case2 start words rest ih =>
    obtain ⟨passed, split, hidden⟩ := ih nothing
    exact ⟨padding start words :: passed, congrArg _ split, by simpa using hidden⟩
  | case3 w bytes rest => exact ⟨[], rfl, by simp⟩
  | case4 => cases nothing
  | case5 w e bytes rest unpublished ih =>
    obtain ⟨passed, split, hidden⟩ := ih nothing
    refine ⟨record ⟨w, some e⟩ bytes :: passed, congrArg _ split, fun v old mem => ?_⟩
    rcases List.mem_cons.mp mem with same | mem
    · obtain ⟨rfl, rfl⟩ := RingBlock.record.inj same
      exact ⟨e, rfl, by simpa using unpublished⟩
    · exact hidden v old mem

/-- Held blocks start with the first open record, or there is none. -/
theorem held_start {p q : Nat} {blocks : List RingBlock} (h : Tiles p q (held blocks)) :
    p = ((((records blocks).map Prod.fst).find? (·.ending.isNone)).map (·.window.start)).getD q := by
  fun_induction held blocks with
  | case1 => exact h
  | case2 start words rest ih => exact ih h
  | case3 w bytes rest => exact h.1.symm
  | case4 w e bytes rest ih => exact ih h

end RingBlock

namespace Ring
open RingBlock

variable {c : RingCapacity} {r : Ring c} {blocks : List RingBlock}

theorem nextWithin_of_waiting (waiting : r.front = .waiting) (passes : Nat) :
    r.nextWithin passes = (none, r) := by
  cases passes with
  | zero => rfl
  | succ passes => simp [nextWithin, waiting]

namespace Layout

/-- With enough passes for the blocks, more passes make no difference. -/
theorem nextWithin_congr (h : r.Layout blocks) {m n : Nat} (enough : blocks.length ≤ m)
    (enough' : blocks.length ≤ n) : r.nextWithin m = r.nextWithin n := by
  induction blocks generalizing r m n with
  | nil => rw [nextWithin_of_waiting h.front_nil, nextWithin_of_waiting h.front_nil]
  | cons b rest ih =>
    cases finished : b.header? with
    | none =>
      have waiting := h.front_open finished
      rw [nextWithin_of_waiting waiting, nextWithin_of_waiting waiting]
    | some header =>
      obtain ⟨m, rfl⟩ := Nat.exists_eq_add_one_of_ne_zero (Nat.ne_zero_of_lt enough)
      obtain ⟨n, rfl⟩ := Nat.exists_eq_add_one_of_ne_zero (Nat.ne_zero_of_lt enough')
      have front := h.front_finished finished
      cases discarded : header.discarded with
      | false => simp [Ring.nextWithin, front, discarded]
      | true =>
        have same := ih h.pass (Nat.le_of_succ_le_succ enough) (Nat.le_of_succ_le_succ enough')
        simpa [Ring.nextWithin, front, discarded] using same

/-- The words behind the consumer are zero, as far as they are not in use again. -/
theorem wordAt_passed (h : r.Layout blocks) {p : Nat} (passed : p < r.consumer)
    (recent : r.producer ≤ p + c.words) : r.wordAt p = 0 := by
  refine h.unused (slot p) fun q reserved before same => ?_
  have together : (p + (q - p)) % c.words = (p + 0) % c.words := by
    rw [Nat.add_sub_cancel' (by omega)]
    exact congrArg Fin.val same
  rw [add_mod_inj p (by omega) c.words_pos] at together
  omega

end Layout
end Ring

/-- Windows in front of those in the ring were finished, so the first open one is in the ring. -/
theorem Tracks.firstOpen? {c : RingCapacity} {s : RingSession c} {q past : List QueuedWindow}
    {gone : List Reservation} {blocks : List RingBlock} (h : Tracks s q gone past blocks) :
    s.firstOpen? =
      (((RingBlock.records blocks).map Prod.fst).find? (·.ending.isNone)).map (·.window) := by
  have finished : gone.find? (·.ending.isNone) = none := by
    refine List.find?_eq_none.mpr fun v mem => ?_
    have ended := (h.consumed v mem).1
    rwa [Option.isSome_iff_ne_none, Ne, ← Option.isNone_iff_eq_none] at ended
  rw [RingSession.firstOpen?, h.reservations, List.find?_append, finished, Option.none_or]

namespace RingSession
open RingBlock

variable {c : RingCapacity}

/-- Once the consumer is given nothing, it stands at the first open window, or at the producers'
position if there is none. It has passed only windows that were discarded or dropped, and zeroed all
words that it passed. Further passes would find nothing else. -/
theorem empty_answer_reclaims (actions : List RingAction)
    (nothing : (after c actions).ring.next.1 = none) :
    let s := after c actions
    let ring := s.ring.next.2
    ring.producer = s.ring.producer ∧
      ring.consumer = (s.firstOpen?.map (·.start)).getD ring.producer ∧
      (∀ v ∈ s.reservations, s.ring.consumer ≤ v.window.start → v.window.start < ring.consumer →
        v.ending = some .discard ∨ v.ending = some .drop) ∧
      (∀ p, s.ring.consumer ≤ p → p < ring.consumer → ring.wordAt p = 0) ∧
      (∀ passes, c.words ≤ passes → s.ring.nextWithin passes = s.ring.next) ∧
      (s.firstOpen? = none → ring.outstandingBytes = 0) := by
  intro s ring
  obtain ⟨q, gone, past, blocks, -, tracks⟩ := (tracks_fresh c).run actions
  change Tracks s q gone past blocks at tracks
  have layout := tracks.layout
  obtain ⟨found, left⟩ := layout.next
  have undelivered : (delivery blocks).1 = none := found.symm.trans nothing
  rw [(delivery_eq_none undelivered).2] at left
  change ring.Layout (held blocks) at left
  obtain ⟨passed, split, hidden⟩ := held_suffix undelivered
  have producer : ring.producer = s.ring.producer := Ring.nextWithin_producer s.ring c.words
  have consumer : ring.consumer = (s.firstOpen?.map (·.start)).getD ring.producer := by
    rw [tracks.firstOpen?, Option.map_map]
    exact held_start left.tiles
  refine ⟨producer, consumer, ?_, ?_, ?_, ?_⟩
  · intro v mem reserved reclaimed
    have live : v ∈ (records blocks).map Prod.fst := by
      rw [tracks.windows]
      exact List.mem_filter.mpr ⟨mem, decide_eq_true reserved⟩
    obtain ⟨⟨u, bytes⟩, among, rfl⟩ := List.mem_map.mp live
    have block := mem_of_mem_records among
    rw [split] at block
    rcases List.mem_append.mp block with block | block
    · obtain ⟨e, ended, unpublished⟩ := hidden _ _ block
      cases e with
      | commit => cases unpublished
      | discard => exact .inl ended
      | drop => exact .inr ended
    · exact absurd (left.tiles.bounds block).1 (Nat.not_le.mpr reclaimed)
  · intro p reserved reclaimed
    have bound := layout.outstanding_le
    exact left.wordAt_passed reclaimed (by omega)
  · intro passes enough
    exact layout.nextWithin_congr (Nat.le_trans layout.length_le enough) layout.length_le
  · intro closed
    rw [closed, Option.map_none, Option.getD_none] at consumer
    simp [Ring.outstandingBytes, consumer]

/-- A discarded record and the padding behind it are passed, and the consumer stands at the front of
the storage, where the open window is. -/
theorem empty_answer_passes_padding : ∃ (c : RingCapacity) (actions : List RingAction),
    c.words = 18 ∧ (after c actions).ring.consumer = 10 ∧
    (after c actions).ring.next.1 = none ∧ (after c actions).ring.next.2.consumer = 18 := by
  refine ⟨⟨18, by decide, by decide⟩,
    oneRecord 36 ++ [.reserve 12, .finish 1 .discard, .reserve 20], rfl, by decide +kernel,
    by decide +kernel, ?_⟩
  have opened : (after ⟨18, by decide, by decide⟩ (oneRecord 36 ++
      [.reserve 12, .finish 1 .discard, .reserve 20])).firstOpen? = some ⟨18, 20⟩ := by
    decide +kernel
  rw [(empty_answer_reclaims _ (by decide +kernel)).2.1, opened]
  rfl

end RingSession
end SyscallMeter
