import SyscallMeter.Proofs.Ring.Refinement

/-! What the words of a ring are after any use of it. The reserved part splits into padding and
unconsumed windows, whose headers tell how far each has come, and the rest of the storage is
zero. -/
namespace SyscallMeter
open RingBlock

/-- Earlier blocks of a tiling end before later ones start. -/
theorem RingBlock.Tiles.sorted {p q : Nat} {blocks : List RingBlock} (h : Tiles p q blocks) :
    blocks.Pairwise fun a b => a.start + a.words ≤ b.start := by
  induction blocks generalizing p with
  | nil => exact .nil
  | cons b rest ih =>
    obtain ⟨start, tail⟩ := h
    refine List.pairwise_cons.mpr ⟨fun x mem => ?_, ih tail⟩
    have bounds := (tail.bounds mem).1
    omega

namespace Ring

variable {c : RingCapacity} {r s : Ring c} {blocks rest : List RingBlock}

/-- Every word is found within one lap. -/
theorem exists_slot_eq (p : Nat) (i : Fin c.words) : ∃ k < c.words, slot (p + k) = i := by
  have here := Nat.mod_lt p c.words_pos
  have there := i.isLt
  by_cases behind : p % c.words ≤ i
  · refine ⟨i - p % c.words, by omega, Fin.ext ?_⟩
    change (p + (i - p % c.words)) % c.words = i
    rw [add_mod_of_inside (by omega)]
    omega
  · refine ⟨c.words - p % c.words + i, by omega, Fin.ext ?_⟩
    change (p + (c.words - p % c.words + i)) % c.words = i
    rw [← Nat.add_assoc, next_lap_mod, Nat.mod_eq_of_lt there]

/-- The rings on which the consumer stands while it looks for the next record. -/
inductive Scan : Ring c → Ring c → Prop
  | here (r : Ring c) : Scan r r
  | skip {r s t : Ring c} (front : r.front = .skipped s) (rest : Scan s t) : Scan r t

/-- The header where the consumer stands, once it is ready, describes a record that ends within the
reserved part and, unless it is passed over, is not longer than the longest record. -/
def Readable (r : Ring c) : Prop :=
  r.consumer ≠ r.producer → (RingHeader.ofWord (r.wordAt r.consumer)).ready = true →
    r.consumer + footprintWords (RingHeader.ofWord (r.wordAt r.consumer)).length ≤ r.producer ∧
    ((RingHeader.ofWord (r.wordAt r.consumer)).discarded = false →
      (RingHeader.ofWord (r.wordAt r.consumer)).length ≤ maxRecordLength)

namespace Layout

theorem unused (h : r.Layout blocks) (i : Fin c.words)
    (outside : ∀ p, r.consumer ≤ p → p < r.producer → slot p ≠ i) : r.storage.get i = 0 := by
  obtain ⟨k, inside, rfl⟩ := exists_slot_eq r.consumer i
  have beyond : r.producer ≤ r.consumer + k := by
    by_contra short
    exact outside (r.consumer + k) (Nat.le_add_right _ _) (by omega) rfl
  have stop := h.extent_eq
  change r.wordAt (r.consumer + k) = 0
  rw [← getElem_lap r r.consumer k (by simpa using inside), List.getElem_of_eq h.lap_eq,
    List.getElem_append_right (by rw [length_flatMap_image h.fits]; omega), List.getElem_replicate]

theorem apart (h : r.Layout blocks) :
    blocks.Pairwise fun a b => ∀ i < a.words, ∀ j < b.words,
      (a.start + i) % c.words ≠ (b.start + j) % c.words := by
  have bound := h.outstanding_le
  refine h.tiles.sorted.imp_of_mem fun {a b} left right sorted i hi j hj => ?_
  have first := h.tiles.bounds left
  have second := h.tiles.bounds right
  have lap_i : a.start + i = r.consumer + (a.start + i - r.consumer) := by omega
  have lap_j : b.start + j = r.consumer + (b.start + j - r.consumer) := by omega
  rw [lap_i, lap_j, Ne, add_mod_inj r.consumer (by omega) (by omega)]
  omega

theorem wordAt_start (h : r.Layout blocks) {b : RingBlock} (mem : b ∈ blocks) :
    r.wordAt b.start = b.headerWord := by
  obtain ⟨front, back, rfl⟩ := List.append_of_mem mem
  have split : r.lap r.consumer = front.flatMap image ++ b.headerWord :: (b.body ++
      back.flatMap image ++ List.replicate (c.words - (r.producer - r.consumer)) 0) := by
    simpa [image] using h.lap_eq
  rw [h.start_eq]
  exact wordAt_of_lap split

theorem readable (h : r.Layout blocks) : r.Readable := by
  intro reserved ready
  match blocks with
  | [] => exact absurd h.tiles reserved
  | b :: rest =>
    have fits := h.fits b List.mem_cons_self
    have within := (h.tiles.bounds List.mem_cons_self).2
    have start : b.start = r.consumer := h.tiles.1
    obtain ⟨-, word⟩ := h.at_front
    rw [word] at ready ⊢
    cases finished : b.header? with
    | none =>
      rw [headerWord_of_open finished] at ready
      cases ready
    | some header =>
      obtain ⟨-, -, words, short⟩ := fits.header finished
      rw [ofWord_headerWord fits finished, words, ← start]
      exact ⟨within, short⟩

/-- A scan passes blocks from the front. -/
theorem scan (h : r.Layout blocks) (scan : Scan r s) : ∃ rest, s.Layout rest := by
  induction scan generalizing blocks with
  | here => exact ⟨blocks, h⟩
  | skip front _ ih =>
    match blocks with
    | [] => cases h.front_nil.symm.trans front
    | b :: rest =>
      cases finished : b.header? with
      | none => cases (h.front_open finished).symm.trans front
      | some header =>
        have found := (h.front_finished finished).symm.trans front
        split at found
        · cases found
          exact ih h.pass
        · cases found

end Layout
end Ring

namespace RingSession

variable {c : RingCapacity}

/-- What the ring of a session holds, which are these blocks. -/
structure Invariant (s : RingSession c) (blocks : List RingBlock) : Prop where
  consumer_le : s.ring.consumer ≤ s.ring.producer
  outstanding_le : s.ring.producer - s.ring.consumer ≤ c.words
  /-- A word that no reserved position is stored at is zero. -/
  unused : ∀ i : Fin c.words,
    (∀ p, s.ring.consumer ≤ p → p < s.ring.producer → Ring.slot p ≠ i) → s.ring.storage.get i = 0
  tiles : Tiles s.ring.consumer s.ring.producer blocks
  /-- The records are the unconsumed windows in the order of their reservations. -/
  windows : (records blocks).map Prod.fst =
    s.reservations.filter fun v => s.ring.consumer ≤ v.window.start
  padded : Padded blocks
  padding_end : ∀ start words, .padding start words ∈ blocks →
    0 < words ∧ start % c.words + words = c.words
  inside : ∀ b ∈ blocks, b.start % c.words + b.words ≤ c.words
  apart : blocks.Pairwise fun a b => ∀ i < a.words, ∀ j < b.words,
    (a.start + i) % c.words ≠ (b.start + j) % c.words
  open_header : ∀ w bytes, .record ⟨w, none⟩ bytes ∈ blocks → s.ring.wordAt w.start = 0
  finished_header : ∀ w e bytes, .record ⟨w, some e⟩ bytes ∈ blocks →
    s.ring.wordAt w.start = RingHeader.toWord ⟨w.length, true, !e.publishes⟩
  padding_header : ∀ start words, .padding start words ∈ blocks →
    ∃ length < lowestFlag, Ring.footprintWords length = words ∧
      s.ring.wordAt start = RingHeader.toWord ⟨length, true, true⟩
  /-- Whatever the consumer has to skip, it reads records that are in range. -/
  readable : ∀ t, Ring.Scan s.ring t → t.Readable

end RingSession

theorem Tracks.windows {c : RingCapacity} {s : RingSession c} {q past : List QueuedWindow}
    {gone : List Reservation} {blocks : List RingBlock} (h : Tracks s q gone past blocks) :
    (records blocks).map Prod.fst =
      s.reservations.filter fun v => s.ring.consumer ≤ v.window.start := by
  have consumed : gone.filter (fun v => decide (s.ring.consumer ≤ v.window.start)) = [] := by
    refine List.filter_eq_nil_iff.mpr fun v mem => ?_
    have before := (h.consumed v mem).2
    simpa using before
  have live : ∀ v ∈ (records blocks).map Prod.fst,
      decide (s.ring.consumer ≤ v.window.start) = true := by
    intro v mem
    obtain ⟨⟨u, bytes⟩, among, rfl⟩ := List.mem_map.mp mem
    have bounds := h.layout.tiles.bounds (mem_of_mem_records among)
    exact decide_eq_true bounds.1
  rw [h.reservations, List.filter_append, consumed, List.filter_eq_self.mpr live, List.nil_append]

/-- The representation invariant of the ring holds after any use of it. -/
theorem ring_invariant (c : RingCapacity) (actions : List RingAction) :
    ∃ blocks, (RingSession.after c actions).Invariant blocks := by
  obtain ⟨q, gone, past, blocks, -, tracks⟩ := (tracks_fresh c).run actions
  have layout := tracks.layout
  refine ⟨blocks, layout.consumer_le, layout.outstanding_le, layout.unused, layout.tiles,
    tracks.windows, tracks.padded, fun _ _ mem => layout.fits _ mem,
    fun b mem => (layout.fits b mem).inside, layout.apart, ?_, ?_, ?_, ?_⟩
  · intro w bytes mem
    exact layout.wordAt_start mem
  · intro w e bytes mem
    exact layout.wordAt_start mem
  · intro start words mem
    obtain ⟨-, small, footprint, -⟩ := (layout.fits _ mem).header rfl
    exact ⟨(words - 1) * 4, small, footprint, layout.wordAt_start mem⟩
  · intro t scan
    obtain ⟨rest, at_t⟩ := layout.scan scan
    exact at_t.readable

end SyscallMeter
