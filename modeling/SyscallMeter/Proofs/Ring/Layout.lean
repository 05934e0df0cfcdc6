import SyscallMeter.Proofs.Ring.Block
import SyscallMeter.Proofs.Ring.Lap

/-! The layout of a ring: from the consumer on, the blocks that were reserved and not consumed, one
behind the other, and zeros everywhere else. Every use of a ring is a change of the list of
blocks. -/
namespace SyscallMeter
open RingBlock

namespace Ring

variable {c : RingCapacity} {r : Ring c}

/-- The ring holds exactly these blocks. -/
structure Layout (r : Ring c) (blocks : List RingBlock) : Prop where
  tiles : Tiles r.consumer r.producer blocks
  fits : ∀ b ∈ blocks, b.Fits c
  lap_eq : r.lap r.consumer =
    blocks.flatMap image ++ List.replicate (c.words - (r.producer - r.consumer)) 0

namespace Layout

theorem empty (c : RingCapacity) : (Ring.empty c).Layout [] where
  tiles := rfl
  fits := by simp
  lap_eq := by
    apply List.ext_getElem (by simp [Ring.empty])
    intro i hi _
    rw [getElem_lap]
    simp [wordAt, Ring.empty, Vector.get]

variable {blocks front back : List RingBlock} {b : RingBlock}

theorem extent_eq (h : r.Layout blocks) : extent blocks = r.producer - r.consumer := by
  have stop := h.tiles.extent
  omega

theorem consumer_le (h : r.Layout blocks) : r.consumer ≤ r.producer := by
  have stop := h.tiles.extent
  omega

/-- No more is reserved than the storage holds. -/
theorem outstanding_le (h : r.Layout blocks) : r.producer - r.consumer ≤ c.words := by
  have total := congrArg List.length h.lap_eq
  simp only [length_lap, List.length_append, length_flatMap_image h.fits, List.length_replicate,
    h.extent_eq] at total
  omega

/-- There are no more blocks than words. -/
theorem length_le (h : r.Layout blocks) : blocks.length ≤ c.words := by
  have few := length_le_extent h.fits
  have total := h.extent_eq
  have bound := h.outstanding_le
  omega

/-- The start of a block in the middle is as far from the consumer as the blocks before it take. -/
theorem start_eq (h : r.Layout (front ++ b :: back)) :
    b.start = r.consumer + (front.flatMap image).length := by
  have fits : ∀ x ∈ front, x.Fits c := fun x mem => h.fits x (List.mem_append_left _ mem)
  rw [length_flatMap_image fits]
  exact (tiles_append.mp h.tiles).2.1

/-- Where the consumer stands once only the last blocks are left. -/
theorem consumer_of_suffix {s : Ring c} (h : r.Layout (front ++ back)) (left : s.Layout back)
    (producer : s.producer = r.producer) : s.consumer = r.consumer + extent front := by
  have before := h.tiles.extent
  have after := left.tiles.extent
  rw [extent_append] at before
  omega

/-- The right to consume plays no part in the layout. -/
theorem of_cursors {s : Ring c} (h : r.Layout blocks) (storage : s.storage = r.storage)
    (producer : s.producer = r.producer) (consumer : s.consumer = r.consumer) :
    s.Layout blocks := by
  refine ⟨?_, h.fits, ?_⟩
  · rw [producer, consumer]
    exact h.tiles
  · rw [lap_congr storage, producer, consumer]
    exact h.lap_eq

/-- A block may be exchanged for another of the same place when the words of the storage are. -/
theorem replace {s : Ring c} {x : RingBlock} (h : r.Layout (front ++ b :: back))
    (start : x.start = b.start) (words : x.words = b.words) (fits : x.Fits c)
    (producer : s.producer = r.producer) (consumer : s.consumer = r.consumer)
    (stored : ∀ rest, r.lap r.consumer = front.flatMap image ++ b.image ++ rest →
      s.lap r.consumer = front.flatMap image ++ x.image ++ rest) :
    s.Layout (front ++ x :: back) := by
  refine ⟨?_, ?_, ?_⟩
  · have tiles := h.tiles
    rw [tiles_append] at tiles ⊢
    simpa only [Tiles, start, words, producer, consumer] using tiles
  · have all_fit := h.fits
    rw [List.forall_mem_append, List.forall_mem_cons] at all_fit ⊢
    exact ⟨all_fit.1, fits, all_fit.2.2⟩
  · have all := h.lap_eq
    simp only [List.flatMap_append, List.flatMap_cons, List.append_assoc] at all
    have new := stored _ (by rw [all, List.append_assoc])
    simpa only [producer, consumer, List.flatMap_append, List.flatMap_cons, List.append_assoc]
      using new

/-- Writing changes the bytes of the record and nothing else. -/
theorem write {v : Reservation} {old : Octets} (h : r.Layout (front ++ .record v old :: back))
    (bytes : Octets) :
    (r.write v.window bytes).Layout (front ++ .record v (old.overwrite bytes) :: back) := by
  have fits := h.fits (.record v old) (by simp)
  obtain ⟨size, short, inside⟩ := fits
  refine h.replace rfl rfl ⟨by simpa using size, short, inside⟩ (by simp [Ring.write])
    (by simp [Ring.write]) ?_
  intro rest all
  have start := h.start_eq
  have count : (wordsOf (bytes.take old.length)).length ≤ (wordsOf old).length := by
    simp only [length_wordsOf, payloadWords, List.length_take]
    omega
  have split : r.lap r.consumer =
      (front.flatMap image ++ [headerWord (.record v old)])
        ++ (wordsOf old).take (wordsOf (bytes.take old.length)).length
        ++ ((wordsOf old).drop (wordsOf (bytes.take old.length)).length ++ rest) := by
    rw [← List.append_assoc _ _ rest, List.append_assoc _ (List.take _ _), List.take_append_drop]
    simpa [image, body] using all
  have stored := lap_storeWords (wordsOf (bytes.take old.length)) split (by simpa using count)
  simp only [RingBlock.start] at start
  simp only [Ring.write, ← size, start, image, body, wordsOf_overwrite]
  simpa [headerWord, header?, ← Nat.add_assoc] using stored

/-- Ending a window writes the header of its record. -/
theorem finish {w : RingWindow} {bytes : Octets}
    (h : r.Layout (front ++ .record ⟨w, none⟩ bytes :: back)) (e : Ending) :
    (e.apply r w).Layout (front ++ .record ⟨w, some e⟩ bytes :: back) := by
  have fits := h.fits (.record ⟨w, none⟩ bytes) (by simp)
  rw [e.apply_eq]
  refine h.replace rfl rfl fits rfl rfl ?_
  intro rest all
  have start := h.start_eq
  have split : r.lap r.consumer = front.flatMap image ++
      headerWord (.record ⟨w, none⟩ bytes) :: (wordsOf bytes ++ rest) := by
    simpa [image, body] using all
  have stored := lap_setWord_append (RingHeader.toWord ⟨w.length, true, !e.publishes⟩) split
  simp only [RingBlock.start] at start
  simpa [setHeader, start, image, body, headerWord, header?] using stored

end Layout

/-- The blocks that a reservation adds. -/
def claims (r : Ring c) (length : Nat) : List RingBlock :=
  let pad := r.padding (footprintWords length)
  (if pad > 0 then [.padding r.producer pad] else []) ++
    [.record ⟨⟨r.producer + pad, length⟩, none⟩ (List.replicate length 0)]

theorem records_claims (r : Ring c) (length : Nat) :
    records (r.claims length) = [(⟨⟨r.producer + r.padding (footprintWords length), length⟩, none⟩,
      List.replicate length 0)] := by
  simp only [claims]
  split <;> simp

theorem claims_padded (r : Ring c) (length : Nat) : Padded (r.claims length) := by
  simp only [claims]
  split
  · rename_i some_room
    refine ⟨⟨_, _, [], rfl, ?_⟩, trivial⟩
    simp only [padding] at some_room ⊢
    split at some_room
    · rename_i beyond
      rwa [if_pos beyond]
    · omega
  · trivial

/-- Padding reaches the end of the storage, and the record behind it does not cross that. -/
theorem padding_inside (r : Ring c) {need : Nat} (small : need ≤ c.words) :
    (0 < r.padding need → r.producer % c.words + r.padding need = c.words) ∧
      (r.producer + r.padding need) % c.words + need ≤ c.words := by
  have below := Nat.mod_lt r.producer c.words_pos
  simp only [padding]
  split
  · have front := next_lap_mod (c := c) r.producer 0
    rw [Nat.add_zero, Nat.zero_mod] at front
    omega
  · simp only [Nat.add_zero]
    omega

theorem footprintWords_le {length : Nat} (short : length ≤ maxRecordLength) :
    footprintWords length ≤ c.words := by
  have room := c.holds_record
  simp only [footprintWords, payloadWords, maxRecordLength] at *
  omega

/-- A reservation is granted if its padding and its record fit behind what is outstanding. -/
theorem reserve?_eq_some {length : Nat} {w : RingWindow} {s : Ring c}
    (granted : r.reserve? length = some (w, s)) :
    length ≤ maxRecordLength ∧
      r.producer + r.padding (footprintWords length) + footprintWords length - r.consumer
        ≤ c.words ∧
      w = ⟨r.producer + r.padding (footprintWords length), length⟩ ∧
      s.producer = r.producer + r.padding (footprintWords length) + footprintWords length ∧
      s.consumer = r.consumer ∧ s.claimed = r.claimed ∧
      s.storage = (if r.padding (footprintWords length) > 0
        then r.setHeader r.producer ⟨(r.padding (footprintWords length) - 1) * 4, true, true⟩
        else r).storage := by
  simp only [reserve?] at granted
  split at granted
  · cases granted
  rename_i short
  split at granted
  · cases granted
  rename_i room
  obtain ⟨rfl, rfl⟩ := Prod.mk.inj (Option.some.inj granted)
  refine ⟨by omega, by omega, rfl, ?_⟩
  split <;> exact ⟨rfl, rfl, rfl, rfl⟩

/-- The blocks of a reservation are unused words as long as their window is open. -/
theorem image_claims {length : Nat} :
    (r.claims length).flatMap image =
      (if r.padding (footprintWords length) > 0
        then RingHeader.toWord ⟨(r.padding (footprintWords length) - 1) * 4, true, true⟩ ::
          List.replicate (r.padding (footprintWords length) - 1) 0
        else []) ++ List.replicate (footprintWords length) 0 := by
  have words : 0 :: wordsOf (List.replicate length 0) =
      List.replicate (footprintWords length) 0 := by
    rw [wordsOf_replicate_zero, footprintWords, Nat.add_comm, List.replicate_succ]
  simp only [claims]
  split <;> simp [image, body, headerWord, header?, words]

theorem tiles_claims (r : Ring c) (length : Nat) :
    Tiles r.producer (r.producer + r.padding (footprintWords length) + footprintWords length)
      (r.claims length) := by
  simp only [claims]
  split
  · simp [Tiles, RingBlock.start, RingBlock.words]
  · rename_i unpadded
    simpa [Tiles, RingBlock.start, RingBlock.words] using Nat.eq_zero_of_not_pos unpadded

theorem fits_claims (r : Ring c) {length : Nat} (short : length ≤ maxRecordLength) :
    ∀ b ∈ r.claims length, b.Fits c := by
  obtain ⟨full, inside⟩ := r.padding_inside (footprintWords_le (c := c) short)
  rw [claims, List.forall_mem_append, List.forall_mem_singleton]
  refine ⟨?_, List.length_replicate, short, inside⟩
  split
  · rename_i padded
    exact List.forall_mem_singleton.mpr ⟨padded, full padded⟩
  · exact List.forall_mem_nil _

/-- A granted reservation appends its blocks. -/
theorem Layout.reserve {blocks : List RingBlock} (h : r.Layout blocks) {length : Nat}
    {w : RingWindow} {s : Ring c} (granted : r.reserve? length = some (w, s)) :
    s.Layout (blocks ++ r.claims length) := by
  obtain ⟨short, room, rfl, producer, consumer, -, storage⟩ := reserve?_eq_some granted
  have order := h.consumer_le
  refine ⟨?_, List.forall_mem_append.mpr ⟨h.fits, r.fits_claims short⟩, ?_⟩
  · rw [tiles_append, consumer, producer, h.extent_eq, Nat.add_sub_cancel' order]
    exact ⟨h.tiles, r.tiles_claims length⟩
  · have at_end : r.consumer + (blocks.flatMap image).length = r.producer := by
      rw [length_flatMap_image h.fits, h.extent_eq]
      omega
    -- of the zeros behind the outstanding words some are claimed, and the rest stay
    have unused : c.words - (r.producer - r.consumer) = r.padding (footprintWords length) +
        footprintWords length + (c.words - (s.producer - s.consumer)) := by omega
    have lap := h.lap_eq
    rw [unused, ← List.replicate_append_replicate, ← List.replicate_append_replicate] at lap
    rw [lap_congr storage, List.flatMap_append, image_claims, consumer]
    rw [consumer] at lap
    split
    · rename_i padded
      obtain ⟨pad, more⟩ := Nat.exists_eq_add_one.mpr padded
      rw [more, List.replicate_succ] at lap
      have split : r.lap r.consumer = blocks.flatMap image ++ 0 :: (List.replicate pad 0 ++
          List.replicate (footprintWords length) 0 ++
          List.replicate (c.words - (s.producer - r.consumer)) 0) := by
        simpa using lap
      have stored := lap_setWord_append (RingHeader.toWord ⟨pad * 4, true, true⟩) split
      rw [at_end] at stored
      simpa [setHeader, more] using stored
    · rename_i unpadded
      have none_left : r.padding (footprintWords length) = 0 := Nat.eq_zero_of_not_pos unpadded
      simpa [none_left] using lap

end Ring
end SyscallMeter
