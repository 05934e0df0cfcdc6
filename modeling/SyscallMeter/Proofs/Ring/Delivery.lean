import SyscallMeter.Proofs.Ring.Layout

/-! What the consumer of a ring gets to see. It passes padding and discarded records, takes the
first committed record, and stops at the first one that is still open. -/
namespace SyscallMeter
namespace RingBlock

/-- What the consumer finds in the blocks where it stands, and what it leaves. -/
def delivery : List RingBlock → Option Octets × List RingBlock
  | [] => (none, [])
  | padding _ _ :: rest => delivery rest
  | record ⟨w, none⟩ bytes :: rest => (none, record ⟨w, none⟩ bytes :: rest)
  | record ⟨_, some e⟩ bytes :: rest =>
    if e.publishes then (some bytes, rest) else delivery rest

/-- The records that can be delivered: the committed ones in front of the first open one. -/
def deliverable : List RingBlock → List Octets
  | [] => []
  | padding _ _ :: rest => deliverable rest
  | record ⟨_, none⟩ _ :: _ => []
  | record ⟨_, some e⟩ bytes :: rest =>
    if e.publishes then bytes :: deliverable rest else deliverable rest

/-- The blocks from the first open record on. -/
def held : List RingBlock → List RingBlock
  | [] => []
  | padding _ _ :: rest => held rest
  | record ⟨w, none⟩ bytes :: rest => record ⟨w, none⟩ bytes :: rest
  | record ⟨_, some _⟩ _ :: rest => held rest

/-- Blocks behind an open record can not be delivered, and others are delivered in their order. -/
theorem deliverable_append {front back : List RingBlock} (complete : held front = []) :
    deliverable (front ++ back) = deliverable front ++ deliverable back := by
  fun_induction deliverable front with
  | case1 => rfl
  | case2 _ _ rest ih => exact ih complete
  | case3 => cases complete
  | case4 w e bytes rest published ih => simp [deliverable, published, ih complete]
  | case5 w e bytes rest hidden ih => simpa [deliverable, hidden] using ih complete

theorem held_append {front back : List RingBlock} (complete : held front = []) :
    held (front ++ back) = held back := by
  fun_induction held front with
  | case1 => rfl
  | case2 _ _ rest ih => exact ih complete
  | case3 => cases complete
  | case4 w e bytes rest ih => exact ih complete

/-- Nothing is found when nothing can be delivered, and then only held blocks are left. -/
theorem delivery_eq_none {blocks : List RingBlock} (h : (delivery blocks).1 = none) :
    deliverable blocks = [] ∧ (delivery blocks).2 = held blocks := by
  fun_induction delivery blocks with
  | case1 => exact ⟨rfl, rfl⟩
  | case2 _ _ rest ih => exact ih h
  | case3 w bytes rest => exact ⟨rfl, rfl⟩
  | case4 => cases h
  | case5 w e bytes rest hidden ih => simpa [deliverable, held, hidden] using ih h

/-- A found record is the first of those that can be delivered. -/
theorem delivery_eq_some {blocks : List RingBlock} {bytes : Octets}
    (h : (delivery blocks).1 = some bytes) :
    deliverable blocks = bytes :: deliverable (delivery blocks).2 ∧
      held (delivery blocks).2 = held blocks := by
  fun_induction delivery blocks with
  | case1 => cases h
  | case2 _ _ rest ih => exact ih h
  | case3 w bytes rest => cases h
  | case4 w e found rest published =>
    obtain rfl := Option.some.inj h
    simp [deliverable, held, published]
  | case5 w e found rest hidden ih => simpa [deliverable, held, hidden] using ih h

/-- The consumer passes blocks from the front, and only finished ones. -/
theorem delivery_suffix (blocks : List RingBlock) :
    ∃ passed, blocks = passed ++ (delivery blocks).2 ∧ ∀ b ∈ passed, b.header?.isSome := by
  fun_induction delivery blocks with
  | case1 => exact ⟨[], rfl, by simp⟩
  | case2 start words rest ih =>
    obtain ⟨passed, eq, finished⟩ := ih
    exact ⟨.padding start words :: passed, congrArg _ eq, by simpa [header?] using finished⟩
  | case3 w bytes rest => exact ⟨[], rfl, by simp⟩
  | case4 w e bytes rest published =>
    exact ⟨[.record ⟨w, some e⟩ bytes], rfl, by simp [header?]⟩
  | case5 w e bytes rest hidden ih =>
    obtain ⟨passed, eq, finished⟩ := ih
    exact ⟨.record ⟨w, some e⟩ bytes :: passed, congrArg _ eq, by
      simpa [header?] using finished⟩

end RingBlock

namespace Ring
open RingBlock

variable {c : RingCapacity} {r : Ring c} {b : RingBlock} {rest blocks : List RingBlock}

/-- The ring after the consumer has passed some words. -/
def pass (r : Ring c) (words : Nat) : Ring c :=
  { r.clear r.consumer words with consumer := r.consumer + words }

@[simp] theorem clear_producer (r : Ring c) (p words : Nat) :
    (r.clear p words).producer = r.producer := by
  rw [clear_eq_storeWords, storeWords_producer]

/-- The consumer waits or passes some words. -/
theorem front_cases (r : Ring c) :
    r.front = .waiting ∨ ∃ words,
      r.front = .skipped (r.pass words) ∨ ∃ bytes, r.front = .record bytes (r.pass words) := by
  simp only [front]
  split
  · exact .inl rfl
  split
  · refine .inr ⟨footprintWords (RingHeader.ofWord (r.wordAt r.consumer)).length, ?_⟩
    split
    · exact .inl rfl
    · exact .inr ⟨_, rfl⟩
  · exact .inl rfl

/-- The consumer does not move the cursor of the producers. -/
theorem nextWithin_producer (r : Ring c) (passes : Nat) :
    (r.nextWithin passes).2.producer = r.producer := by
  induction passes generalizing r with
  | zero => rfl
  | succ passes ih =>
    rcases r.front_cases with waiting | ⟨words, skipped | ⟨bytes, found⟩⟩
    · simp [nextWithin, waiting]
    · simp [nextWithin, skipped, ih, pass]
    · simp [nextWithin, found, pass]

namespace Layout

/-- Passing the first block leaves the others. -/
theorem pass (h : r.Layout (b :: rest)) : (r.pass b.words).Layout rest := by
  have fits := h.fits b List.mem_cons_self
  have stop := h.outstanding_le
  have total := h.extent_eq
  have cursors : (r.pass b.words).producer = r.producer := by simp [Ring.pass]
  rw [extent_cons] at total
  refine ⟨?_, fun x mem => h.fits x (List.mem_cons_of_mem _ mem), ?_⟩
  · rw [cursors]
    exact h.tiles.2
  · have split : r.lap r.consumer = [] ++ b.image ++ (rest.flatMap image ++
        List.replicate (c.words - (r.producer - r.consumer)) 0) := by
      simpa using h.lap_eq
    -- the words of the block become zeros, which the next lap has at its end
    have cleared := lap_storeWords (List.replicate b.words 0) split
      (by rw [fits.length_image, List.length_replicate])
    have rotated := lap_rotate (by simpa using cleared)
    rw [List.length_replicate] at rotated
    have unused : c.words - (r.producer - (r.consumer + b.words)) =
        c.words - (r.producer - r.consumer) + b.words := by omega
    rw [cursors]
    change (r.pass b.words).lap (r.consumer + b.words) = _
    rw [show (r.pass b.words).consumer = r.consumer + b.words from rfl, unused,
      ← List.replicate_append_replicate, ← List.append_assoc, ← rotated]
    exact lap_congr (by simp [Ring.pass, clear_eq_storeWords]) _

theorem front_nil (h : r.Layout []) : r.front = .waiting := by
  have empty : r.consumer = r.producer := h.tiles
  simp [front, empty]

/-- The consumer does not stand at its limit while a block is left, and reads the header of that
block. -/
theorem at_front (h : r.Layout (b :: rest)) :
    r.consumer ≠ r.producer ∧ r.wordAt r.consumer = b.headerWord := by
  have pos := (h.fits b List.mem_cons_self).words_pos
  have total := h.extent_eq
  rw [extent_cons] at total
  have split : r.lap r.consumer = [] ++ b.headerWord :: (b.body ++ rest.flatMap image ++
      List.replicate (c.words - (r.producer - r.consumer)) 0) := by
    simpa [image] using h.lap_eq
  exact ⟨by omega, wordAt_of_lap split⟩

theorem front_open (h : r.Layout (b :: rest)) (unfinished : b.header? = none) :
    r.front = .waiting := by
  obtain ⟨reserved, word⟩ := h.at_front
  simp [front, reserved, word, headerWord_of_open unfinished, RingHeader.ofWord]

/-- A finished block is passed, and its payload is read if it was published. -/
theorem front_finished {header : RingHeader} (h : r.Layout (b :: rest))
    (finished : b.header? = some header) :
    r.front = if header.discarded then .skipped (r.pass b.words)
      else .record (r.payload r.consumer header.length) (r.pass b.words) := by
  have fits := h.fits b List.mem_cons_self
  obtain ⟨reserved, word⟩ := h.at_front
  obtain ⟨ready, -, words, -⟩ := fits.header finished
  simp [front, reserved, word, ofWord_headerWord fits finished, ready, words, Ring.pass]

/-- The payload of a record are the bytes written to it. -/
theorem payload_eq {v : Reservation} {bytes : Octets} (h : r.Layout (.record v bytes :: rest)) :
    r.payload r.consumer v.window.length = bytes := by
  obtain ⟨size, -, -⟩ := h.fits (.record v bytes) List.mem_cons_self
  have split : r.lap r.consumer = [headerWord (.record v bytes)] ++ wordsOf bytes ++
      (rest.flatMap image ++ List.replicate (c.words - (r.producer - r.consumer)) 0) := by
    simpa [image, body] using h.lap_eq
  have loaded := loadBytes_of_lap split
  simp only [List.length_singleton, length_wordsOf] at loaded
  rw [payload, ← size, loaded, take_bytes_wordsOf]

/-- Every pass takes a block, so as many passes as there are blocks find what there is to find. -/
theorem nextWithin (h : r.Layout blocks) {passes : Nat} (enough : blocks.length ≤ passes) :
    (r.nextWithin passes).1 = (delivery blocks).1 ∧
      (r.nextWithin passes).2.Layout (delivery blocks).2 := by
  induction passes generalizing r blocks with
  | zero =>
    obtain rfl := List.length_eq_zero_iff.mp (Nat.le_zero.mp enough)
    exact ⟨rfl, h⟩
  | succ passes ih =>
    match blocks with
    | [] => simpa [Ring.nextWithin, h.front_nil, delivery] using h
    | .padding start words :: rest =>
      have front := h.front_finished rfl
      simpa [Ring.nextWithin, front, delivery] using ih h.pass (Nat.le_of_succ_le_succ enough)
    | .record ⟨w, none⟩ bytes :: rest =>
      have front := h.front_open rfl
      simpa [Ring.nextWithin, front, delivery] using h
    | .record ⟨w, some e⟩ bytes :: rest =>
      have front := h.front_finished rfl
      have payload := h.payload_eq
      cases published : e.publishes with
      | true => simpa [Ring.nextWithin, front, delivery, published, payload] using h.pass
      | false =>
        simpa [Ring.nextWithin, front, delivery, published] using
          ih h.pass (Nat.le_of_succ_le_succ enough)

/-- The consumer finds what the blocks say. Its passes are as many as the ring has words, which is
enough. -/
theorem next (h : r.Layout blocks) :
    r.next.1 = (delivery blocks).1 ∧ r.next.2.Layout (delivery blocks).2 :=
  h.nextWithin h.length_le

/-- Taking more records than there are gives all that can be delivered. -/
theorem takeRecords (h : r.Layout blocks) {count : Nat}
    (enough : (deliverable blocks).length < count) :
    (r.takeRecords count).1 = deliverable blocks ∧
      (r.takeRecords count).2.Layout (held blocks) := by
  induction count generalizing r blocks with
  | zero => omega
  | succ count ih =>
    obtain ⟨found, left⟩ := h.next
    rcases hr : r.next with ⟨record, s⟩
    rw [hr] at found left
    cases record with
    | none =>
      obtain ⟨nothing, rest⟩ := delivery_eq_none found.symm
      rw [rest] at left
      simpa [Ring.takeRecords, hr, nothing] using left
    | some bytes =>
      obtain ⟨first, same⟩ := delivery_eq_some found.symm
      rw [first, List.length_cons] at enough
      obtain ⟨others, rest⟩ := ih left (Nat.lt_of_succ_lt_succ enough)
      rw [same] at rest
      simp [Ring.takeRecords, hr, others, first, rest]

theorem length_deliverable_le (blocks : List RingBlock) :
    (deliverable blocks).length ≤ blocks.length := by
  fun_induction deliverable blocks with
  | case1 => simp
  | case2 _ _ rest ih => exact Nat.le_succ_of_le ih
  | case3 => simp
  | case4 w e bytes rest published ih => exact Nat.succ_le_succ ih
  | case5 w e bytes rest hidden ih => exact Nat.le_succ_of_le ih

/-- Draining a ring gives the committed records in front of the first open one. -/
theorem drain (h : r.Layout blocks) :
    r.drain.1 = deliverable blocks ∧ r.drain.2.Layout (held blocks) := by
  have fewer := length_deliverable_le blocks
  exact h.takeRecords (Nat.lt_succ_of_le (Nat.le_trans fewer h.length_le))

end Layout
end Ring
end SyscallMeter
