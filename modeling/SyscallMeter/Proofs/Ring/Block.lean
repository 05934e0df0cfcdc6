import Mathlib.Algebra.GroupWithZero.Nat
import SyscallMeter.Proofs.Payload

/-! What the reserved part of a ring consists of: the records of windows and the padding in front
of records that did not fit before the end of the storage. -/
namespace SyscallMeter

/-- How a producer ends a window. -/
inductive Ending
  | commit
  | discard
  /-- The window is let go unfinished, which discards it. -/
  | drop
  deriving DecidableEq, Repr

namespace Ending

def publishes : Ending → Bool
  | commit => true
  | discard | drop => false

def apply {c : RingCapacity} (e : Ending) (r : Ring c) (w : RingWindow) : Ring c :=
  match e with
  | commit => r.commit w
  | discard | drop => r.discard w

theorem apply_eq {c : RingCapacity} (e : Ending) (r : Ring c) (w : RingWindow) :
    e.apply r w = r.setHeader w.start ⟨w.length, true, !e.publishes⟩ := by cases e <;> rfl

end Ending

/-- A window that was handed out, and how it was ended, if it was. -/
structure Reservation where
  window : RingWindow
  ending : Option Ending
  deriving DecidableEq, Repr

/-- A stretch of words that a reservation claimed. -/
inductive RingBlock
  /-- The rest of the storage, where the next record did not fit. -/
  | padding (start words : Nat)
  /-- A record and what has been written to it so far. -/
  | record (v : Reservation) (bytes : Octets)

namespace RingBlock
open SyscallMeter.Ring

def start : RingBlock → Nat
  | padding start _ => start
  | record v _ => v.window.start

def words : RingBlock → Nat
  | padding _ words => words
  | record v _ => footprintWords v.window.length

/-- The header that the consumer finds, once the block is finished. -/
def header? : RingBlock → Option RingHeader
  | padding _ words => some ⟨(words - 1) * 4, true, true⟩
  | record v _ => v.ending.map fun e => ⟨v.window.length, true, !e.publishes⟩

def headerWord (b : RingBlock) : UInt32 := (b.header?.map RingHeader.toWord).getD 0

/-- The words behind the header. -/
def body : RingBlock → List UInt32
  | padding _ words => List.replicate (words - 1) 0
  | record _ bytes => wordsOf bytes

/-- All words of the block. -/
def image (b : RingBlock) : List UInt32 := b.headerWord :: b.body

/-- The records among blocks, with what has been written to them. -/
def records : List RingBlock → List (Reservation × Octets)
  | [] => []
  | padding _ _ :: rest => records rest
  | record v bytes :: rest => (v, bytes) :: records rest

@[simp] theorem records_nil : records [] = [] := rfl

@[simp] theorem records_padding (start words : Nat) (rest : List RingBlock) :
    records (padding start words :: rest) = records rest := rfl

@[simp] theorem records_record (v : Reservation) (bytes : Octets) (rest : List RingBlock) :
    records (record v bytes :: rest) = (v, bytes) :: records rest := rfl

@[simp] theorem records_append (front back : List RingBlock) :
    records (front ++ back) = records front ++ records back := by
  induction front with
  | nil => rfl
  | cons b rest ih => cases b <;> simp [ih]

theorem mem_of_mem_records {blocks : List RingBlock} {v : Reservation} {bytes : Octets}
    (mem : (v, bytes) ∈ records blocks) : record v bytes ∈ blocks := by
  induction blocks with
  | nil => cases mem
  | cons b rest ih =>
    cases b with
    | padding start words => exact List.mem_cons_of_mem _ (ih mem)
    | record u old =>
      rcases List.mem_cons.mp mem with same | mem
      · obtain ⟨rfl, rfl⟩ := Prod.mk.inj same
        exact List.mem_cons_self
      · exact List.mem_cons_of_mem _ (ih mem)

/-- A numbered record is a block with as many records before it. -/
theorem exists_of_getElem?_records {blocks : List RingBlock} {number : Nat} {v : Reservation}
    {bytes : Octets} (found : (records blocks)[number]? = some (v, bytes)) :
    ∃ front back, blocks = front ++ record v bytes :: back ∧ (records front).length = number := by
  induction blocks generalizing number with
  | nil => cases found
  | cons b rest ih =>
    cases b with
    | padding start words =>
      obtain ⟨front, back, rfl, count⟩ := ih found
      exact ⟨padding start words :: front, back, rfl, count⟩
    | record u old =>
      cases number with
      | zero =>
        obtain ⟨rfl, rfl⟩ := Prod.mk.inj (Option.some.inj found)
        exact ⟨[], rest, rfl, rfl⟩
      | succ number =>
        obtain ⟨front, back, rfl, count⟩ := ih found
        exact ⟨record u old :: front, back, rfl, congrArg Nat.succ count⟩

/-- The block lies in the storage in one piece: padding reaches its end, and a record does not
cross it. -/
def Fits (c : RingCapacity) : RingBlock → Prop
  | padding start words => 0 < words ∧ start % c.words + words = c.words
  | record v bytes => bytes.length = v.window.length ∧ v.window.length ≤ maxRecordLength ∧
      v.window.start % c.words + footprintWords v.window.length ≤ c.words

variable {c : RingCapacity}

theorem Fits.inside {b : RingBlock} (h : b.Fits c) : b.start % c.words + b.words ≤ c.words := by
  cases b with
  | padding start words => exact Nat.le_of_eq h.2
  | record v bytes => exact h.2.2

theorem Fits.words_pos {b : RingBlock} (h : b.Fits c) : 0 < b.words := by
  cases b with
  | padding start words => exact h.1
  | record v bytes =>
    simp only [words, footprintWords]
    omega

theorem Fits.length_image {b : RingBlock} (h : b.Fits c) : b.image.length = b.words := by
  cases b with
  | padding start words =>
    have pos : 0 < words := h.1
    simp only [image, body, RingBlock.words, List.length_cons, List.length_replicate]
    omega
  | record v bytes =>
    simp only [image, body, words, footprintWords, List.length_cons, length_wordsOf, h.1]
    omega

/-- A finished header tells the extent of its block, and only published records are taken for
payload, so that no payload is longer than the longest record. -/
theorem Fits.header {b : RingBlock} {h : RingHeader} (fits : b.Fits c)
    (finished : b.header? = some h) :
    h.ready = true ∧ h.length < lowestFlag ∧ footprintWords h.length = b.words ∧
      (h.discarded = false → h.length ≤ maxRecordLength) := by
  have small := c.fits_header
  cases b with
  | padding start words =>
    obtain ⟨pos, full⟩ := fits
    cases finished
    refine ⟨rfl, ?_, ?_, by simp⟩
    · simp only [lowestFlag] at small ⊢
      omega
    · simp only [footprintWords, payloadWords, RingBlock.words]
      omega
  | record v bytes =>
    obtain ⟨e, _, rfl⟩ := Option.map_eq_some_iff.mp finished
    have short : v.window.length ≤ 64 := fits.2.1
    refine ⟨rfl, ?_, rfl, fun _ => fits.2.1⟩
    simp only [lowestFlag]
    omega

theorem ofWord_headerWord {b : RingBlock} {h : RingHeader} (fits : b.Fits c)
    (finished : b.header? = some h) : RingHeader.ofWord b.headerWord = h := by
  simp only [headerWord, finished, Option.map_some, Option.getD_some]
  exact RingHeader.ofWord_toWord h (fits.header finished).2.1

/-- An open record still has the zero that the consumer left. -/
theorem headerWord_of_open {b : RingBlock} (unfinished : b.header? = none) : b.headerWord = 0 := by
  simp [headerWord, unfinished]

/-- Words that blocks take together. -/
def extent (blocks : List RingBlock) : Nat := (blocks.map words).sum

@[simp] theorem extent_nil : extent [] = 0 := rfl

@[simp] theorem extent_cons (b : RingBlock) (blocks : List RingBlock) :
    extent (b :: blocks) = b.words + extent blocks := by simp [extent]

@[simp] theorem extent_append (front back : List RingBlock) :
    extent (front ++ back) = extent front + extent back := by simp [extent]

/-- Blocks one after the other from one position to another. -/
def Tiles : Nat → Nat → List RingBlock → Prop
  | p, q, [] => p = q
  | p, q, b :: rest => b.start = p ∧ Tiles (p + b.words) q rest

theorem Tiles.extent {p q : Nat} {blocks : List RingBlock} (h : Tiles p q blocks) :
    q = p + extent blocks := by
  induction blocks generalizing p with
  | nil => exact h.symm
  | cons b rest ih =>
    have tail := ih h.2
    simp only [extent_cons]
    omega

theorem tiles_append {p q : Nat} {front back : List RingBlock} :
    Tiles p q (front ++ back) ↔
      Tiles p (p + RingBlock.extent front) front ∧ Tiles (p + RingBlock.extent front) q back := by
  induction front generalizing p with
  | nil => simp [Tiles]
  | cons b rest ih =>
    simp only [List.cons_append, Tiles, ih, extent_cons, Nat.add_assoc, and_assoc]

/-- Every block of a tiling lies between its ends. -/
theorem Tiles.bounds {p q : Nat} {blocks : List RingBlock} (h : Tiles p q blocks) {b : RingBlock}
    (mem : b ∈ blocks) : p ≤ b.start ∧ b.start + b.words ≤ q := by
  obtain ⟨front, back, rfl⟩ := List.append_of_mem mem
  obtain ⟨_, start, tail⟩ := tiles_append.mp h
  have stop := tail.extent
  omega

theorem length_flatMap_image {blocks : List RingBlock} (fits : ∀ b ∈ blocks, b.Fits c) :
    (blocks.flatMap image).length = extent blocks := by
  induction blocks with
  | nil => rfl
  | cons b rest ih =>
    simp only [List.flatMap_cons, List.length_append, extent_cons,
      (fits b List.mem_cons_self).length_image,
      ih fun b mem => fits b (List.mem_cons_of_mem _ mem)]

/-- Every block takes a word, so there are no more blocks than words. -/
theorem length_le_extent {blocks : List RingBlock} (fits : ∀ b ∈ blocks, b.Fits c) :
    blocks.length ≤ extent blocks := by
  induction blocks with
  | nil => exact Nat.le_refl _
  | cons b rest ih =>
    have first := (fits b List.mem_cons_self).words_pos
    have others := ih fun b mem => fits b (List.mem_cons_of_mem _ mem)
    simp only [List.length_cons, extent_cons]
    omega

/-- Padding stands only in front of a record that is longer than it, which did not fit there. -/
def Padded : List RingBlock → Prop
  | [] => True
  | padding _ words :: rest =>
    (∃ v bytes back, rest = record v bytes :: back ∧ words < footprintWords v.window.length) ∧
      Padded rest
  | record _ _ :: rest => Padded rest

theorem Padded.append {front back : List RingBlock} (h : Padded front) (h' : Padded back) :
    Padded (front ++ back) := by
  induction front with
  | nil => exact h'
  | cons b front ih =>
    cases b with
    | padding start words =>
      obtain ⟨⟨v, bytes, more, rfl, longer⟩, rest⟩ := h
      exact ⟨⟨v, bytes, more ++ back, rfl, longer⟩, ih rest⟩
    | record v bytes => exact ih h

theorem Padded.suffix {front back : List RingBlock} (h : Padded (front ++ back)) :
    Padded back := by
  induction front with
  | nil => exact h
  | cons b front ih =>
    cases b with
    | padding start words => exact ih h.2
    | record v bytes => exact ih h

/-- What is written to a window and how it is ended plays no part. -/
theorem Padded.exchange {front back : List RingBlock} {u v : Reservation} {old : Octets}
    (h : Padded (front ++ record u old :: back)) (same : v.window = u.window) (new : Octets) :
    Padded (front ++ record v new :: back) := by
  induction front with
  | nil => exact h
  | cons b front ih =>
    cases b with
    | padding start words =>
      obtain ⟨⟨x, bytes, more, next, longer⟩, rest⟩ := h
      refine ⟨?_, ih rest⟩
      cases front with
      | nil =>
        obtain ⟨first, -⟩ := List.cons.inj next
        obtain ⟨rfl, -⟩ := RingBlock.record.inj first
        exact ⟨v, new, back, rfl, by rwa [same]⟩
      | cons y front =>
        obtain ⟨rfl, -⟩ := List.cons.inj next
        exact ⟨x, bytes, _, rfl, longer⟩
    | record x bytes => exact ih h

end RingBlock

end SyscallMeter
