import SyscallMeter.Event
import SyscallMeter.Transport

/-! A ring of 32-bit words that carries records from probes to one consumer.

A record is a header word and its payload in whole words. It never wraps: where it does not fit
before the end of the storage, the rest of the storage becomes a discarded record and it starts
at the front. A header of 0 means "reserved and not finished"; the consumer zeroes all that it
passes, so a fresh window reads as unfinished. Records are delivered in the order of their
reservations, and an unfinished record holds back all behind it. -/
namespace SyscallMeter

/-- Largest payload of a record in bytes. -/
def maxRecordLength : Nat := 64

/-- Words that a payload takes. -/
def payloadWords (length : Nat) : Nat := (length + 3) / 4

/-- The lowest flag of a header word. Lengths stay below it. -/
abbrev lowestFlag : Nat := 0x40000000

/-- A number of words that a ring may have: one largest record fits, and a header can hold the
length of the whole storage. -/
structure RingCapacity where
  words : Nat
  holds_record : payloadWords maxRecordLength < words
  fits_header : words * 4 < lowestFlag
  deriving DecidableEq, Repr

namespace RingCapacity

def ofWords? (words : Nat) : Option RingCapacity :=
  if h : payloadWords maxRecordLength < words ∧ words * 4 < lowestFlag then some ⟨words, h.1, h.2⟩
  else none

theorem words_pos (c : RingCapacity) : 0 < c.words :=
  Nat.lt_of_le_of_lt (Nat.zero_le _) c.holds_record

end RingCapacity

/-- The header word of a record: a length and two flags. -/
structure RingHeader where
  length : Nat
  ready : Bool
  discarded : Bool
  deriving DecidableEq, Repr

namespace RingHeader

/-- The length in the low thirty bits, bit 30 for "ready", bit 31 for "discarded". -/
def toWord (h : RingHeader) : UInt32 :=
  UInt32.ofNat ((if h.discarded then 2 * lowestFlag else 0)
    + (if h.ready then lowestFlag else 0) + h.length)

def ofWord (w : UInt32) : RingHeader where
  length := w.toNat % lowestFlag
  ready := w.toNat / lowestFlag % 2 == 1
  discarded := w.toNat / lowestFlag / 2 == 1

theorem ofWord_toWord (h : RingHeader) (bound : h.length < lowestFlag) : ofWord h.toWord = h := by
  obtain ⟨length, ready, discarded⟩ := h
  have bound : length < 0x40000000 := bound
  cases ready <;> cases discarded <;>
    simp [ofWord, toWord, lowestFlag, UInt32.toNat_ofNat'] <;> omega

end RingHeader

/-- Positions count words from the start and never go back; position `p` is stored at
`p % words`. -/
structure Ring (c : RingCapacity) where
  storage : Vector UInt32 c.words
  /-- Where the next reservation starts. -/
  producer : Nat
  /-- Where the consumer goes on. -/
  consumer : Nat
  /-- Whether somebody holds the right to consume. -/
  claimed : Bool

/-- A reserved record that is not finished. -/
structure RingWindow where
  /-- Position of the header. -/
  start : Nat
  /-- Payload length in bytes. -/
  length : Nat
  deriving DecidableEq, Repr

namespace Ring

variable {c : RingCapacity}

def empty (c : RingCapacity) : Ring c := ⟨Vector.replicate c.words 0, 0, 0, false⟩

/-- Capacity in bytes, with headers and padding. -/
def capacityBytes (_ : Ring c) : Nat := c.words * 4

/-- Bytes reserved and not consumed. -/
def outstandingBytes (r : Ring c) : Nat := (r.producer - r.consumer) * 4

/-- Words that a record takes. -/
def footprintWords (length : Nat) : Nat := 1 + payloadWords length

/-- Bytes that a record takes. -/
def footprint (length : Nat) : Nat := footprintWords length * 4

def slot (position : Nat) : Fin c.words := ⟨position % c.words, Nat.mod_lt _ c.words_pos⟩

def wordAt (r : Ring c) (position : Nat) : UInt32 := r.storage.get (slot position)

def setWord (r : Ring c) (position : Nat) (w : UInt32) : Ring c :=
  { r with storage := r.storage.set (slot (c := c) position) w }

/-- Words claimed as padding, so that a record of `need` words does not cross the end. -/
def padding (r : Ring c) (need : Nat) : Nat :=
  let room := c.words - r.producer % c.words
  if need > room then room else 0

/-- Writes a header. -/
def setHeader (r : Ring c) (position : Nat) (h : RingHeader) : Ring c :=
  r.setWord position h.toWord

/-- Room for `length` bytes of payload in one piece, if there is that much. -/
def reserve? (r : Ring c) (length : Nat) : Option (RingWindow × Ring c) :=
  if length > maxRecordLength then none
  else
    let need := footprintWords length
    let pad := r.padding need
    let next := r.producer + pad + need
    if next - r.consumer > c.words then none
    else
      let claimed := { r with producer := next }
      let padded :=
        if pad > 0 then claimed.setHeader r.producer ⟨(pad - 1) * 4, true, true⟩ else claimed
      some (⟨r.producer + pad, length⟩, padded)

/-- Stores words from a position on. -/
def storeWords (r : Ring c) (position : Nat) : List UInt32 → Ring c
  | [] => r
  | w :: rest => (r.setWord position w).storeWords (position + 1) rest

/-- The words of a payload. The last one ends in zeros. -/
def wordsOf (bytes : Octets) : List UInt32 :=
  (List.range (payloadWords bytes.length)).map fun i =>
    UInt32.ofNat (Octets.toNat ((bytes.drop (4 * i)).take 4))

/-- Copies bytes to the front of the payload. Bytes past its end are ignored. -/
def write (r : Ring c) (w : RingWindow) (bytes : Octets) : Ring c :=
  r.storeWords (w.start + 1) (wordsOf (bytes.take w.length))

/-- Makes the record visible to the consumer. -/
def commit (r : Ring c) (w : RingWindow) : Ring c := r.setHeader w.start ⟨w.length, true, false⟩

/-- Gives the space back without publishing the record. -/
def discard (r : Ring c) (w : RingWindow) : Ring c := r.setHeader w.start ⟨w.length, true, true⟩

/-- The right to consume, unless somebody has it. -/
def claim? (r : Ring c) : Option (Ring c) :=
  if r.claimed then none else some { r with claimed := true }

def release (r : Ring c) : Ring c := { r with claimed := false }

/-- The bytes of the `words` words from a position on. -/
def loadBytes (r : Ring c) (position : Nat) : (words : Nat) → Octets
  | 0 => []
  | words + 1 =>
    Octets.ofNat 4 (r.wordAt position).toNat ++ r.loadBytes (position + 1) words

/-- The payload of the record at a position. -/
def payload (r : Ring c) (position length : Nat) : Octets :=
  (r.loadBytes (position + 1) (payloadWords length)).take length

/-- Zeroes the `words` words from a position on. -/
def clear (r : Ring c) (position : Nat) : (words : Nat) → Ring c
  | 0 => r
  | words + 1 => (r.setWord position 0).clear (position + 1) words

/-- What the consumer finds where it stands. -/
inductive Front (c : RingCapacity)
  /-- Nothing, or a record that is not finished. -/
  | waiting
  /-- A discarded record, now passed. -/
  | skipped (rest : Ring c)
  | record (bytes : Octets) (rest : Ring c)

/-- Passes the record where the consumer stands, if it is finished. -/
def front (r : Ring c) : Front c :=
  if r.consumer = r.producer then .waiting
  else
    let h := RingHeader.ofWord (r.wordAt r.consumer)
    if h.ready then
      let words := footprintWords h.length
      let rest := { r.clear r.consumer words with consumer := r.consumer + words }
      if h.discarded then .skipped rest else .record (r.payload r.consumer h.length) rest
    else .waiting

/-- Passes at most `passes` records, up to the first committed one. -/
def nextWithin (r : Ring c) : (passes : Nat) → Option Octets × Ring c
  | 0 => (none, r)
  | passes + 1 =>
    match r.front with
    | .waiting => (none, r)
    | .skipped rest => rest.nextWithin passes
    | .record bytes rest => (some bytes, rest)

/-- The next committed record. Every record takes a word, so there are at most as many to pass as
the ring has words. -/
def next (r : Ring c) : Option Octets × Ring c := r.nextWithin c.words

/-- At most `count` records that can be delivered now, and the ring without them. -/
def takeRecords (r : Ring c) : (count : Nat) → List Octets × Ring c
  | 0 => ([], r)
  | count + 1 =>
    match r.next with
    | (none, rest) => ([], rest)
    | (some bytes, rest) =>
      let (more, rest) := rest.takeRecords count
      (bytes :: more, rest)

/-- All records that can be delivered now, and the ring without them. -/
def drain (r : Ring c) : List Octets × Ring c := r.takeRecords (c.words + 1)

/-- The ring as a transport of events. -/
def transport (c : RingCapacity) : Transport (Ring c) RingWindow where
  reserve? _ r := r.reserve? Event.recordSize
  write w bytes r := (w, r.write w bytes)
  commit w r := r.commit w
  discard w r := r.discard w

end Ring

end SyscallMeter
