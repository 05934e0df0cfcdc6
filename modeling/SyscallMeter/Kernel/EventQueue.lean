import SyscallMeter.Octets

/-! The kernel's ring of event records, as a queue of entries with a bound on the bytes that they
take. Entries keep the order of their reservations; discarded ones are passed by the reader. -/
namespace SyscallMeter.Kernel

namespace EventQueue

/-- A finished record. -/
structure Entry where
  bytes : Octets
  discarded : Bool
  deriving DecidableEq, Repr

/-- Bytes that a record takes: an eight-byte header and the record, in whole eights. -/
def footprint (length : Nat) : Nat := (length + 8 + 7) / 8 * 8

end EventQueue

open EventQueue in
structure EventQueue where
  /-- Bytes of the ring. -/
  size : Nat
  /-- Bytes taken. -/
  used : Nat
  /-- The oldest entries, in order. -/
  front : List Entry
  /-- The entries after those, the newest first. -/
  back : List Entry

namespace EventQueue

def empty (size : Nat) : EventQueue := ⟨size, 0, [], []⟩

/-- All entries in order. -/
def toList (q : EventQueue) : List Entry := q.front ++ q.back.reverse

/-- Takes the bytes of a record, if they are left. The ring is never filled to its last byte. -/
def reserve? (q : EventQueue) (length : Nat) : Option EventQueue :=
  if q.used + footprint length > q.size - 1 then none
  else some { q with used := q.used + footprint length }

/-- Adds a record whose bytes are taken already. -/
def finish (q : EventQueue) (e : Entry) : EventQueue := { q with back := e :: q.back }

/-- Adds a record that asked for no room. -/
def inject (q : EventQueue) (bytes : Octets) : EventQueue :=
  { q with used := q.used + footprint bytes.length, back := ⟨bytes, false⟩ :: q.back }

/-- Takes out the oldest entry. -/
def pop? (q : EventQueue) : Option (Entry × EventQueue) :=
  match q.front, q.back.reverse with
  | e :: rest, _ => some (e, { q with front := rest, used := q.used - footprint e.bytes.length })
  | [], e :: rest =>
    some (e, { q with front := rest, back := [], used := q.used - footprint e.bytes.length })
  | [], [] => none

/-- The next record that was not discarded, among the next `count` entries. -/
def nextWithin (q : EventQueue) : (count : Nat) → Option Octets × EventQueue
  | 0 => (none, q)
  | count + 1 =>
    match q.pop? with
    | none => (none, q)
    | some (e, rest) => if e.discarded then rest.nextWithin count else (some e.bytes, rest)

def entries (q : EventQueue) : Nat := q.front.length + q.back.length

/-- The next record that was not discarded. -/
def next (q : EventQueue) : Option Octets × EventQueue := q.nextWithin q.entries

/-- At most `count` records, and the queue without them. -/
def takeRecords (q : EventQueue) : (count : Nat) → List Octets × EventQueue
  | 0 => ([], q)
  | count + 1 =>
    match q.pop? with
    | none => ([], q)
    | some (e, rest) =>
      let (more, rest) := rest.takeRecords count
      (if e.discarded then more else e.bytes :: more, rest)

/-- All records that were not discarded, and the queue without any entry. -/
def drain (q : EventQueue) : List Octets × EventQueue := q.takeRecords q.entries

theorem toList_finish (q : EventQueue) (e : Entry) : (q.finish e).toList = q.toList ++ [e] := by
  simp [toList, finish]

/-- Taking out an entry takes the first one. -/
theorem toList_pop {q rest : EventQueue} {e : Entry} (popped : q.pop? = some (e, rest)) :
    q.toList = e :: rest.toList := by
  unfold pop? at popped
  split at popped
  · rename_i front
    cases popped
    simp [toList, front]
  · rename_i front back
    cases popped
    simp [toList, front, back]
  · cases popped

end EventQueue

end SyscallMeter.Kernel
