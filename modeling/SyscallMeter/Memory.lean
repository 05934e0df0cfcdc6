import SyscallMeter.Descriptor

/-! The memory of a process as far as it is known: bytes that were written and not revoked since.
All else is unreadable. -/
namespace SyscallMeter

/-- One change to a memory. -/
inductive Memory.Change
  | put (start : UInt64) (data : Array UInt8)
  | revoke (start length : UInt64)
  deriving Repr

/-- The changes to a memory, the latest first. -/
structure Memory where
  changes : List Memory.Change
  deriving Repr

namespace Memory

def empty : Memory := ⟨[]⟩

/-- What a change says about one address: nothing, or its new content. Addresses are counted in 64
bits. What is put behind the last one goes on at the first one, and a range to revoke that ends
there has an end that is not behind its start, so that nothing is in it. -/
def Change.at? (address : UInt64) : Change → Option (Option UInt8)
  | put start data =>
    let offset := (address - start).toNat
    if offset < data.size then some data[offset]? else none
  | revoke start length =>
    if start ≤ address ∧ address < start + length then some none else none

/-- The latest change that says anything about an address decides. -/
def get? (m : Memory) (address : UInt64) : Option UInt8 :=
  (m.changes.findSome? (Change.at? address)).join

/-- A range is read if every byte of it is an address and readable. -/
def read? (m : Memory) (address : UInt64) : (length : Nat) → Option Octets
  | length => (List.range length).mapM fun offset => do m.get? (← offsetAddress? address offset)

def put (m : Memory) (start : UInt64) (data : Octets) : Memory :=
  ⟨.put start data.toArray :: m.changes⟩

def revoke (m : Memory) (start length : UInt64) : Memory :=
  ⟨.revoke start length :: m.changes⟩

/-- Descriptors of buffers that lie one after the other from `buffers` on. -/
def descriptors (buffers : UInt64) : List UInt64 → List Descriptor
  | [] => []
  | length :: rest => ⟨buffers, length⟩ :: descriptors (buffers + length) rest

def putDescriptors (m : Memory) (array : UInt64) (ds : List Descriptor) : Memory :=
  m.put array (ds.flatMap Descriptor.encode)

/-- An array of descriptors for buffers of the given lengths. -/
def putVector (m : Memory) (array buffers : UInt64) (lengths : List UInt64) : Memory :=
  m.putDescriptors array (descriptors buffers lengths)

/-- A message header of `size` bytes, zero but for its array and count. -/
def putHeader (m : Memory) (start : UInt64) (size : Nat) (h : MessageHeader) : Memory :=
  let before := List.replicate MessageHeader.arrayOffset 0
  let after := List.replicate (size - MessageHeader.arrayOffset - 16) 0
  m.put start (before ++ h.encode ++ after)

/-- A message header and the array it points to. -/
def putMessage (m : Memory) (header array buffers : UInt64) (lengths : List UInt64) : Memory :=
  (m.putHeader header MessageHeader.size ⟨array, UInt64.ofNat lengths.length⟩).putVector
    array buffers lengths

/-- Distance between the descriptor arrays of a batch. -/
def batchArrayStride : UInt64 := 0x1000

/-- Where the descriptor array of one entry of a batch is put. -/
def batchArray (arrays : UInt64) (entry : Nat) : UInt64 :=
  arrays + UInt64.ofNat entry * batchArrayStride

/-- The entries of a batch from number `entry` on: each a header in the array at `headers`, a
descriptor array of its own, and buffers half a stride behind it. -/
def putEntries (m : Memory) (headers arrays : UInt64) (entry : Nat) :
    List (List UInt64) → Memory
  | [] => m
  | lengths :: rest =>
    let start := headers + UInt64.ofNat (entry * MessageHeader.stride)
    let array := batchArray arrays entry
    let header : MessageHeader := ⟨array, UInt64.ofNat lengths.length⟩
    putEntries
      ((m.putHeader start MessageHeader.stride header).putVector
        array (array + batchArrayStride / 2) lengths)
      headers arrays (entry + 1) rest

/-- An array of message headers with all that they point to. -/
def putBatch (m : Memory) (headers arrays : UInt64) (entries : List (List UInt64)) : Memory :=
  m.putEntries headers arrays 0 entries

end Memory

end SyscallMeter
