import SyscallMeter.Operation
import SyscallMeter.Octets

/-! One observed call and its six-byte record: the tag in two bytes, the length in four, both
little-endian. -/
namespace SyscallMeter

structure Event where
  op : Operation
  length : UInt32
  deriving DecidableEq, Repr

/-- Why a record is no event. -/
inductive DecodeError
  | truncated (size : Nat)
  | unknownTag (tag : UInt16)
  deriving DecidableEq, Repr

namespace Event

/-- Size of a record in bytes. -/
def recordSize : Nat := 6

def encode (e : Event) : Octets :=
  Octets.ofNat 2 e.op.tag.toNat ++ Octets.ofNat 4 e.length.toNat

/-- Bytes after the record are padding and carry no meaning. -/
def decode (bytes : Octets) : Except DecodeError Event :=
  if bytes.length < recordSize then .error (.truncated bytes.length)
  else
    let tag := UInt16.ofNat (Octets.toNat (bytes.take 2))
    match Operation.ofTag? tag with
    | none => .error (.unknownTag tag)
    | some op => .ok ⟨op, UInt32.ofNat (Octets.toNat ((bytes.drop 2).take 4))⟩

@[simp] theorem length_encode (e : Event) : e.encode.length = recordSize := by
  simp [encode, recordSize]

end Event

namespace DecodeError

def message : DecodeError → String
  | .truncated size => s!"record of {size} bytes is shorter than {Event.recordSize}"
  | .unknownTag tag => s!"unknown operation tag {tag.toNat}"

end DecodeError

end SyscallMeter
