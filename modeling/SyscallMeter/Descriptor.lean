import SyscallMeter.Octets

/-! The two records that describe buffers in a process: a buffer descriptor, and the part of a
message header that points to an array of them. Both are a pair of 64-bit words. -/
namespace SyscallMeter

namespace Octets

/-- Two 64-bit words, one after the other. -/
def ofWords (a b : UInt64) : Octets := ofNat 8 a.toNat ++ ofNat 8 b.toNat

/-- The two words at the start of a byte string. -/
def toWords (bytes : Octets) : UInt64 × UInt64 :=
  (UInt64.ofNat (toNat (bytes.take 8)), UInt64.ofNat (toNat ((bytes.drop 8).take 8)))

@[simp] theorem length_ofWords (a b : UInt64) : (ofWords a b).length = 16 := by simp [ofWords]

@[simp] theorem toWords_ofWords (a b : UInt64) : toWords (ofWords a b) = (a, b) := by
  have ha := a.toNat_lt
  have hb := b.toNat_lt
  simp [toWords, ofWords, List.take_of_length_le, toNat_ofNat, valuesOf, Nat.mod_eq_of_lt ha,
    Nat.mod_eq_of_lt hb]

end Octets

/-- One contiguous buffer of a process. -/
structure Descriptor where
  base : UInt64
  length : UInt64
  deriving DecidableEq, Repr

/-- Where a message keeps its descriptors, and how many it claims to have. -/
structure MessageHeader where
  array : UInt64
  count : UInt64
  deriving DecidableEq, Repr

namespace Descriptor

/-- Size in bytes, and so the stride of a descriptor array. -/
def size : Nat := 16

def encode (d : Descriptor) : Octets := Octets.ofWords d.base d.length

def decode (bytes : Octets) : Descriptor :=
  let words := Octets.toWords bytes
  ⟨words.1, words.2⟩

@[simp] theorem decode_encode (d : Descriptor) : decode d.encode = d := by
  simp [decode, encode]

end Descriptor

namespace MessageHeader

/-- Size in bytes of a header that stands alone. -/
def size : Nat := 56

/-- Size in bytes of a header in a batch, where the number of bytes sent follows it. -/
def stride : Nat := 64

/-- The array and its count stand this many bytes into a header. -/
def arrayOffset : Nat := 16

def encode (h : MessageHeader) : Octets := Octets.ofWords h.array h.count

def decode (bytes : Octets) : MessageHeader :=
  let words := Octets.toWords bytes
  ⟨words.1, words.2⟩

@[simp] theorem decode_encode (h : MessageHeader) : decode h.encode = h := by
  simp [decode, encode]

end MessageHeader

/-- An address a number of bytes further on, if there is one. -/
def offsetAddress? (base : UInt64) (offset : Nat) : Option UInt64 :=
  if base.toNat + offset < UInt64.size then some (UInt64.ofNat (base.toNat + offset)) else none

/-- Address of an element of an array, if it is an address at all. -/
def elementAddress? (base : UInt64) (index stride : Nat) : Option UInt64 :=
  offsetAddress? base (index * stride)

end SyscallMeter
