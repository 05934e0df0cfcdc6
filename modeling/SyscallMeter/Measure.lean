import SyscallMeter.Access
import SyscallMeter.Operation
import SyscallMeter.Policy

/-! How many bytes a call asks to move. The length is an argument, or the sum over one descriptor
array, or the sum over a batch of messages. Arrays and batches are read up to a fixed bound, and
sums stop at the largest 32-bit number. -/
namespace SyscallMeter

namespace Length

/-- A 64-bit length, cut at the largest 32-bit number. -/
def clamp (n : UInt64) : UInt32 := UInt32.ofNat (min n.toNat (UInt32.size - 1))

/-- The sum, cut at the largest 32-bit number. -/
def add (m n : UInt32) : UInt32 := UInt32.ofNat (min (m.toNat + n.toNat) (UInt32.size - 1))

theorem toNat_clamp (n : UInt64) : (clamp n).toNat = min n.toNat (UInt32.size - 1) := by
  simp only [clamp, UInt32.toNat_ofNat', UInt32.size]
  omega

theorem toNat_add (m n : UInt32) : (add m n).toNat = min (m.toNat + n.toNat) (UInt32.size - 1) := by
  simp only [add, UInt32.toNat_ofNat', UInt32.size]
  omega

end Length

namespace Measure

/-- Descriptors read of one array. -/
def maxDescriptors : Nat := 32

/-- Entries read of one batch. -/
def maxEntries : Nat := 8

/-- Adds the lengths of `left` descriptors, from number `index` on, to `total`. -/
def descriptorsFrom (r : Reader) (array : UInt64) (onFault : FaultPolicy) :
    (left index : Nat) → (total : UInt32) → Traced UInt32
  | 0, _, total => pure total
  | left + 1, index, total =>
    (r.descriptor array index).cases
      (fun d => descriptorsFrom r array onFault left (index + 1)
        (Length.add total (Length.clamp d.length)))
      fun obstacle => match onFault with
        | .emitPartial => pure total
        | .discard => Traced.fail obstacle

/-- The length of a descriptor array. -/
def vectored (r : Reader) (array count : UInt64) (onFault : FaultPolicy) : Traced UInt32 :=
  descriptorsFrom r array onFault (min count.toNat maxDescriptors) 0 0

/-- The length of a message. Without its header there is nothing partial to report. -/
def message (r : Reader) (header : UInt64) (onFault : FaultPolicy) : Traced UInt32 := do
  let h ← r.messageHeader header
  vectored r h.array h.count onFault

/-- Adds the lengths of `left` entries of a batch, from number `entry` on, to `total`. -/
def entriesFrom (r : Reader) (headers : UInt64) (policy : Policy) :
    (left entry : Nat) → (total : UInt32) → Traced UInt32
  | 0, _, total => pure total
  | left + 1, entry, total =>
    Traced.cases
      (do message r (← Reader.reach (elementAddress? headers entry MessageHeader.stride))
            policy.fault)
      (fun length => entriesFrom r headers policy left (entry + 1) (Length.add total length))
      fun obstacle => match policy.batch with
        | .skipEntry => entriesFrom r headers policy left (entry + 1) total
        | .abortBatch => Traced.fail obstacle

/-- The length of a batch of messages. -/
def batch (r : Reader) (headers count : UInt64) (policy : Policy) : Traced UInt32 :=
  entriesFrom r headers policy (min count.toNat maxEntries) 0 0

end Measure

/-- The length of a call, from the arguments that its operation names. -/
def measure (source : LengthSource) (arguments : Arguments) (r : Reader) (policy : Policy) :
    Traced UInt32 :=
  match source with
  | .scalar length => do return Length.clamp (← readArgument arguments length)
  | .vectored array count => do
    let array ← readArgument arguments array
    let count ← readArgument arguments count
    Measure.vectored r array count policy.fault
  | .message header => do
    Measure.message r (← readArgument arguments header) policy.fault
  | .batch headers count => do
    let headers ← readArgument arguments headers
    let count ← readArgument arguments count
    Measure.batch r headers count policy

end SyscallMeter
