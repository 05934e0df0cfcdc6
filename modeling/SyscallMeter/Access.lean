import SyscallMeter.Descriptor
import SyscallMeter.Memory

/-! Reading the arguments and the memory of a calling process. Either may fail at any time, so a
computation over them carries the accesses that it made along with its answer. -/
namespace SyscallMeter

/-- What can be read of a process: the bytes of a range, if all of them are readable. -/
structure Reader where
  read? : (address : UInt64) → (length : Nat) → Option Octets

def Memory.reader (m : Memory) : Reader := ⟨m.read?⟩

/-- The arguments of a call by slot, as far as they can be read. -/
abbrev Arguments := Nat → Option UInt64

/-- One attempt to read something of the caller. -/
inductive Access
  | argument (slot : Nat) (present : Bool)
  | memory (address : UInt64) (length : Nat) (readable : Bool)
  deriving DecidableEq, Repr

/-- Why a call could not be measured. -/
inductive Obstacle
  | missingArgument
  | fault
  deriving DecidableEq, Repr

/-- An answer and the accesses made to find it, in order. -/
structure Traced (α : Type) where
  accesses : List Access
  answer : Except Obstacle α

namespace Traced

def fail {α : Type} (o : Obstacle) : Traced α := ⟨[], .error o⟩

/-- Goes on with the value or with the obstacle. -/
def cases {α β : Type} (x : Traced α) (onValue : α → Traced β) (onObstacle : Obstacle → Traced β) :
    Traced β :=
  let next := match x.answer with
    | .ok a => onValue a
    | .error o => onObstacle o
  ⟨x.accesses ++ next.accesses, next.answer⟩

instance : Monad Traced where
  pure a := ⟨[], .ok a⟩
  bind x f := x.cases f fail

end Traced

def readArgument (arguments : Arguments) (slot : Nat) : Traced UInt64 :=
  match arguments slot with
  | some value => ⟨[.argument slot true], .ok value⟩
  | none => ⟨[.argument slot false], .error .missingArgument⟩

namespace Reader

def read (r : Reader) (address : UInt64) (length : Nat) : Traced Octets :=
  match r.read? address length with
  | some bytes => ⟨[.memory address length true], .ok bytes⟩
  | none => ⟨[.memory address length false], .error .fault⟩

/-- What is not an address is a fault, and nothing is read. -/
def reach (address? : Option UInt64) : Traced UInt64 :=
  match address? with
  | some address => pure address
  | none => Traced.fail .fault

def descriptor (r : Reader) (array : UInt64) (index : Nat) : Traced Descriptor := do
  let address ← reach (elementAddress? array index Descriptor.size)
  return Descriptor.decode (← r.read address Descriptor.size)

def messageHeader (r : Reader) (start : UInt64) : Traced MessageHeader := do
  let address ← reach (offsetAddress? start MessageHeader.arrayOffset)
  return MessageHeader.decode (← r.read address 16)

end Reader

end SyscallMeter
