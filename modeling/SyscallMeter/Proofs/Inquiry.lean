import SyscallMeter.Measure

/-! A measurement as a conversation with the calling process: what is asked next depends on the
answers so far, and nothing is known of the answers. The process may run on while it is asked, so
that the same question may get another answer each time. Measuring a process that stands still is
the case that a `Reader` describes. -/
namespace SyscallMeter

/-- Questions to a process, and the answer that they lead to. -/
inductive Inquiry (α : Type)
  | done (answer : Except Obstacle α)
  | argument (slot : Nat) (next : Option UInt64 → Inquiry α)
  | memory (address : UInt64) (length : Nat) (next : Option Octets → Inquiry α)

/-- A process that is asked. Every question may change what it answers to the next one. -/
structure Respondent (τ : Type) where
  argument : Nat → τ → Option UInt64 × τ
  memory : UInt64 → Nat → τ → Option Octets × τ

/-- A process that does not change. -/
def Respondent.still (arguments : Arguments) (r : Reader) : Respondent Unit where
  argument slot _ := (arguments slot, ())
  memory address length _ := (r.read? address length, ())

namespace Inquiry

variable {α β τ : Type}

/-- Goes on with the value or with the obstacle. -/
def cases : Inquiry α → (α → Inquiry β) → (Obstacle → Inquiry β) → Inquiry β
  | done (.ok a), onValue, _ => onValue a
  | done (.error o), _, onObstacle => onObstacle o
  | argument slot next, onValue, onObstacle =>
    argument slot fun value => (next value).cases onValue onObstacle
  | memory address length next, onValue, onObstacle =>
    memory address length fun bytes => (next bytes).cases onValue onObstacle

instance : Monad Inquiry where
  pure a := done (.ok a)
  bind x f := x.cases f fun o => done (.error o)

/-- Asks the questions in order. Each is an access, whatever the answer is. -/
def ask (p : Respondent τ) : Inquiry α → τ → Traced α × τ
  | done answer, u => (⟨[], answer⟩, u)
  | argument slot next, u =>
    let (value, u) := p.argument slot u
    let (rest, u) := (next value).ask p u
    (⟨.argument slot value.isSome :: rest.accesses, rest.answer⟩, u)
  | memory address length next, u =>
    let (bytes, u) := p.memory address length u
    let (rest, u) := (next bytes).ask p u
    (⟨.memory address length bytes.isSome :: rest.accesses, rest.answer⟩, u)

/-! ### The questions of a measurement -/

def readArgument (slot : Nat) : Inquiry UInt64 :=
  argument slot fun
    | some value => pure value
    | none => done (.error .missingArgument)

def read (address : UInt64) (length : Nat) : Inquiry Octets :=
  memory address length fun
    | some bytes => pure bytes
    | none => done (.error .fault)

/-- What is not an address is a fault, and nothing is asked. -/
def reach (address? : Option UInt64) : Inquiry UInt64 :=
  match address? with
  | some address => pure address
  | none => done (.error .fault)

def descriptor (array : UInt64) (index : Nat) : Inquiry Descriptor := do
  let address ← reach (elementAddress? array index Descriptor.size)
  return Descriptor.decode (← read address Descriptor.size)

def messageHeader (start : UInt64) : Inquiry MessageHeader := do
  let address ← reach (offsetAddress? start MessageHeader.arrayOffset)
  return MessageHeader.decode (← read address 16)

def descriptorsFrom (array : UInt64) (onFault : FaultPolicy) :
    (left index : Nat) → (total : UInt32) → Inquiry UInt32
  | 0, _, total => pure total
  | left + 1, index, total =>
    (descriptor array index).cases
      (fun d => descriptorsFrom array onFault left (index + 1)
        (Length.add total (Length.clamp d.length)))
      fun obstacle => match onFault with
        | .emitPartial => pure total
        | .discard => done (.error obstacle)

def vectored (array count : UInt64) (onFault : FaultPolicy) : Inquiry UInt32 :=
  descriptorsFrom array onFault (min count.toNat Measure.maxDescriptors) 0 0

def message (header : UInt64) (onFault : FaultPolicy) : Inquiry UInt32 := do
  let h ← messageHeader header
  vectored h.array h.count onFault

def entriesFrom (headers : UInt64) (policy : Policy) :
    (left entry : Nat) → (total : UInt32) → Inquiry UInt32
  | 0, _, total => pure total
  | left + 1, entry, total =>
    (do message (← reach (elementAddress? headers entry MessageHeader.stride)) policy.fault :
        Inquiry UInt32).cases
      (fun length => entriesFrom headers policy left (entry + 1) (Length.add total length))
      fun obstacle => match policy.batch with
        | .skipEntry => entriesFrom headers policy left (entry + 1) total
        | .abortBatch => done (.error obstacle)

def batch (headers count : UInt64) (policy : Policy) : Inquiry UInt32 :=
  entriesFrom headers policy (min count.toNat Measure.maxEntries) 0 0

def measure (source : LengthSource) (policy : Policy) : Inquiry UInt32 :=
  match source with
  | .scalar length => do return Length.clamp (← readArgument length)
  | .vectored array count => do
    let array ← readArgument array
    let count ← readArgument count
    vectored array count policy.fault
  | .message header => do message (← readArgument header) policy.fault
  | .batch headers count => do
    let headers ← readArgument headers
    let count ← readArgument count
    batch headers count policy

/-! ### A process that stands still -/

/-- Asks a process that does not change. -/
def run (arguments : Arguments) (r : Reader) (x : Inquiry α) : Traced α :=
  (x.ask (.still arguments r) ()).1

variable {arguments : Arguments} {r : Reader}

@[simp] theorem run_pure (a : α) : (pure a : Inquiry α).run arguments r = pure a := rfl

@[simp] theorem run_error (o : Obstacle) :
    (done (.error o) : Inquiry α).run arguments r = Traced.fail o := rfl

theorem run_argument (slot : Nat) (next : Option UInt64 → Inquiry α) :
    (argument slot next).run arguments r =
      ⟨.argument slot (arguments slot).isSome ::
          ((next (arguments slot)).run arguments r).accesses,
        ((next (arguments slot)).run arguments r).answer⟩ := rfl

theorem run_memory (address : UInt64) (length : Nat) (next : Option Octets → Inquiry α) :
    (memory address length next).run arguments r =
      ⟨.memory address length (r.read? address length).isSome ::
          ((next (r.read? address length)).run arguments r).accesses,
        ((next (r.read? address length)).run arguments r).answer⟩ := rfl

@[simp] theorem run_cases (x : Inquiry α) (f : α → Inquiry β) (g : Obstacle → Inquiry β) :
    (x.cases f g).run arguments r =
      (x.run arguments r).cases (fun a => (f a).run arguments r)
        fun o => (g o).run arguments r := by
  induction x with
  | done answer => cases answer <;> rfl
  | argument slot next ih => simp only [cases, run_argument, ih, Traced.cases, List.cons_append]
  | memory address length next ih =>
    simp only [cases, run_memory, ih, Traced.cases, List.cons_append]

@[simp] theorem run_bind (x : Inquiry α) (f : α → Inquiry β) :
    (x >>= f).run arguments r = x.run arguments r >>= fun a => (f a).run arguments r :=
  run_cases x f fun o => done (.error o)

@[simp] theorem run_readArgument (slot : Nat) :
    (readArgument slot).run arguments r = SyscallMeter.readArgument arguments slot := by
  cases found : arguments slot <;>
    simp [readArgument, SyscallMeter.readArgument, run, ask, Respondent.still, found, pure]

@[simp] theorem run_read (address : UInt64) (length : Nat) :
    (read address length).run arguments r = r.read address length := by
  cases found : r.read? address length <;>
    simp [read, Reader.read, run, ask, Respondent.still, found, pure]

@[simp] theorem run_reach (address? : Option UInt64) :
    (reach address?).run arguments r = Reader.reach address? := by
  cases address? <;> rfl

@[simp] theorem run_descriptor (array : UInt64) (index : Nat) :
    (descriptor array index).run arguments r = r.descriptor array index := by
  simp [descriptor, Reader.descriptor]

@[simp] theorem run_descriptorsFrom (array : UInt64) (onFault : FaultPolicy) (left index : Nat)
    (total : UInt32) : (descriptorsFrom array onFault left index total).run arguments r =
      Measure.descriptorsFrom r array onFault left index total := by
  induction left generalizing index total with
  | zero => rfl
  | succ left ih =>
    cases onFault <;> simp [descriptorsFrom, Measure.descriptorsFrom, ih]

@[simp] theorem run_message (header : UInt64) (onFault : FaultPolicy) :
    (message header onFault).run arguments r = Measure.message r header onFault := by
  simp [message, Measure.message, messageHeader, Reader.messageHeader, vectored, Measure.vectored]

@[simp] theorem run_entriesFrom (headers : UInt64) (policy : Policy) (left entry : Nat)
    (total : UInt32) : (entriesFrom headers policy left entry total).run arguments r =
      Measure.entriesFrom r headers policy left entry total := by
  induction left generalizing entry total with
  | zero => rfl
  | succ left ih =>
    obtain ⟨fault, batch⟩ := policy
    cases batch <;> simp [entriesFrom, Measure.entriesFrom, ih]

/-- Measuring asks these questions. -/
theorem run_measure (source : LengthSource) (policy : Policy) :
    (measure source policy).run arguments r = SyscallMeter.measure source arguments r policy := by
  cases source <;>
    simp [measure, SyscallMeter.measure, vectored, Measure.vectored, batch, Measure.batch]

end Inquiry

end SyscallMeter
