/-! The settings that a probe object carries as raw bytes, their meanings and their names. A byte
without a meaning of its own stands for the default. -/
namespace SyscallMeter

/-- What an unreadable buffer descriptor does to an event. -/
inductive FaultPolicy
  /-- Report what was summed before it. -/
  | emitPartial
  /-- Drop the event. -/
  | discard
  deriving DecidableEq, Repr

/-- What a failing entry does to a batch of messages. -/
inductive BatchPolicy
  /-- It counts nothing, and the later entries are still measured. -/
  | skipEntry
  /-- The whole batch is dropped. -/
  | abortBatch
  deriving DecidableEq, Repr

structure Policy where
  fault : FaultPolicy
  batch : BatchPolicy
  deriving DecidableEq, Repr

/-- How probes publish: a record per call, or totals updated in place. -/
inductive Mode
  | stream
  | counters
  deriving DecidableEq, Repr

/-- How much the probes log. -/
inductive LogLevel
  | off
  | error
  | debug
  deriving DecidableEq, Repr

namespace FaultPolicy

def ofByte (b : UInt8) : FaultPolicy := if b == 1 then discard else emitPartial

def toByte : FaultPolicy → UInt8
  | emitPartial => 0
  | discard => 1

def name : FaultPolicy → String
  | emitPartial => "emit-partial"
  | discard => "discard"

@[simp] theorem ofByte_toByte (p : FaultPolicy) : ofByte p.toByte = p := by cases p <;> rfl

end FaultPolicy

namespace BatchPolicy

def ofByte (b : UInt8) : BatchPolicy := if b == 1 then abortBatch else skipEntry

def toByte : BatchPolicy → UInt8
  | skipEntry => 0
  | abortBatch => 1

def name : BatchPolicy → String
  | skipEntry => "skip-entry"
  | abortBatch => "abort-batch"

@[simp] theorem ofByte_toByte (p : BatchPolicy) : ofByte p.toByte = p := by cases p <;> rfl

end BatchPolicy

namespace Mode

def ofByte (b : UInt8) : Mode := if b == 1 then counters else stream

def toByte : Mode → UInt8
  | stream => 0
  | counters => 1

def name : Mode → String
  | stream => "stream"
  | counters => "counters"

@[simp] theorem ofByte_toByte (m : Mode) : ofByte m.toByte = m := by cases m <;> rfl

end Mode

namespace LogLevel

/-- Every byte above the known levels asks for all messages. -/
def ofByte (b : UInt8) : LogLevel := if b == 0 then off else if b == 1 then error else debug

def toByte : LogLevel → UInt8
  | off => 0
  | error => 1
  | debug => 2

def name : LogLevel → String
  | off => "off"
  | error => "error"
  | debug => "debug"

def showsErrors : LogLevel → Bool
  | off => false
  | _ => true

def showsDebug : LogLevel → Bool
  | debug => true
  | _ => false

@[simp] theorem ofByte_toByte (l : LogLevel) : ofByte l.toByte = l := by cases l <;> rfl

end LogLevel

end SyscallMeter
