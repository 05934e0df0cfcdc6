import SyscallMeter.KeyMap
import SyscallMeter.Label
import SyscallMeter.Policy

/-! The settings of a run, and what can be wrong with them. -/
namespace SyscallMeter

inductive SettingsError
  | invalidPid (pid : Int)
  | invalidLabel (text : String)
  | duplicateLabel (key : String)
  | zeroCapacity
  | capacityTooLarge (requested : Nat)
  deriving DecidableEq, Repr

/-- Largest event ring that a run asks for, in bytes. -/
def maxRingBytes : Nat := 1024 * 1024 * 1024

/-- Event ring that probes have by themselves, in bytes. -/
def defaultRingBytes : Nat := 256 * 1024

def SettingsError.message : SettingsError → String
  | invalidPid pid => s!"Invalid PID {pid}: must be a positive process id"
  | invalidLabel text => s!"Invalid label '{text}': expected key:value"
  | duplicateLabel key => s!"Duplicate label key '{key}'"
  | zeroCapacity => "Ring capacity must be non-zero"
  | capacityTooLarge requested =>
    s!"Ring capacity {requested} bytes is too large (max {maxRingBytes})"

/-- Reads a label. An error keeps the text as it was given. -/
def Label.parse (text : String) : Except SettingsError Label :=
  match Label.parse? text with
  | some label => .ok label
  | none => .error (.invalidLabel text)

/-- The number of a process. Process 0 cannot be measured. -/
structure Pid where
  number : UInt32
  deriving DecidableEq, Repr

namespace Pid

def ofInt (n : Int) : Except SettingsError Pid :=
  if 0 < n then .ok ⟨UInt32.ofNat n.toNat⟩ else .error (.invalidPid n)

/-- The directory that exists as long as the process does. -/
def directory (p : Pid) : String := s!"/proc/{p.number.toNat}"

end Pid

/-- The least power of two that is at least `n`. -/
def powerOfTwoAbove (n : Nat) : Nat := if n ≤ 1 then 1 else 1 <<< ((n - 1).log2 + 1)

/-- Size of the event ring for a wish. A ring is a power of two of bytes and whole pages; with a
page that is a power of two itself, every power of two from one page on is both. -/
def ringSize (requested page : Nat) : Except SettingsError UInt32 :=
  if requested = 0 then .error .zeroCapacity
  else if requested > maxRingBytes then .error (.capacityTooLarge requested)
  else
    let size := powerOfTwoAbove (max requested page)
    if size < UInt32.size then .ok (UInt32.ofNat size) else .error (.capacityTooLarge requested)

structure Settings where
  pid : UInt32
  /-- File that holds the probes. -/
  object : String
  mode : Mode
  policy : Policy
  ringBytes : UInt32
  logLevel : LogLevel
  /-- Whether to ask for the log of the kernel's check of the probes. -/
  verifierLog : Bool
  /-- Longest time to measure, in seconds. -/
  duration : Option Nat
  labels : List Label
  deriving Repr

/-- Version of the program. -/
def version : String := "0.1.0"

/-- The labels of a report: some that every run has, unless the user gave them another value, and
those of the user. -/
def Settings.reportLabels (s : Settings) : KeyMap String :=
  (KeyMap.ofList [("transport", s.mode.name), ("bpf_log", s.logLevel.name),
    ("version", version)]).insertAll (s.labels.map fun label => (label.key, label.value))

/-- The first key that repeats an earlier one. -/
def firstRepeated? (seen : List String) : List Label → Option String
  | [] => none
  | label :: rest =>
    if label.key ∈ seen then some label.key else firstRepeated? (label.key :: seen) rest

end SyscallMeter
