import SyscallMeter.Handler
import SyscallMeter.Settings

/-! The read-only globals of the probe object, through which a run tells its settings to the
probes. -/
namespace SyscallMeter.Kernel

/-- The read-only globals of the probes. Zeroed, they admit no caller. -/
structure Globals where
  tgid : UInt32
  mode : UInt8
  fault : UInt8
  batch : UInt8
  log : UInt8
  deriving DecidableEq, Repr

namespace Globals

def zero : Globals := ⟨0, 0, 0, 0, 0⟩

/-- The globals for the settings of a run. -/
def ofSettings (s : Settings) : Globals :=
  ⟨s.pid, s.mode.toByte, s.policy.fault.toByte, s.policy.batch.toByte, s.logLevel.toByte⟩

/-- What is set in the probe object for the settings of a run: each global by its name, with the
bytes that it is to hold. -/
def assigned (s : Settings) : List (String × Octets) := [
  ("TARGET_TGID", Octets.ofNat 4 s.pid.toNat), ("TRANSPORT_MODE", [s.mode.toByte]),
  ("FAULT_POLICY", [s.policy.fault.toByte]), ("BATCH_POLICY", [s.policy.batch.toByte]),
  ("LOG_LEVEL", [s.logLevel.toByte])]

/-- The number that a global holds. One that was not set is zero. -/
def held (set : List (String × Octets)) (name : String) : Nat :=
  ((set.lookup name).map Octets.toNat).getD 0

/-- The globals that the probes find once some of them were set. -/
def afterSetting (set : List (String × Octets)) : Globals where
  tgid := UInt32.ofNat (held set "TARGET_TGID")
  mode := UInt8.ofNat (held set "TRANSPORT_MODE")
  fault := UInt8.ofNat (held set "FAULT_POLICY")
  batch := UInt8.ofNat (held set "BATCH_POLICY")
  log := UInt8.ofNat (held set "LOG_LEVEL")

def settings (g : Globals) : ProbeSettings := ProbeSettings.ofRaw g.tgid g.fault g.batch

end Globals

end SyscallMeter.Kernel
