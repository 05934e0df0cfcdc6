/-! The first and cheapest check of a probe: does the caller belong to the measured process? -/
namespace SyscallMeter

/-- The measured process. Process 0 stands for "none": it admits nobody, so a probe that nobody
has set up stays silent. -/
structure Target where
  tgid : UInt32
  deriving DecidableEq, Repr

/-- Process and thread of a caller as the kernel hands them out: the process in the high half. -/
def callerId (tgid tid : UInt32) : UInt64 :=
  UInt64.ofNat (tgid.toNat * UInt32.size + tid.toNat)

/-- The process in a caller's id. -/
def callerProcess (caller : UInt64) : UInt32 := UInt32.ofNat (caller.toNat / UInt32.size)

/-- Every thread of the measured process is admitted. -/
def Target.admits (t : Target) (caller : UInt64) : Bool :=
  t.tgid != 0 && callerProcess caller == t.tgid

theorem callerProcess_callerId (tgid tid : UInt32) : callerProcess (callerId tgid tid) = tgid := by
  have h₁ := tgid.toNat_lt
  have h₂ := tid.toNat_lt
  have h : (callerId tgid tid).toNat / UInt32.size = tgid.toNat := by
    simp only [callerId, UInt64.toNat_ofNat', UInt32.size]
    omega
  simp only [callerProcess, h, UInt32.ofNat_toNat]

end SyscallMeter
