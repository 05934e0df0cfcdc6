import SyscallMeter.Machine
import SyscallMeter.Number.Numeral
import SyscallMeter.Text.Blank
import SyscallMeter.Text.Search

/-! What has to hold before any probe is loaded: the right user, a kernel that has event rings, a
probe object, and a process to measure. -/
namespace SyscallMeter

inductive PreflightError
  | notPrivileged
  | noKernelVersion
  | kernelTooOld (major minor : Nat) (release : String)
  | noObject (path : String)
  | noProcess (pid : UInt32)
  deriving DecidableEq, Repr

/-- The first kernel with event rings. -/
def oldestKernel : Nat × Nat := (5, 8)

namespace PreflightError

/-- What failed, without the reason that the system gives. -/
def headline : PreflightError → String
  | notPrivileged =>
    "Permission denied: iotap requires root privileges to load eBPF programs.\n\n"
      ++ "Run with: sudo iotap ..."
  | noKernelVersion => "Failed to read kernel version from /proc/version"
  | kernelTooOld major minor release =>
    s!"Kernel version {major}.{minor} is too old.\n\n"
      ++ s!"iotap requires Linux {oldestKernel.1}.{oldestKernel.2} or newer for eBPF ring buffer "
      ++ s!"support.\nCurrent kernel: {release}"
  | noObject path =>
    s!"Probe object not found: {path}\n\nBuild it with: cargo xtask build-ebpf\n"
      ++ "or point --object at a compiled iotap-ebpf binary."
  | noProcess pid =>
    s!"Process {pid.toNat} not found.\n\n"
      ++ s!"Is the process still running? Check with: ps -p {pid.toNat}"

def message : PreflightError → String
  | noKernelVersion => s!"{noKernelVersion.headline}: {noSuchFile}"
  | e => e.headline

end PreflightError

namespace Preflight

/-- Major and minor number of a kernel release: the part before the first dot, and the digits
that the part behind it starts with. -/
def parseRelease? (release : List Char) : Option (Nat × Nat) :=
  match Text.splitOn '.' release with
  | major :: minor :: _ => do
    let major ← Numeral.natural? UInt32.size major
    let minor ← Numeral.natural? UInt32.size (minor.takeWhile Char.isDigit)
    return (major, minor)
  | _ => none

def isOlder (a b : Nat × Nat) : Bool := a.1 < b.1 || (a.1 == b.1 && a.2 < b.2)

def checkUser (m : Machine) : Except PreflightError Unit :=
  if m.user = 0 then .ok () else .error .notPrivileged

/-- The release is the third word of the kernel's version. One that cannot be read passes. -/
def checkKernel (m : Machine) : Except PreflightError Unit :=
  match m.kernelVersion with
  | none => .error .noKernelVersion
  | some version =>
    let release := ((Text.words version.toList)[2]?).getD "unknown".toList
    match parseRelease? release with
    | none => .ok ()
    | some (major, minor) =>
      if isOlder (major, minor) oldestKernel then
        .error (.kernelTooOld major minor (String.ofList release))
      else .ok ()

def checkObject (m : Machine) (path : String) : Except PreflightError Unit :=
  if m.files.isFile path then .ok () else .error (.noObject path)

def checkProcess (m : Machine) (pid : UInt32) : Except PreflightError Unit :=
  if m.exists_ pid then .ok () else .error (.noProcess pid)

def check (m : Machine) (object : String) (pid : UInt32) : Except PreflightError Unit := do
  checkUser m
  checkKernel m
  checkObject m object
  checkProcess m pid

end Preflight

end SyscallMeter
