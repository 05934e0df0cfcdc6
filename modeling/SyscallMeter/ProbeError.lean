/-! What can go wrong with the probes and the maps that they share with a run. -/
namespace SyscallMeter

/-- Some of the reasons are texts of the kernel's. -/
inductive ProbeError
  | noObject (path : String)
  | notLoaded (path reason : String)
  | noProgram (name : String)
  | notAttached (program tracepoint reason : String)
  | nothingAttached
  | noMap (name : String)
  | mapRefused (reason : String)
  | programRefused (reason : String)
  deriving DecidableEq, Repr

def ProbeError.message : ProbeError → String
  | noObject path => s!"Probe object not found: {path}"
  | notLoaded path reason => s!"Failed to load probe object {path}: {reason}"
  | noProgram name => s!"Program {name} not found in probe object"
  | notAttached name tracepoint reason =>
    s!"Failed to attach {name} to syscalls/{tracepoint}: {reason}"
  | nothingAttached => "No probe could be attached"
  | noMap name => s!"Map {name} not found in probe object"
  | mapRefused reason => reason
  | programRefused reason => reason

end SyscallMeter
