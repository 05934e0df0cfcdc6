import SyscallMeter.Run.World

/-! Loading the probes and attaching them to their tracepoints. -/
namespace SyscallMeter

/-- Which operations have a probe, and why others have none. -/
structure Attachment where
  attached : List Operation
  skipped : List (Operation × ProbeError)

namespace Run

/-- The object with the probes is a file. -/
def checkObject (m : Machine) (s : Settings) : Except ProbeError Unit :=
  if m.files.isFile s.object then .ok () else .error (.noObject s.object)

/-- Tells the kernel the settings and loads the probe object. -/
def loadObject (s : Settings) : Run Unit := do
  let world ← get
  of .loading (checkObject world.machine s)
  (Kernel.Globals.assigned s).forM fun g => request (.setGlobal g.1 g.2)
  request (.setSize Kernel.eventsMap s.ringBytes)
  if s.verifierLog then request .verifierLog
  request (.loadObject s.object)
  match world.kernel.refusals.object? with
  | some reason => throw (.loading (.notLoaded s.object reason))
  | none => do
    modifyKernel fun k => k.load s
    notice .info s!"✓ Loaded {s.object} (ring {s.ringBytes.toNat} bytes)"

/-- Has what the probes log passed on. Without that the run goes on. -/
def startLogger (level : LogLevel) : Run Unit := do
  if level = .off then return
  request .startLogger
  if let some reason := (← get).kernel.refusals.logger? then
    notice .warn s!"Failed to initialize eBPF logger: {reason}"

/-- Attaches the probes of operations in order. Those that not every kernel has a tracepoint for
are skipped; the first other one that is refused ends it. -/
def attachAll : List Operation → Run Attachment
  | [] => return ⟨[], []⟩
  | op :: rest => do
    let refusals := (← get).kernel.refusals
    (refusals.probeRequests op).forM request
    match refusals.probe? op with
    | none =>
      modifyKernel fun k => k.attach op
      notice .info s!"✓ Attached tracepoint: syscalls/{op.tracepoint}"
      let others ← attachAll rest
      return { others with attached := op :: others.attached }
    | some e =>
      if op.portable then throw (.attaching e)
      notice .warn s!"⚠️  Skipping {op.name}: {e.message}"
      let others ← attachAll rest
      return { others with skipped := (op, e) :: others.skipped }

/-- Attaches the probes of all operations. Without a single one there is nothing to measure. -/
def attachProbes : Run Attachment := do
  let a ← attachAll Operation.all
  if a.attached.isEmpty then throw (.attaching .nothingAttached)
  return a

end Run

end SyscallMeter
