import SyscallMeter.Metrics
import SyscallMeter.Report.Summary
import SyscallMeter.Report.Writer
import SyscallMeter.Run.Loading
import SyscallMeter.Run.Watch

/-! A run from its options to its report. -/
namespace SyscallMeter

/-- A run that may begin: what to measure and how, and where the metrics go. -/
structure Plan where
  settings : Settings
  quiet : Bool
  reportFile : Option String
  group : Option Web.Address

/-- Nothing is done before all of the options are known to be right. -/
def Options.plan (o : Options) (m : Machine) : Except Failure Plan := do
  let pid ← o.target m
  (Preflight.check m o.object pid).mapError .preflight
  let settings ← (o.settings pid m.pageSize).mapError .settings
  let group ← o.gateway.mapM fun gateway =>
    (Gateway.groupAddress gateway settings.reportLabels).mapError .gateway
  return ⟨settings, o.quiet, o.reportFile, group⟩

namespace Run

/-- Prints unless the run is to be quiet. -/
def say (p : Plan) (line : String) : Run Unit := if p.quiet then pure () else print line

/-- Tells what is measured, and how. -/
def banner (p : Plan) : Run Unit := do
  let pid := p.settings.pid
  say p s!"iotap v{version}"
  match (← get).machine.executable? pid with
  | some path => say p s!"target: {pid.toNat} ({path})"
  | none => say p s!"target: {pid.toNat}"
  say p s!"transport: {p.settings.mode.name}"

/-- Loads and attaches the probes. -/
def instrument (p : Plan) : Run Unit := do
  loadObject p.settings
  startLogger p.settings.logLevel
  let a ← attachProbes
  say p s!"probes: {a.attached.length} attached"
  a.skipped.forM fun skipped =>
    say p s!"   skipped {skipped.1.name}: no tracepoint on this kernel"

/-- Makes sure that there is an event ring, if events are to be streamed. -/
def openEvents (p : Plan) : Run Unit := do
  if p.settings.mode = .stream then
    match (← get).kernel.events? with
    | some (.noMap _) => throw .noEvents
    | some e => throw (.events e.message)
    | none => return

/-- Tells where the results go. -/
def announceResults (p : Plan) : Run Unit := do
  if let some path := p.reportFile then say p s!"export: {path}"
  if let some address := p.group then say p s!"push: {address.text}"

/-- What was counted in the end: whatever the probes published before they stopped counts too. -/
def finalTally (s : Settings) (t : Tally) : Run Tally := do
  match s.mode with
  | .stream => drainEvents t
  | .counters => return Tally.ofTotals (← of .totals (← get).kernel.readTotals)

/-- The counts of the probes, which a run can do without. -/
def probeCounts : Run (Option ProbeCounts) := do
  match (← get).kernel.readCounts with
  | .ok counts => return some counts
  | .error e => do
    notice .warn s!"Probe diagnostics unavailable: {e.message}"
    return none

/-- Shows the report. -/
def showReport (p : Plan) (r : Report) (counts : Option ProbeCounts) : Run Unit := do
  if ! p.quiet then
    tell r.summary
    if let some counts := counts then tell counts.table

/-- Writes the report file. -/
def saveReport (p : Plan) (r : Report) : Run Unit := do
  if let some path := p.reportFile then
    match (← get).machine.files.create path with
    | .error e => throw (.report ⟨path, e.message⟩)
    | .ok place =>
      match (← get).writing place with
      | some fault => do
        emit (.save place (String.ofList (r.toJson.toList.take fault.written)))
        throw (.unwritten fault.reason)
      | none => do
        emit (.save place r.toJson)
        say p s!"saved: {path}"

/-- Pushes the metrics. A gateway that is down costs the metrics, not the run. -/
def pushMetrics (p : Plan) (t : Tally) : Run Unit := do
  if let some address := p.group then
    match (← get).gathering t with
    | some reason => notice .error s!"Failed to push metrics: {reason}"
    | none => do
      let push : Push := ⟨address, Metrics.text t⟩
      notice .info s!"Pushing {push.body.utf8ByteSize} bytes of metrics to {address.text}"
      let answer := (← get).gateway push
      emit (.push push answer)
      match answer.error? push with
      | none => say p "pushed: per-kind totals"
      | some reason => notice .error s!"Failed to push metrics: Push to gateway failed: {reason}"

/-- Measures a process. -/
def measure (o : Options) (course : Course) : Run Unit := do
  let p ← of id (o.plan (← get).machine)
  banner p
  instrument p
  openEvents p
  announceResults p
  let (reason, w) ← watch p.settings p.quiet Watch.start course
  let tally ← finalTally p.settings w.tally
  let counts ← probeCounts
  let report := Report.build p.settings tally counts w.elapsed reason
  showReport p report counts
  saveReport p report
  pushMetrics p tally

end Run

end SyscallMeter
