import SyscallMeter.Report
import SyscallMeter.Run.World
import SyscallMeter.Tally.Line

/-! Watching the measured process: ten times a second the run looks whether the process is there
and takes what the probes published, until the process leaves, the time is over or the user asks
it to stop. -/
namespace SyscallMeter

/-- What a run has counted and when it last said something. Times are in milliseconds from the
start. -/
structure Watch where
  tally : Tally
  now : Nat
  /-- When the totals were last shown. -/
  shownAt : Nat
  /-- When the run last said that it is still waiting. -/
  waitedAt : Nat

namespace Watch

/-- Time between two looks. -/
def period : Nat := 100

/-- The totals are shown when more time than this has passed. -/
def quietTime : Nat := 10000

def start : Watch := ⟨Tally.empty, 0, 0, 0⟩

def elapsed (w : Watch) : Elapsed := ⟨w.now / 1000, w.now % 1000 * 1000000⟩

/-- Whether the time to measure is over. -/
def isOver (w : Watch) (s : Settings) : Bool :=
  match s.duration with
  | some seconds => seconds * 1000 ≤ w.now
  | none => false

end Watch

namespace Run

/-- Warns of a record that is no event. -/
def warnOf : Except RecordError Event → Run Unit
  | .ok _ => pure ()
  | .error e => notice .warn e.message

/-- Counts all records that wait in the event ring. -/
def drainEvents (t : Tally) : Run Tally := do
  let (records, kernel) := (← get).kernel.drain
  modifyKernel fun _ => kernel
  let (results, t) := t.ingestAll records
  results.forM warnOf
  return t

/-- Counts the events so far, and says from time to time that there are none. -/
def takeEvents (w : Watch) : Run Watch := do
  let tally ← drainEvents w.tally
  let w := { w with tally }
  if tally.events = 0 ∧ w.now - w.waitedAt > Watch.quietTime then
    notice .info "Still waiting for events... (no events received yet)"
    return { w with waitedAt := w.now }
  else return w

/-- Shows the totals from time to time. -/
def showTotals (mode : Mode) (w : Watch) : Run Watch := do
  if w.now - w.shownAt > Watch.quietTime then
    match mode with
    | .stream => tell w.tally.line
    | .counters =>
      match (← get).kernel.readTotals with
      | .ok totals => tell (Tally.ofTotals totals).line
      | .error e => notice .warn s!"Failed to read counters: {e.message}"
    return { w with shownAt := w.now }
  else return w

/-- Looks again and again, until there is a reason to stop. -/
def watch (s : Settings) (quiet : Bool) (w : Watch) : Course → Run (ExitReason × Watch)
  | [] => return (.processExited, w)
  | happenings :: rest => do
    if w.isOver s then return (.durationReached, w)
    modify fun world => world.pass happenings
    if ! (← get).machine.exists_ s.pid then return (.processExited, w)
    let w ← if s.mode = .stream then takeEvents w else pure w
    let w ← if quiet then pure w else showTotals s.mode w
    if happenings.any Happening.isInterrupt then return (.interrupted, w)
    watch s quiet { w with now := w.now + Watch.period } rest

end Run

end SyscallMeter
