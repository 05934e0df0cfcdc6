import SyscallMeter.Failure
import SyscallMeter.Kernel.Host
import SyscallMeter.Run.Effect
import SyscallMeter.Tally

/-! The world of a run: what surrounds it, what happens there by itself, and what the run has done
so far. -/
namespace SyscallMeter

structure World where
  machine : Machine
  kernel : Kernel.Host
  /-- How the gateway would answer. -/
  gateway : Push → GatewayAnswer
  /-- What the run did, the latest first. -/
  effects : List Effect
  /-- How often the run has looked whether the measured process is there. -/
  looks : Nat
  /-- Why the metrics of a tally cannot be gathered. -/
  gathering : Tally → Option String := fun _ => none
  /-- What goes wrong when a report is written to a place. -/
  writing : FilePlace → Option WriteFault := fun _ => none

/-- One thing that happens between two looks. -/
inductive Happening
  | memory (change : Memory → Memory)
  /-- A system call, made a number of times. -/
  | syscall (tracepoint : String) (entry : Kernel.Entry) (times : Nat)
  /-- A record that no probe made. -/
  | inject (record : Octets)
  | setStat (slot processor count : Nat)
  | exit (process : String)
  /-- All processes leave. -/
  | exitAll
  /-- The user asks the run to stop. -/
  | interrupt

def Happening.isInterrupt : Happening → Bool
  | interrupt => true
  | _ => false

/-- What happens between each look and the one before. -/
abbrev Course := List (List Happening)

namespace Course

/-- What a timetable says about one look. -/
def at? (timetable : List (Nat × List Happening)) (look : Nat) : List Happening :=
  (timetable.filter fun entry => entry.1 == look).flatMap Prod.snd

/-- The course of a timetable, whose entries name a look, the first being 1. All processes leave at
the last look, which is the one after the timetable if none is named. -/
def ofTimetable (timetable : List (Nat × List Happening)) (last : Option Nat) : Course :=
  let last := max 1 (last.getD ((timetable.map Prod.fst).foldl max 0 + 1))
  (List.range last).map fun i =>
    at? timetable (i + 1) ++ if i + 1 = last then [.exitAll] else []

end Course

namespace World

def modifyKernel (w : World) (f : Kernel.Host → Kernel.Host) : World :=
  { w with kernel := f w.kernel }

def modifyMaps (w : World) (f : Kernel.Maps → Kernel.Maps) : World :=
  w.modifyKernel fun k => { k with maps := f k.maps }

/-- The world after something happened. -/
def happen (w : World) : Happening → World
  | .memory change => w.modifyKernel fun k => { k with memory := change k.memory }
  | .syscall tracepoint entry times =>
    w.modifyKernel fun k => k.enterTimes tracepoint entry times
  | .inject record => w.modifyMaps fun m => { m with events := m.events.inject record }
  | .setStat slot processor count => w.modifyMaps fun m => m.setStat processor slot count
  | .exit process => { w with machine := w.machine.removeProcess process }
  | .exitAll => { w with machine := { w.machine with processes := none } }
  | .interrupt => w

/-- The world at the next look. -/
def pass (w : World) (happenings : List Happening) : World :=
  let w := happenings.foldl happen w
  { w with looks := w.looks + 1 }

end World

/-- A computation in the world, which may fail. What it did until then stays done. -/
abbrev Run := ExceptT Failure (StateM World)

namespace Run

def emit (e : Effect) : Run Unit := modify fun w => { w with effects := e :: w.effects }

def print (line : String) : Run Unit := emit (.print line)

def tell (text : String) : Run Unit := emit (.tell text)

def notice (level : NoticeLevel) (text : String) : Run Unit := emit (.notice level text)

def request (r : Kernel.LoaderRequest) : Run Unit := emit (.request r)

/-- Changes the kernel without anybody's seeing it. -/
def modifyKernel (f : Kernel.Host → Kernel.Host) : Run Unit := modify fun w => w.modifyKernel f

/-- An outcome that needs nothing of the world. -/
def of {ε α : Type} (cause : ε → Failure) (x : Except ε α) : Run α :=
  match x with
  | .ok a => pure a
  | .error e => throw (cause e)

end Run

end SyscallMeter
