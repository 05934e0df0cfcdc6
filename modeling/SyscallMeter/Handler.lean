import SyscallMeter.Measure
import SyscallMeter.Outcome
import SyscallMeter.Target
import SyscallMeter.Transport

/-! What a probe does on every call: check the caller, reserve a window, measure, and write and
commit the event or discard the window. The window is reserved first, so that a saturated
transport costs no reads. -/
namespace SyscallMeter

/-- What a probe is set up with. -/
structure ProbeSettings where
  target : Target
  policy : Policy
  deriving DecidableEq, Repr

namespace ProbeSettings

def ofRaw (tgid : UInt32) (fault batch : UInt8) : ProbeSettings :=
  ⟨⟨tgid⟩, ⟨FaultPolicy.ofByte fault, BatchPolicy.ofByte batch⟩⟩

/-- The settings of a probe that nobody has set up. -/
def unset : ProbeSettings := ofRaw 0 0 0

end ProbeSettings

/-- One system call at its entry. -/
structure Call where
  op : Operation
  caller : UInt64
  arguments : Arguments

/-- One use that a probe makes of its surroundings. -/
inductive Step
  | reserve (op : Operation) (granted : Bool)
  | access (a : Access)
  | write (record : Octets)
  | commit
  | discard
  deriving DecidableEq, Repr

/-- The outcome of a call, the state of the transport after it, and what was done on the way. -/
structure Handled (σ : Type) where
  outcome : Outcome
  state : σ
  steps : List Step

def Obstacle.dropReason : Obstacle → DropReason
  | missingArgument => .missingArgument
  | fault => .fault

/-- Ends the window of an admitted call. -/
def finish {σ ω : Type} (t : Transport σ ω) (op : Operation) (measured : Traced UInt32)
    (window : ω) (s : σ) : Handled σ :=
  let accesses := measured.accesses.map Step.access
  match measured.answer with
  | .ok length =>
    let event : Event := ⟨op, length⟩
    let (window, s) := t.write window event.encode s
    ⟨.emitted event, t.commit window s, accesses ++ [.write event.encode, .commit]⟩
  | .error obstacle =>
    ⟨.dropped obstacle.dropReason, t.discard window s, accesses ++ [.discard]⟩

/-- Runs the probe of a call. -/
def handle {σ ω : Type} (t : Transport σ ω) (settings : ProbeSettings) (r : Reader) (call : Call)
    (s : σ) : Handled σ :=
  if settings.target.admits call.caller then
    match t.reserve? call.op s with
    | none => ⟨.dropped .saturated, s, [.reserve call.op false]⟩
    | some (window, s) =>
      let measured := measure call.op.lengthSource call.arguments r settings.policy
      let h := finish t call.op measured window s
      { h with steps := .reserve call.op true :: h.steps }
  else
    ⟨.filteredOut, s, []⟩

end SyscallMeter
