import SyscallMeter.Handler

/-! How a call ends at its probe. A transport only decides whether there is room for an event; what
becomes of a call that finds room follows from its caller, its arguments and its memory alone. -/
namespace SyscallMeter

/-- A call, with what can be read of its process at that time. -/
structure Invocation where
  call : Call
  reader : Reader

/-- The process of a caller is the high half of its id. -/
theorem callerProcess_eq_shift (caller : UInt64) :
    callerProcess caller = (caller >>> 32).toUInt32 := by
  apply UInt32.toNat_inj.mp
  simp only [callerProcess, UInt32.toNat_ofNat', UInt64.toNat_toUInt32, UInt64.toNat_shiftRight,
    Nat.shiftRight_eq_div_pow]
  rfl

theorem Obstacle.dropReason_ne_saturated (o : Obstacle) : o.dropReason ≠ .saturated := by
  cases o <;> exact DropReason.noConfusion

namespace Invocation

variable {settings : ProbeSettings} {i : Invocation}

def admitted (settings : ProbeSettings) (i : Invocation) : Bool :=
  settings.target.admits i.call.caller

def measured (settings : ProbeSettings) (i : Invocation) : Traced UInt32 :=
  measure i.call.op.lengthSource i.call.arguments i.reader settings.policy

/-- The event of a call, if its arguments can be measured. -/
def event? (settings : ProbeSettings) (i : Invocation) : Option Event :=
  match (i.measured settings).answer with
  | .ok length => some ⟨i.call.op, length⟩
  | .error _ => none

/-- How a call ends that finds room for its event. -/
def verdict (settings : ProbeSettings) (i : Invocation) : Outcome :=
  if i.admitted settings then
    match (i.measured settings).answer with
    | .ok length => .emitted ⟨i.call.op, length⟩
    | .error obstacle => .dropped obstacle.dropReason
  else .filteredOut

/-- How a call ends. Only an admitted call asks for room. -/
def outcome (settings : ProbeSettings) (room : Bool) (i : Invocation) : Outcome :=
  if i.admitted settings && !room then .dropped .saturated else i.verdict settings

theorem verdict_ne_saturated (settings : ProbeSettings) (i : Invocation) :
    i.verdict settings ≠ .dropped .saturated := by
  unfold verdict
  split
  · split
    · exact Outcome.noConfusion
    · exact fun same => Obstacle.dropReason_ne_saturated _ (Outcome.dropped.inj same)
  · exact Outcome.noConfusion

theorem verdict_of_filtered (filtered : i.admitted settings = false) :
    i.verdict settings = .filteredOut := by
  simp [verdict, filtered]

theorem verdict_ne_filteredOut (admitted : i.admitted settings = true) :
    i.verdict settings ≠ .filteredOut := by
  simp only [verdict, admitted, if_true]
  split <;> exact Outcome.noConfusion

/-- An admitted call that finds room publishes its event, if it has one. -/
theorem event?_verdict (admitted : i.admitted settings = true) :
    (i.verdict settings).event? = i.event? settings := by
  simp only [verdict, admitted, if_true, event?]
  split <;> rfl

@[simp] theorem outcome_of_room (settings : ProbeSettings) (i : Invocation) :
    i.outcome settings true = i.verdict settings := by
  simp [outcome]

theorem outcome_eq_saturated_iff {room : Bool} :
    i.outcome settings room = .dropped .saturated ↔ i.admitted settings = true ∧ room = false := by
  cases room <;> cases admitted : i.admitted settings <;>
    simp [outcome, admitted, verdict_ne_saturated]

theorem outcome_eq_filteredOut_iff {room : Bool} :
    i.outcome settings room = .filteredOut ↔ i.admitted settings = false := by
  cases room <;> cases admitted : i.admitted settings <;>
    simp [outcome, admitted, verdict_of_filtered, verdict_ne_filteredOut]

theorem outcome_of_ne_saturated {room : Bool}
    (taken : i.outcome settings room ≠ .dropped .saturated) :
    i.outcome settings room = i.verdict settings := by
  unfold outcome at taken ⊢
  split at taken
  · exact absurd rfl taken
  · rename_i found
    rw [if_neg found]

end Invocation

section

variable {σ ω : Type}

/-- A call ends as it would anywhere, but for the room that the transport has. -/
theorem handle_outcome (t : Transport σ ω) (settings : ProbeSettings) (i : Invocation) (s : σ) :
    (handle t settings i.reader i.call s).outcome =
      i.outcome settings (t.reserve? i.call.op s).isSome := by
  by_cases admitted : settings.target.admits i.call.caller
  · cases granted : t.reserve? i.call.op s with
    | none => simp [handle, admitted, granted, Invocation.outcome, Invocation.admitted]
    | some reserved =>
      obtain ⟨window, s'⟩ := reserved
      simp only [handle, admitted, if_true, granted, Option.isSome_some,
        Invocation.outcome_of_room, Invocation.verdict, Invocation.admitted, finish,
        Invocation.measured]
      cases (measure i.call.op.lengthSource i.call.arguments i.reader settings.policy).answer <;>
        rfl
  · simp [handle, admitted, Invocation.outcome, Invocation.admitted, Invocation.verdict]

/-- Calls that are handled one after the other, each through a transport of its own but all on one
state: how they end, and the state after them. -/
def handleEach (settings : ProbeSettings) : List (Transport σ ω × Invocation) → σ →
    List Outcome × σ
  | [], s => ([], s)
  | (t, i) :: rest, s =>
    let h := handle t settings i.reader i.call s
    let (outcomes, s) := handleEach settings rest h.state
    (h.outcome :: outcomes, s)

/-- Calls that are handled one after the other through one transport. -/
def handleAll (t : Transport σ ω) (settings : ProbeSettings) (calls : List Invocation) (s : σ) :
    List Outcome × σ :=
  handleEach settings (calls.map fun i => (t, i)) s

end

end SyscallMeter
