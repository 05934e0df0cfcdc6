import SyscallMeter.Handler
import SyscallMeter.Proofs.Inquiry

/-! How a probe uses its surroundings. Whatever they answer, a call is one of five conversations: it
leaves at once, it finds no room, or it reserves a window, asks for its arguments and then for
memory, and ends the window once. The reads of memory have a bound that no caller can move. -/
namespace SyscallMeter

namespace LengthSource

/-- The argument slots that name the bytes to be moved, in the order in which they are read. -/
def slots : LengthSource → List Nat
  | scalar length => [length]
  | vectored array count => [array, count]
  | message header => [header]
  | batch headers count => [headers, count]

/-- The most reads of memory that a call can cost. -/
def maxReads : LengthSource → Nat
  | scalar _ => 0
  | vectored .. => 32
  | message _ => 33
  | batch .. => 264

end LengthSource

/-- An argument that was there. -/
def Access.given (slot : Nat) : Access := .argument slot true

/-- A read of 16 bytes, which may have failed. -/
def Access.sixteen (read : UInt64 × Bool) : Access := .memory read.1 16 read.2

/-! ### The questions of a measurement are few -/

namespace Inquiry

variable {α β τ : Type} {m n : Nat}

/-- On every way through the questions there are at most `n`, each for 16 bytes of memory, and only
memory is an obstacle. -/
inductive AtMost : Nat → Inquiry α → Prop
  | value {n : Nat} (a : α) : AtMost n (done (.ok a))
  | fault {n : Nat} : AtMost n (done (.error .fault))
  | memory {n : Nat} {address : UInt64} {next : Option Octets → Inquiry α}
      (rest : ∀ bytes, AtMost n (next bytes)) : AtMost (n + 1) (.memory address 16 next)

theorem AtMost.mono {x : Inquiry α} (h : AtMost m x) (le : m ≤ n) : AtMost n x := by
  induction h generalizing n with
  | value a => exact .value a
  | fault => exact .fault
  | memory _ ih =>
    obtain ⟨n, rfl⟩ : ∃ k, n = k + 1 := ⟨n - 1, by omega⟩
    exact .memory fun bytes => ih bytes (by omega)

theorem AtMost.cases {x : Inquiry α} {f : α → Inquiry β} {g : Obstacle → Inquiry β}
    (h : AtMost m x) (value : ∀ a, AtMost n (f a)) (fault : AtMost n (g .fault)) :
    AtMost (m + n) (x.cases f g) := by
  induction h with
  | value a => exact (value a).mono (by omega)
  | fault => exact fault.mono (by omega)
  | @memory k address next _ ih =>
    rw [Nat.add_right_comm]
    exact .memory ih

theorem AtMost.bind {x : Inquiry α} {f : α → Inquiry β} (h : AtMost m x)
    (value : ∀ a, AtMost n (f a)) : AtMost (m + n) (x >>= f) :=
  h.cases value .fault

theorem atMost_read (address : UInt64) : AtMost 1 (read address 16) :=
  .memory fun
    | some bytes => .value bytes
    | none => .fault

theorem atMost_reach (address? : Option UInt64) : AtMost 0 (reach address?) := by
  cases address? with
  | some address => exact .value address
  | none => exact .fault

theorem atMost_descriptor (array : UInt64) (index : Nat) : AtMost 1 (descriptor array index) :=
  (atMost_reach _).bind fun address => (atMost_read address).bind (n := 0) fun _ => .value _

theorem atMost_messageHeader (start : UInt64) : AtMost 1 (messageHeader start) :=
  (atMost_reach _).bind fun address => (atMost_read address).bind (n := 0) fun _ => .value _

theorem atMost_descriptorsFrom (array : UInt64) (onFault : FaultPolicy) (left index : Nat)
    (total : UInt32) : AtMost left (descriptorsFrom array onFault left index total) := by
  induction left generalizing index total with
  | zero => exact .value total
  | succ left ih =>
    refine AtMost.mono (m := 1 + left) ?_ (by omega)
    refine (atMost_descriptor array index).cases (fun _ => ih _ _) ?_
    cases onFault with
    | emitPartial => exact .value total
    | discard => exact .fault

theorem atMost_vectored (array count : UInt64) (onFault : FaultPolicy) :
    AtMost 32 (vectored array count onFault) :=
  (atMost_descriptorsFrom array onFault _ 0 0).mono (Nat.min_le_right _ _)

theorem atMost_message (header : UInt64) (onFault : FaultPolicy) :
    AtMost 33 (message header onFault) :=
  (atMost_messageHeader header).bind fun h => atMost_vectored h.array h.count onFault

/-- However many descriptors an entry claims to have, it costs no more than a message. -/
theorem atMost_entriesFrom (headers : UInt64) (policy : Policy) (left entry : Nat)
    (total : UInt32) : AtMost (left * 33) (entriesFrom headers policy left entry total) := by
  induction left generalizing entry total with
  | zero => exact .value total
  | succ left ih =>
    have first := (atMost_reach (elementAddress? headers entry MessageHeader.stride)).bind
      fun start => atMost_message start policy.fault
    refine AtMost.mono (m := 0 + 33 + left * 33) ?_ (by omega)
    refine first.cases (fun _ => ih _ _) ?_
    cases policy.batch with
    | skipEntry => exact ih _ _
    | abortBatch => exact .fault

theorem atMost_batch (headers count : UInt64) (policy : Policy) :
    AtMost 264 (batch headers count policy) :=
  (atMost_entriesFrom headers policy _ 0 0).mono (Nat.mul_le_mul_right 33 (Nat.min_le_right _ 8))

/-- The accesses of a measurement: the arguments up to the first that is missing, and after all of
them a bounded number of reads. -/
inductive Measured (source : LengthSource) : Traced UInt32 → Prop
  | missing (before : List Nat) {after : List Nat} {slot : Nat}
      (slots : source.slots = before ++ slot :: after) :
      Measured source
        ⟨before.map .given ++ [.argument slot false], .error .missingArgument⟩
  | fault {reads : List (UInt64 × Bool)} (few : reads.length ≤ source.maxReads) :
      Measured source ⟨source.slots.map .given ++ reads.map .sixteen, .error .fault⟩
  | value {reads : List (UInt64 × Bool)} (few : reads.length ≤ source.maxReads)
      (length : UInt32) :
      Measured source ⟨source.slots.map .given ++ reads.map .sixteen, .ok length⟩

/-- Few questions give few reads, and an answer that does not blame the arguments. -/
theorem AtMost.ask {x : Inquiry α} (h : AtMost n x) (p : Respondent τ) (u : τ) :
    ∃ reads : List (UInt64 × Bool), reads.length ≤ n ∧
      (x.ask p u).1.accesses = reads.map .sixteen ∧
      ((x.ask p u).1.answer = .error .fault ∨ ∃ a, (x.ask p u).1.answer = .ok a) := by
  induction h generalizing u with
  | value a => exact ⟨[], by simp, rfl, .inr ⟨a, rfl⟩⟩
  | fault => exact ⟨[], by simp, rfl, .inl rfl⟩
  | @memory n address next _ ih =>
    obtain ⟨reads, few, accesses, answer⟩ :=
      ih (p.memory address 16 u).1 (p.memory address 16 u).2
    refine ⟨(address, (p.memory address 16 u).1.isSome) :: reads, ?_, ?_, answer⟩
    · simpa using few
    · simp [Inquiry.ask, accesses, Access.sixteen]

/-- What is asked once all arguments are there. -/
theorem AtMost.measured {source : LengthSource} {x : Inquiry UInt32}
    (h : AtMost source.maxReads x) (p : Respondent τ) (u : τ) :
    Measured source
      ⟨source.slots.map .given ++ (x.ask p u).1.accesses, (x.ask p u).1.answer⟩ := by
  obtain ⟨reads, few, accesses, answer | ⟨length, answer⟩⟩ := h.ask p u
  · rw [accesses, answer]
    exact .fault few
  · rw [accesses, answer]
    exact .value few length

theorem ask_readArgument (slot : Nat) (f : UInt64 → Inquiry α) (p : Respondent τ) (u : τ) :
    ((readArgument slot >>= f).ask p u).1 =
      match p.argument slot u with
      | (some value, u) =>
        ⟨.given slot :: ((f value).ask p u).1.accesses, ((f value).ask p u).1.answer⟩
      | (none, _) => ⟨[.argument slot false], .error .missingArgument⟩ := by
  rcases asked : p.argument slot u with ⟨value, u'⟩
  cases value <;> simp [bind, cases, readArgument, Inquiry.ask, asked, pure, Access.given]

theorem measured_one {source : LengthSource} {slot : Nat} (slots : source.slots = [slot])
    {f : UInt64 → Inquiry UInt32} (h : ∀ value, AtMost source.maxReads (f value))
    (p : Respondent τ) (u : τ) : Measured source ((readArgument slot >>= f).ask p u).1 := by
  rw [ask_readArgument]
  split
  · rename_i value u' _
    simpa [slots] using (h value).measured p u'
  · exact .missing [] slots

theorem measured_two {source : LengthSource} {first second : Nat}
    (slots : source.slots = [first, second]) {f : UInt64 → UInt64 → Inquiry UInt32}
    (h : ∀ a b, AtMost source.maxReads (f a b)) (p : Respondent τ) (u : τ) :
    Measured source
      ((readArgument first >>= fun a => readArgument second >>= f a).ask p u).1 := by
  rw [ask_readArgument]
  split
  · rename_i a u' _
    rw [ask_readArgument]
    split
    · rename_i b u'' _
      simpa [slots] using (h a b).measured p u''
    · exact .missing [first] slots
  · exact .missing [] slots

/-- A measurement asks for its arguments first, and for memory only if none is missing. -/
theorem measured_measure (source : LengthSource) (policy : Policy) (p : Respondent τ) (u : τ) :
    Measured source ((measure source policy).ask p u).1 := by
  cases source with
  | scalar length => exact measured_one rfl (fun value => .value _) p u
  | vectored array count =>
    have slots : (LengthSource.vectored array count).slots = [array, count] := rfl
    exact measured_two slots (fun a b => atMost_vectored a b policy.fault) p u
  | message header =>
    have slots : (LengthSource.message header).slots = [header] := rfl
    exact measured_one slots (fun start => atMost_message start policy.fault) p u
  | batch headers count =>
    have slots : (LengthSource.batch headers count).slots = [headers, count] := rfl
    exact measured_two slots (fun a b => atMost_batch a b policy) p u

end Inquiry

/-! ### The uses that a call makes of its surroundings -/

/-- The conversations of a call with its surroundings, for a caller that is measured or not and a
transport that has room or not. -/
inductive Conversation (op : Operation) : (admitted room : Bool) → List Step → Outcome → Prop
  | filtered {room : Bool} : Conversation op false room [] .filteredOut
  | saturated : Conversation op true false [.reserve op false] (.dropped .saturated)
  | missing {before after : List Nat} {slot : Nat}
      (slots : op.lengthSource.slots = before ++ slot :: after) :
      Conversation op true true
        (.reserve op true ::
          ((before.map Access.given ++ [Access.argument slot false]).map Step.access ++ [.discard]))
        (.dropped .missingArgument)
  | fault {reads : List (UInt64 × Bool)} (few : reads.length ≤ op.lengthSource.maxReads) :
      Conversation op true true
        (.reserve op true ::
          ((op.lengthSource.slots.map Access.given ++ reads.map Access.sixteen).map Step.access ++
            [.discard]))
        (.dropped .fault)
  | emitted {reads : List (UInt64 × Bool)} (few : reads.length ≤ op.lengthSource.maxReads)
      (length : UInt32) :
      Conversation op true true
        (.reserve op true ::
          ((op.lengthSource.slots.map Access.given ++ reads.map Access.sixteen).map Step.access ++
            [.write (Event.encode ⟨op, length⟩), .commit]))
        (.emitted ⟨op, length⟩)

section

variable {σ ω τ : Type}

/-- Does to a transport what a step says. A window is open from its reservation to its end. -/
def Transport.perform (t : Transport σ ω) : Option ω × σ → Step → Option ω × σ
  | (_, s), .reserve op _ =>
    match t.reserve? op s with
    | some (window, s) => (some window, s)
    | none => (none, s)
  | (some window, s), .write record =>
    let (window, s) := t.write window record s
    (some window, s)
  | (some window, s), .commit => (none, t.commit window s)
  | (some window, s), .discard => (none, t.discard window s)
  | s, _ => s

theorem Transport.perform_accesses (t : Transport σ ω) (s : Option ω × σ) (accesses : List Access) :
    (accesses.map Step.access).foldl t.perform s = s := by
  induction accesses generalizing s with
  | nil => rfl
  | cons a rest ih =>
    obtain ⟨_ | window, state⟩ := s <;> exact ih _

/-- Runs the probe of a call whose process may change while it is asked. -/
def handleAsking (t : Transport σ ω) (settings : ProbeSettings) (op : Operation)
    (caller : UInt64) (p : Respondent τ) (u : τ) (s : σ) : Handled σ :=
  if settings.target.admits caller then
    match t.reserve? op s with
    | none => ⟨.dropped .saturated, s, [.reserve op false]⟩
    | some (window, s) =>
      let measured := ((Inquiry.measure op.lengthSource settings.policy).ask p u).1
      let h := finish t op measured window s
      { h with steps := .reserve op true :: h.steps }
  else
    ⟨.filteredOut, s, []⟩

theorem handle_eq_asking (t : Transport σ ω) (settings : ProbeSettings) (r : Reader) (call : Call)
    (s : σ) : handle t settings r call s =
      handleAsking t settings call.op call.caller (.still call.arguments r) () s := by
  simp only [handle, handleAsking, ← Inquiry.run_measure]
  rfl

/-- Whatever the process, the transport and the caller are, a call is one of the conversations. Its
steps are all that the transport is used for, and leave no window open. Handling a call is the case
of a process that stands still. -/
theorem handle_protocol (t : Transport σ ω) (settings : ProbeSettings) (op : Operation)
    (caller : UInt64) (s : σ) :
    (∀ {τ : Type} (p : Respondent τ) (u : τ),
      let h := handleAsking t settings op caller p u s
      Conversation op (settings.target.admits caller) (t.reserve? op s).isSome h.steps h.outcome ∧
        h.steps.foldl t.perform (none, s) = (none, h.state)) ∧
      ∀ arguments r, handle t settings r ⟨op, caller, arguments⟩ s =
        handleAsking t settings op caller (.still arguments r) () s := by
  refine ⟨fun p u => ?_, fun arguments r => handle_eq_asking t settings r _ s⟩
  cases admitted : settings.target.admits caller with
  | false => simp [handleAsking, admitted, Conversation.filtered]
  | true =>
    cases granted : t.reserve? op s with
    | none => simp [handleAsking, admitted, granted, Conversation.saturated, Transport.perform]
    | some reserved =>
      obtain ⟨window, s'⟩ := reserved
      have asked := Inquiry.measured_measure op.lengthSource settings.policy p u
      simp only [handleAsking, admitted, if_true, granted, Option.isSome_some, List.foldl_cons]
      generalize ((Inquiry.measure op.lengthSource settings.policy).ask p u).1 = measured at asked
      cases asked with
      | missing _ slots =>
        refine ⟨.missing slots, ?_⟩
        simp only [finish, List.foldl_append, Transport.perform, granted, t.perform_accesses]
        rfl
      | fault few =>
        refine ⟨.fault few, ?_⟩
        simp only [finish, List.foldl_append, Transport.perform, granted, t.perform_accesses]
        rfl
      | value few length =>
        refine ⟨.emitted few length, ?_⟩
        simp only [finish, List.foldl_append, Transport.perform, granted, t.perform_accesses]
        rfl

end

end SyscallMeter
