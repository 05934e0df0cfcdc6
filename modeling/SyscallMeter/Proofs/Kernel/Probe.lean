import SyscallMeter.Kernel.Probe
import SyscallMeter.Proofs.Handler
import SyscallMeter.Proofs.Kernel.Counts
import SyscallMeter.Proofs.Tally

/-! What one run of a probe does to the maps. Its outcome decides all of it: which counts go up, what
is left in the event ring, and what is added to the totals. -/
namespace SyscallMeter

namespace Outcome

/-- What a call leaves in the event ring. A window that is discarded keeps its place. -/
def residue? : Outcome → Option Kernel.EventQueue.Entry
  | emitted e => some ⟨e.encode, false⟩
  | filteredOut | dropped .saturated => none
  | dropped _ => some ⟨List.replicate Event.recordSize 0, true⟩

/-- Of what is left in the event ring, the records that count are the encoded events. -/
theorem records_eq_events (outcomes : List Outcome) :
    ((outcomes.filterMap residue?).filter fun entry => ! entry.discarded).map (·.bytes) =
      (outcomes.filterMap event?).map Event.encode := by
  induction outcomes with
  | nil => rfl
  | cons o rest ih =>
    cases o with
    | filteredOut => exact ih
    | emitted e => exact congrArg (e.encode :: ·) ih
    | dropped reason => cases reason <;> exact ih

end Outcome

theorem Obstacle.residue?_dropped (o : Obstacle) : (Outcome.dropped o.dropReason).residue? =
    some ⟨List.replicate Event.recordSize 0, true⟩ := by
  cases o <;> rfl

namespace Kernel

variable {g : Globals} {op : Operation} {e : Entry} {r : Reader} {m : Maps}

/-- Whether a request is about the event ring. -/
def Request.usesEvents : Request → Bool
  | reserve .. | submit _ | discard => true
  | _ => false

/-- The 64-bit word at an offset, its lowest byte first, if all eight bytes are there. -/
def wordAt? (record : Octets) (offset : Nat) : Option UInt64 :=
  match record.drop offset with
  | b₀ :: b₁ :: b₂ :: b₃ :: b₄ :: b₅ :: b₆ :: b₇ :: _ =>
    some <| UInt64.ofNat <| b₀.toNat + 2 ^ 8 * b₁.toNat + 2 ^ 16 * b₂.toNat + 2 ^ 24 * b₃.toNat +
      2 ^ 32 * b₄.toNat + 2 ^ 40 * b₅.toNat + 2 ^ 48 * b₆.toNat + 2 ^ 56 * b₇.toNat
  | _ => none

/-- The call that a probe meets: its arguments are the words of the record from byte 16 on. -/
def Entry.invocation (op : Operation) (e : Entry) (r : Reader) : Invocation :=
  ⟨⟨op, e.caller, fun slot => wordAt? e.record (16 + 8 * slot)⟩, r⟩

theorem recordArguments_eq (record : Octets) :
    recordArguments record = fun slot => wordAt? record (16 + 8 * slot) := by
  funext slot
  have offset : argumentOffset slot = 16 + 8 * slot := by
    simp only [argumentOffset, argumentsOffset, Nat.mul_comm]
  have length : (record.drop (16 + 8 * slot)).length = record.length - (16 + 8 * slot) :=
    List.length_drop
  simp only [recordArguments, offset, wordAt?]
  split
  · rename_i long
    match record.drop (16 + 8 * slot), length with
    | b₀ :: b₁ :: b₂ :: b₃ :: b₄ :: b₅ :: b₆ :: b₇ :: rest, _ =>
      simp only [List.take_succ_cons, List.take_zero, Octets.toNat, Nat.mul_add, ← Nat.mul_assoc,
        ← Nat.add_assoc, Nat.reduceMul, Nat.reducePow, Nat.mul_zero, Nat.add_zero]
    | [], short | [_], short | [_, _], short | [_, _, _], short | [_, _, _, _], short
    | [_, _, _, _, _], short | [_, _, _, _, _, _], short | [_, _, _, _, _, _, _], short =>
      simp only [List.length_cons, List.length_nil] at short
      omega
  · rename_i short
    split
    · rename_i eight
      rw [eight] at length
      simp only [List.length_cons] at length
      omega
    · rfl

theorem EventQueue.toList_reserve {q room : EventQueue} {length : Nat}
    (granted : q.reserve? length = some room) : room.toList = q.toList := by
  unfold reserve? at granted
  split at granted
  · cases granted
  · cases granted
    rfl

/-! ### Handling through the event ring -/

/-- A call changes nothing but the event ring, and leaves there what its outcome tells. -/
theorem handle_stream (settings : ProbeSettings) (i : Invocation) (m : Maps) :
    ∃ events, (handle streamTransport settings i.reader i.call m).state = { m with events } ∧
      events.toList = m.events.toList ++
        (handle streamTransport settings i.reader i.call m).outcome.residue?.toList := by
  by_cases admitted : settings.target.admits i.call.caller
  · cases granted : m.events.reserve? Event.recordSize with
    | none =>
      exact ⟨m.events, by simp [handle, admitted, streamTransport, granted],
        by simp [handle, admitted, streamTransport, granted, Outcome.residue?]⟩
    | some room =>
      simp only [handle, admitted, if_true, streamTransport, granted, Option.map_some, finish]
      cases (measure i.call.op.lengthSource i.call.arguments i.reader settings.policy).answer with
      | ok length =>
        refine ⟨_, rfl, ?_⟩
        rw [EventQueue.toList_finish, EventQueue.toList_reserve granted]
        rfl
      | error obstacle =>
        refine ⟨_, rfl, ?_⟩
        rw [EventQueue.toList_finish, EventQueue.toList_reserve granted,
          obstacle.residue?_dropped]
        rfl
  · exact ⟨m.events, by simp [handle, admitted], by simp [handle, admitted, Outcome.residue?]⟩

theorem reserve_ne_accessRequest (length : Nat) (granted : Bool) (a : Access) :
    .reserve length granted ≠ accessRequest a := by
  cases a <;> exact Request.noConfusion

/-- A reservation is seen to be refused exactly if the call found no room. -/
theorem refused_stream_iff (settings : ProbeSettings) (i : Invocation) (m : Maps) :
    .reserve Event.recordSize false ∈
        (handle streamTransport settings i.reader i.call m).steps.flatMap streamRequests ↔
      (handle streamTransport settings i.reader i.call m).outcome = .dropped .saturated := by
  by_cases admitted : settings.target.admits i.call.caller
  · cases granted : m.events.reserve? Event.recordSize with
    | none => simp [handle, admitted, streamTransport, granted, streamRequests]
    | some room =>
      simp only [handle, admitted, if_true, streamTransport, granted, Option.map_some, finish]
      cases (measure i.call.op.lengthSource i.call.arguments i.reader settings.policy).answer with
      | ok length => simp [streamRequests, List.flatMap_map, reserve_ne_accessRequest]
      | error obstacle =>
        simp [streamRequests, List.flatMap_map, reserve_ne_accessRequest,
          obstacle.dropReason_ne_saturated]
  · simp [handle, admitted]

/-! ### Handling through the totals -/

/-- The totals after a call of an operation. An event whose row cannot be looked up is lost. -/
def Maps.totalsAfter (m : Maps) (op : Operation) (o : Outcome) : TotalsTable :=
  if m.hasTotals op then o.event?.toList.foldl TotalsTable.add m.totals else m.totals

/-- A call changes nothing but the totals, to which it adds its event if it publishes one. -/
theorem handle_totalsTransport (settings : ProbeSettings) (i : Invocation) (m : Maps) :
    (handle totalsTransport settings i.reader i.call m).state =
      { m with totals := m.totalsAfter i.call.op (i.verdict settings) } := by
  by_cases admitted : settings.target.admits i.call.caller
  · simp only [handle, admitted, if_true, totalsTransport, finish, Invocation.verdict,
      Invocation.admitted, Invocation.measured]
    cases (measure i.call.op.lengthSource i.call.arguments i.reader settings.policy).answer with
    | ok length =>
      simp only [Event.decode_encode, Maps.totalsAfter]
      split <;> rfl
    | error obstacle => simp [Maps.totalsAfter, Outcome.event?]
  · simp [handle, admitted, Invocation.verdict, Invocation.admitted, Outcome.event?,
      Maps.totalsAfter]

/-- A call through the totals asks nothing of the event ring. -/
theorem usesEvents_totalsRequests {op : Operation} {step : Step} {request : Request}
    (asked : request ∈ totalsRequests m op step) : request.usesEvents = false := by
  cases step with
  | access a =>
    obtain rfl := List.mem_singleton.mp asked
    cases a <;> rfl
  | commit =>
    obtain rfl := List.mem_singleton.mp asked
    rfl
  | reserve | write | discard => cases asked

/-! ### Running a probe -/

theorem runProbe_answer (g : Globals) (r : Reader) (op : Operation) (e : Entry) (m : Maps) :
    (runProbe g r op e m).answer = probeReturn := by
  simp only [runProbe]
  split
  · split <;> rfl
  · rfl

/-- Whether no reservation of a probe was refused. -/
def ProbeRun.granted (run : ProbeRun) : Bool :=
  ! run.requests.contains (.reserve Event.recordSize false)

theorem ProbeRun.granted_of_usesEvents {run : ProbeRun}
    (away : ∀ request ∈ run.requests, request.usesEvents = false) : run.granted = true := by
  have never : .reserve Event.recordSize false ∉ run.requests := fun asked =>
    Bool.noConfusion (away _ asked)
  simp [granted, never]

theorem Maps.bump_setEvents (m : Maps) (events : EventQueue) (processor : Nat)
    (stat : ProbeStat) : ({ m with events } : Maps).bump processor stat =
      { m.bump processor stat with events } := by
  unfold bump
  split <;> split <;> first | rfl | contradiction

theorem Maps.bump_setTotals (m : Maps) (totals : TotalsTable) (processor : Nat)
    (stat : ProbeStat) : ({ m with totals } : Maps).bump processor stat =
      { m.bump processor stat with totals } := by
  unfold bump
  split <;> split <;> first | rfl | contradiction

theorem runProbe_filtered (filtered : (e.invocation op r).admitted g.settings = false) :
    runProbe g r op e m = ⟨m, [], [], probeReturn⟩ := by
  have away : g.settings.target.admits e.caller = false := filtered
  simp [runProbe, away]

/-- The outcome of an admitted call is counted behind its being admitted. -/
theorem runProbe_admitted (admitted : (e.invocation op r).admitted g.settings = true)
    {o : Outcome} {after : Maps} {requests : List Request}
    (handled : handleCall g r (e.invocation op r).call (m.bump e.processor .admitted) =
      (o, after, requests)) {stat : ProbeStat} (counts : o.stat? = some stat) :
    (runProbe g r op e m).maps = after.bump e.processor stat ∧
      (runProbe g r op e m).requests =
        .stat ProbeStat.admitted.index (m.hasStat .admitted) :: requests ++
          [.stat stat.index (after.hasStat stat)] := by
  have inside : g.settings.target.admits e.caller = true := admitted
  have handled : handleCall g r ⟨op, e.caller, recordArguments e.record⟩
      (m.bump e.processor .admitted) = (o, after, requests) := by
    rw [recordArguments_eq]
    exact handled
  simp [runProbe, inside, handled, counts]

theorem stat?_of_admitted {i : Invocation} {settings : ProbeSettings}
    (admitted : i.admitted settings = true) (room : Bool) :
    ∃ stat, (i.outcome settings room).stat? = some stat := by
  cases ended : i.outcome settings room with
  | filteredOut =>
    rw [Invocation.outcome_eq_filteredOut_iff, admitted] at ended
    contradiction
  | emitted e => exact ⟨_, rfl⟩
  | dropped reason => cases reason <;> exact ⟨_, rfl⟩

/-- A reservation is refused exactly to a call that finds no room, so a call ends the way that the
reservation was answered. -/
theorem outcome_of_granted {i : Invocation} {settings : ProbeSettings} {room granted : Bool}
    (refused : granted = false ↔ i.outcome settings room = .dropped .saturated) :
    i.outcome settings granted = i.outcome settings room := by
  cases granted with
  | false =>
    have lost := refused.mp rfl
    obtain ⟨admitted, -⟩ := Invocation.outcome_eq_saturated_iff.mp lost
    rw [lost]
    exact Invocation.outcome_eq_saturated_iff.mpr ⟨admitted, rfl⟩
  | true =>
    have found := mt refused.mpr (by decide)
    rw [Invocation.outcome_of_room, Invocation.outcome_of_ne_saturated found]

/-- A probe that sends events through the ring counts its outcome and leaves in the ring what the
outcome tells. -/
theorem runProbe_stream (mode : Mode.ofByte g.mode = .stream) (r : Reader) (op : Operation)
    (e : Entry) (m : Maps) :
    let run := runProbe g r op e m
    let o := (e.invocation op r).outcome g.settings run.granted
    ∃ events, run.maps = { m.counted e.processor o with events } ∧
      events.toList = m.events.toList ++ o.residue?.toList := by
  intro run o
  let i := e.invocation op r
  cases admitted : i.admitted g.settings with
  | false =>
    have away : run = ⟨m, [], [], probeReturn⟩ := runProbe_filtered admitted
    have ended : o = .filteredOut := Invocation.outcome_eq_filteredOut_iff.mpr admitted
    refine ⟨m.events, ?_, ?_⟩
    · rw [away, ended]
      rfl
    · rw [ended]
      exact (List.append_nil _).symm
  | true =>
    let entered := m.bump e.processor .admitted
    let h := handle streamTransport g.settings i.reader i.call entered
    have handled : handleCall g r i.call entered =
        (h.outcome, h.state, h.steps.flatMap streamRequests) := by
      simp [handleCall, mode, h, i, Entry.invocation]
    have ended : h.outcome = i.outcome g.settings _ :=
      handle_outcome streamTransport g.settings i entered
    obtain ⟨stat, counts⟩ := stat?_of_admitted admitted
      (streamTransport.reserve? i.call.op entered).isSome
    rw [← ended] at counts
    obtain ⟨maps, requests⟩ := runProbe_admitted admitted handled counts
    -- Only the handler asks for room, so a refusal among the requests is the one it met.
    have refused : run.granted = false ↔ h.outcome = .dropped .saturated := by
      rw [← refused_stream_iff]
      simp [ProbeRun.granted, run, requests, h]
    have same : o = h.outcome := by
      rw [ended] at refused ⊢
      exact outcome_of_granted refused
    obtain ⟨events, state, entries⟩ := handle_stream g.settings i entered
    refine ⟨events, ?_, ?_⟩
    · rw [maps, state, Maps.bump_setEvents, same, Maps.counted_of_stat? counts]
    · rw [entries, same, Maps.bump_events]

/-- A probe that updates totals counts its outcome, adds its event if its row can be looked up, and
asks nothing of the event ring. -/
theorem runProbe_totals (mode : Mode.ofByte g.mode = .counters) (r : Reader) (op : Operation)
    (e : Entry) (m : Maps) :
    let run := runProbe g r op e m
    let o := (e.invocation op r).verdict g.settings
    (∀ request ∈ run.requests, request.usesEvents = false) ∧
      run.maps = { m.counted e.processor o with totals := m.totalsAfter op o } := by
  intro run o
  let i := e.invocation op r
  cases admitted : i.admitted g.settings with
  | false =>
    have away : run = ⟨m, [], [], probeReturn⟩ := runProbe_filtered admitted
    have ended : o = .filteredOut := Invocation.verdict_of_filtered admitted
    have same : m.totalsAfter op .filteredOut = m.totals := ite_self _
    rw [away, ended, same]
    exact ⟨fun _ none => absurd none List.not_mem_nil, rfl⟩
  | true =>
    let entered := m.bump e.processor .admitted
    let h := handle totalsTransport g.settings i.reader i.call entered
    have handled : handleCall g r i.call entered =
        (h.outcome, h.state, h.steps.flatMap (totalsRequests entered op)) := by
      simp [handleCall, mode, h, i, Entry.invocation]
    have ended : h.outcome = o := by
      rw [handle_outcome]
      exact Invocation.outcome_of_room g.settings i
    obtain ⟨stat, counts⟩ := stat?_of_admitted admitted true
    rw [Invocation.outcome_of_room] at counts
    have counts : h.outcome.stat? = some stat := by rw [ended, counts]
    obtain ⟨maps, requests⟩ := runProbe_admitted admitted handled counts
    have state : h.state = { entered with totals := entered.totalsAfter op o } :=
      handle_totalsTransport g.settings i entered
    have totals : entered.totalsAfter op o = m.totalsAfter op o := by
      have row : entered.hasTotals op = m.hasTotals op := by
        simp only [Maps.hasTotals, entered, Maps.bump_totalSlots]
      rw [Maps.totalsAfter, row, Maps.bump_totals]
      rfl
    refine ⟨fun request asked => ?_, ?_⟩
    · simp only [run, requests, List.mem_append, List.mem_cons, List.mem_flatMap, List.mem_nil_iff,
        or_false] at asked
      obtain (rfl | ⟨step, -, asked⟩) | rfl := asked
      · rfl
      · exact usesEvents_totalsRequests asked
      · rfl
    · rw [maps, state, totals, Maps.bump_setTotals, ← ended, Maps.counted_of_stat? counts]

/-- Where every row can be looked up, no event is lost. -/
theorem runProbe_counters (mode : Mode.ofByte g.mode = .counters) (r : Reader) (op : Operation)
    (e : Entry) (m : Maps) (slots : m.hasTotals op) :
    let run := runProbe g r op e m
    let o := (e.invocation op r).verdict g.settings
    (∀ request ∈ run.requests, request.usesEvents = false) ∧
      run.maps = { m.counted e.processor o with
        totals := o.event?.toList.foldl TotalsTable.add m.totals } := by
  intro run o
  have all : m.totalsAfter op o = o.event?.toList.foldl TotalsTable.add m.totals := if_pos slots
  rw [← all]
  exact runProbe_totals mode r op e m

/-- What a probe does to the maps. Each transport leaves the map of the other one alone. -/
theorem runProbe_maps (g : Globals) (r : Reader) (op : Operation) (e : Entry) (m : Maps)
    (slots : m.hasTotals op) :
    let run := runProbe g r op e m
    let o := (e.invocation op r).outcome g.settings run.granted
    ∃ events totals, run.maps = { m.counted e.processor o with events, totals } ∧
      (Mode.ofByte g.mode = .stream →
        events.toList = m.events.toList ++ o.residue?.toList ∧ totals = m.totals) ∧
      (Mode.ofByte g.mode = .counters →
        events = m.events ∧ totals = o.event?.toList.foldl TotalsTable.add m.totals) := by
  intro run o
  cases mode : Mode.ofByte g.mode with
  | stream =>
    obtain ⟨events, maps, entries⟩ := runProbe_stream mode r op e m
    refine ⟨events, m.totals, ?_, fun _ => ⟨entries, rfl⟩, fun other => Mode.noConfusion other⟩
    rw [maps, ← Maps.counted_totals m e.processor o]
  | counters =>
    obtain ⟨away, maps⟩ := runProbe_counters mode r op e m slots
    have room : run.granted = true := ProbeRun.granted_of_usesEvents away
    have ended : o = (e.invocation op r).verdict g.settings := by
      simp only [o, room, Invocation.outcome_of_room]
    refine ⟨m.events, o.event?.toList.foldl TotalsTable.add m.totals, ?_,
      fun other => Mode.noConfusion other, fun _ => ⟨rfl, rfl⟩⟩
    rw [maps, ended, ← Maps.counted_events m e.processor o, ended]

end Kernel
end SyscallMeter
