import SyscallMeter.Proofs.Kernel.Probe
import SyscallMeter.Run.World

/-! The records that wait in the event ring. Whatever happens adds to them and takes none away, and
a reading of the ring takes all of them, in their order. -/
namespace SyscallMeter

namespace Kernel

namespace EventQueue

/-- The records that wait. A discarded entry is none. -/
def records (q : EventQueue) : List Octets :=
  (q.toList.filter fun entry => ! entry.discarded).map (·.bytes)

theorem length_toList (q : EventQueue) : q.toList.length = q.entries := by
  simp [toList, entries]

theorem pop?_eq_none {q : EventQueue} (empty : q.pop? = none) : q.toList = [] := by
  unfold pop? at empty
  split at empty
  · cases empty
  · cases empty
  · rename_i front back
    rw [toList, front, back, List.append_nil]

theorem takeRecords_of_length {q : EventQueue} {count : Nat} (all : q.toList.length = count) :
    (q.takeRecords count).1 = q.records ∧ (q.takeRecords count).2.toList = [] := by
  induction count generalizing q with
  | zero =>
    have nothing : q.toList = [] := List.eq_nil_of_length_eq_zero all
    simp [takeRecords, records, nothing]
  | succ count ih =>
    cases popped : q.pop? with
    | none =>
      rw [pop?_eq_none popped] at all
      cases all
    | some first =>
      obtain ⟨entry, rest⟩ := first
      have order : q.toList = entry :: rest.toList := toList_pop popped
      have shorter : rest.toList.length = count := by
        rw [order] at all
        exact Nat.succ.inj all
      obtain ⟨others, nothing⟩ := ih shorter
      simp only [takeRecords, popped]
      refine ⟨?_, nothing⟩
      cases discarded : entry.discarded <;> simp [others, records, order, discarded]

theorem drain_fst (q : EventQueue) : q.drain.1 = q.records :=
  (takeRecords_of_length q.length_toList).1

theorem records_drain (q : EventQueue) : q.drain.2.records = [] := by
  rw [records, drain, (takeRecords_of_length q.length_toList).2]
  rfl

theorem records_prefix {q q' : EventQueue} (more : q.toList <+: q'.toList) :
    q.records <+: q'.records := (more.filter _).map _

theorem toList_inject (q : EventQueue) (bytes : Octets) :
    (q.inject bytes).toList = q.toList ++ [⟨bytes, false⟩] := by simp [toList, inject]

theorem records_inject (q : EventQueue) (bytes : Octets) :
    (q.inject bytes).records = q.records ++ [bytes] := by
  simp [records, toList_inject]

end EventQueue

/-- A call through the totals leaves the event ring alone, also where its slot cannot be looked
up. -/
theorem handle_totalsTransport_events (settings : ProbeSettings) (r : Reader) (call : Call)
    (m : Maps) : (handle totalsTransport settings r call m).state.events = m.events :=
  congrArg (·.events) (handle_totalsTransport settings ⟨call, r⟩ m)

theorem handleCall_events_prefix (g : Globals) (r : Reader) (call : Call) (m : Maps) :
    m.events.toList <+: (handleCall g r call m).2.1.events.toList := by
  unfold handleCall
  split
  · obtain ⟨events, state, order⟩ := handle_stream g.settings ⟨call, r⟩ m
    simp only [state, order]
    exact List.prefix_append _ _
  · simp only [handle_totalsTransport_events]
    exact List.prefix_rfl

theorem prefix_events_runProbe (g : Globals) (r : Reader) (op : Operation) (e : Entry) (m : Maps) :
    m.events.toList <+: (runProbe g r op e m).maps.events.toList := by
  simp only [runProbe]
  split
  · have call := handleCall_events_prefix g r ⟨op, e.caller, recordArguments e.record⟩
      (m.bump e.processor .admitted)
    rw [Maps.bump_events] at call
    split
    · exact call
    · rwa [Maps.bump_events]
  · exact List.prefix_rfl

namespace Host

theorem enter_events_prefix (h : Host) (tracepoint : String) (e : Entry) :
    h.maps.events.toList <+: (h.enter tracepoint e).maps.events.toList := by
  unfold enter
  induction h.attached.filter (fun op => op.tracepoint == tracepoint) generalizing h with
  | nil => exact List.prefix_rfl
  | cons op rest ih =>
    exact (prefix_events_runProbe h.globals h.memory.reader op e h.maps).trans (ih (h.probed op e))

theorem enterTimes_events_prefix (h : Host) (tracepoint : String) (e : Entry) (times : Nat) :
    h.maps.events.toList <+: (h.enterTimes tracepoint e times).maps.events.toList := by
  induction times generalizing h with
  | zero => exact List.prefix_rfl
  | succ times ih => exact (h.enter_events_prefix tracepoint e).trans (ih _)

end Host

end Kernel

namespace World

/-- The records that wait in the event ring. -/
def waiting (w : World) : List Octets := w.kernel.maps.events.records

/-- The world after some things happened. -/
def happenAll (w : World) (happenings : List Happening) : World := happenings.foldl happen w

/-- The records that come while some things happen. -/
def arriving (w : World) (happenings : List Happening) : List Octets :=
  (w.happenAll happenings).waiting.drop w.waiting.length

theorem happen_events_prefix (w : World) (h : Happening) :
    w.kernel.maps.events.toList <+: (w.happen h).kernel.maps.events.toList := by
  cases h with
  | syscall tracepoint entry times =>
    exact w.kernel.enterTimes_events_prefix tracepoint entry times
  | inject record =>
    rw [happen, modifyMaps, modifyKernel, Kernel.EventQueue.toList_inject]
    exact List.prefix_append _ _
  | setStat slot processor count => exact List.prefix_rfl
  | memory | exit | exitAll | interrupt => exact List.prefix_rfl

theorem happenAll_events_prefix (w : World) (happenings : List Happening) :
    w.kernel.maps.events.toList <+: (w.happenAll happenings).kernel.maps.events.toList := by
  induction happenings generalizing w with
  | nil => exact List.prefix_rfl
  | cons h rest ih => exact (w.happen_events_prefix h).trans (ih (w.happen h))

/-- No record that waits is lost by what happens. -/
theorem waiting_happenAll (w : World) (happenings : List Happening) :
    (w.happenAll happenings).waiting = w.waiting ++ w.arriving happenings := by
  obtain ⟨new, order⟩ := Kernel.EventQueue.records_prefix (w.happenAll_events_prefix happenings)
  have arrived : w.arriving happenings = new := by
    rw [arriving, waiting, waiting, ← order, List.drop_left]
  rw [arrived, waiting, waiting, order]

end World

/-- The record that comes without any probe. -/
def Happening.injected? : Happening → Option Octets
  | inject record => some record
  | _ => none

def Happening.isSyscall : Happening → Bool
  | syscall .. => true
  | _ => false

namespace World

theorem waiting_happen (w : World) {h : Happening} (other : h.isSyscall = false) :
    (w.happen h).waiting = w.waiting ++ h.injected?.toList := by
  cases h with
  | syscall => cases other
  | inject record => exact Kernel.EventQueue.records_inject _ record
  | setStat | memory | exit | exitAll | interrupt => exact (List.append_nil _).symm

/-- Where no probe runs, just the injected records come. -/
theorem arriving_of_no_syscall (w : World) {happenings : List Happening}
    (others : ∀ h ∈ happenings, h.isSyscall = false) :
    w.arriving happenings = happenings.filterMap Happening.injected? := by
  refine (List.append_right_inj w.waiting).mp ?_
  rw [← waiting_happenAll]
  induction happenings generalizing w with
  | nil => simp [happenAll]
  | cons h rest ih =>
    have first := w.waiting_happen (others h List.mem_cons_self)
    have later := ih (w.happen h) fun h' member => others h' (List.mem_cons_of_mem _ member)
    rw [first, List.append_assoc] at later
    change ((w.happen h).happenAll rest).waiting = _
    cases record : h.injected? <;> simpa [record] using later

end World

end SyscallMeter
