import SyscallMeter.Proofs.Kernel.Waiting
import SyscallMeter.Proofs.Run.Result

/-! What a run counts between its first look and its report. However the records come in between
the looks and after the last of them, each is counted once; and no look at the totals changes
them. -/
namespace SyscallMeter

theorem Tally.ingestAll_append (t : Tally) (first second : List Octets) :
    (t.ingestAll (first ++ second)).2 = ((t.ingestAll first).2.ingestAll second).2 := by
  induction first generalizing t with
  | nil => rfl
  | cons record rest ih => exact ih (t.ingest record).2

/-- Nothing but the effects may differ. -/
def World.Tells (world world' : World) : Prop := ∃ effects, world' = { world with effects }

namespace World.Tells

theorem refl (world : World) : Tells world world := ⟨world.effects, rfl⟩

theorem trans {world world' world'' : World} (first : Tells world world')
    (second : Tells world' world'') : Tells world world'' := by
  obtain ⟨_, rfl⟩ := first
  obtain ⟨effects, rfl⟩ := second
  exact ⟨effects, rfl⟩

theorem kernel {world world' : World} (told : Tells world world') :
    world'.kernel = world.kernel := by
  obtain ⟨_, rfl⟩ := told
  rfl

theorem looks {world world' : World} (told : Tells world world') :
    world'.looks = world.looks := by
  obtain ⟨_, rfl⟩ := told
  rfl

theorem waiting {world world' : World} (told : Tells world world') :
    world'.waiting = world.waiting := congrArg (·.maps.events.records) told.kernel

end World.Tells

theorem World.waiting_pass (world : World) (happenings : List Happening) :
    (world.pass happenings).waiting = world.waiting ++ world.arriving happenings :=
  world.waiting_happenAll happenings

theorem World.happenAll_append (world : World) (first second : List Happening) :
    world.happenAll (first ++ second) = (world.happenAll first).happenAll second :=
  List.foldl_append

theorem World.looks_happenAll (world : World) (happenings : List Happening) :
    (world.happenAll happenings).looks = world.looks := by
  induction happenings generalizing world with
  | nil => rfl
  | cons h rest ih =>
    have first : (world.happen h).looks = world.looks := by cases h <;> rfl
    exact (ih _).trans first

/-- What happens changes the kernel without regard to the rest of the world. -/
theorem World.kernel_happenAll {world world' : World} (same : world.kernel = world'.kernel)
    (happenings : List Happening) :
    (world.happenAll happenings).kernel = (world'.happenAll happenings).kernel := by
  induction happenings generalizing world world' with
  | nil => exact same
  | cons h rest ih =>
    refine ih ?_
    cases h <;> simp only [happen, modifyMaps, modifyKernel, same]

namespace Run

variable {s : Settings} {quiet : Bool} {mode : Mode} {t : Tally} {w : Watch} {world : World}

theorem gives_emit (e : Effect) : Gives (emit e) world fun _ world' => world.Tells world' :=
  ⟨(), _, rfl, _, rfl⟩

theorem gives_warnings (results : List (Except RecordError Event)) :
    Gives (results.forM warnOf) world fun _ world' => world.Tells world' := by
  induction results generalizing world with
  | nil => exact .pure (.refl world)
  | cons first rest ih =>
    have warned : Gives (warnOf first) world fun _ world' => world.Tells world' := by
      cases first with
      | ok event => exact .pure (.refl world)
      | error e => exact gives_emit _
    exact warned.bind fun _ world' told => ih.imp fun _ _ => told.trans

/-- The world after a reading of the event ring. -/
def drained (world : World) : World := world.modifyKernel fun k => k.drain.2

theorem waiting_drained (world : World) : (drained world).waiting = [] :=
  Kernel.EventQueue.records_drain _

theorem gives_drainEvents : Gives (drainEvents t) world fun t' world' =>
    t' = (t.ingestAll world.waiting).2 ∧ (drained world).Tells world' := by
  unfold drainEvents
  refine .get_bind (.modify_bind (.bind (gives_warnings _) fun _ world' told => .pure ⟨?_, told⟩))
  exact congrArg (fun records => (t.ingestAll records).2) (Kernel.EventQueue.drain_fst _)

theorem gives_takeEvents : Gives (takeEvents w) world fun w' world' =>
    w'.tally = (w.tally.ingestAll world.waiting).2 ∧ (drained world).Tells world' := by
  unfold takeEvents
  refine .bind gives_drainEvents ?_
  rintro _ world' ⟨rfl, told⟩
  dsimp only
  split
  · exact .bind (gives_emit _) fun _ world'' tells => .pure ⟨rfl, told.trans tells⟩
  · exact .pure ⟨rfl, told⟩

/-- Showing the totals changes none of them. -/
theorem gives_showTotals : Gives (showTotals mode w) world fun w' world' =>
    w'.tally = w.tally ∧ world.Tells world' := by
  unfold showTotals
  split
  · have shown {line : Run Unit} (told : Gives line world fun _ world' => world.Tells world') :
        Gives (do line; return { w with shownAt := w.now }) world fun w' world' =>
          w'.tally = w.tally ∧ world.Tells world' :=
      .bind told fun _ world' told => .pure ⟨rfl, told⟩
    cases mode with
    | stream => exact shown (gives_emit _)
    | counters =>
      refine .get_bind ?_
      dsimp only
      split <;> exact shown (gives_emit _)
  · exact .pure ⟨rfl, .refl world⟩

/-- What a run reads at one look. -/
def read (s : Settings) (quiet : Bool) (w : Watch) : Run Watch := do
  let w ← if s.mode = .stream then takeEvents w else pure w
  if quiet then pure w else showTotals s.mode w

/-- One look, after which there may be a reason to stop. -/
def look (s : Settings) (quiet : Bool) (w : Watch) (happenings : List Happening) :
    Run (Option ExitReason × Watch) := do
  modify fun world => world.pass happenings
  if (← get).machine.exists_ s.pid then
    let w ← read s quiet w
    return if happenings.any Happening.isInterrupt then (some .interrupted, w)
      else (none, { w with now := w.now + Watch.period })
  else return (some .processExited, w)

theorem watch_cons (happenings : List Happening) (rest : Course) :
    watch s quiet w (happenings :: rest) =
      if w.isOver s then return (.durationReached, w)
      else (do
        match ← look s quiet w happenings with
        | (some reason, w) => return (reason, w)
        | (none, w) => watch s quiet w rest) := by
  rw [watch]
  split
  · rfl
  · simp only [look, bind_assoc]
    refine bind_congr fun _ => bind_congr fun world => ?_
    cases world.machine.exists_ s.pid
    · simp
    · by_cases stream : s.mode = .stream <;> cases quiet <;>
        cases happenings.any Happening.isInterrupt <;> simp [read, stream]

theorem gives_read_stream (stream : s.mode = .stream) :
    Gives (read s quiet w) world fun w' world' =>
      w'.tally = (w.tally.ingestAll world.waiting).2 ∧ (drained world).Tells world' := by
  unfold read
  rw [if_pos stream]
  refine .bind gives_takeEvents ?_
  rintro w₁ world₁ ⟨counted, told⟩
  split
  · exact .pure ⟨counted, told⟩
  · exact gives_showTotals.imp fun w₂ world₂ ⟨same, tells⟩ =>
      ⟨same.trans counted, told.trans tells⟩

theorem gives_read_counters (counters : s.mode = .counters) :
    Gives (read s quiet w) world fun _ world' => world.Tells world' := by
  have other : s.mode ≠ .stream := by simp [counters]
  unfold read
  rw [if_neg other, pure_bind]
  split
  · exact .pure (.refl world)
  · exact gives_showTotals.imp fun _ _ ⟨_, told⟩ => told

theorem looks_pass (world : World) (happenings : List Happening) :
    (world.pass happenings).looks = world.looks + 1 :=
  congrArg (· + 1) (world.looks_happenAll happenings)

/-- A look leaves no record out: what was counted and what waits is what was counted and waited
before, and what has come since. -/
theorem gives_look_stream (stream : s.mode = .stream) (happenings : List Happening) :
    Gives (look s quiet w happenings) world fun stopped world' =>
      (stopped.2.tally.ingestAll world'.waiting).2
        = (w.tally.ingestAll (world.waiting ++ world.arriving happenings)).2 ∧
      world'.looks = world.looks + 1 := by
  unfold look
  refine .modify_bind (.get_bind ?_)
  split
  · refine .bind (gives_read_stream stream) ?_
    rintro w' world' ⟨counted, told⟩
    have nothing : world'.waiting = [] := told.waiting.trans (waiting_drained _)
    have looked : world'.looks = world.looks + 1 := told.looks.trans (looks_pass ..)
    rw [World.waiting_pass] at counted
    refine .pure ⟨?_, looked⟩
    rw [nothing, ← counted]
    split <;> rfl
  · exact .pure ⟨by rw [World.waiting_pass], looks_pass ..⟩

/-- A look leaves the totals as they are. -/
theorem gives_look_counters (counters : s.mode = .counters) (happenings : List Happening) :
    Gives (look s quiet w happenings) world fun _ world' =>
      world'.kernel = (world.happenAll happenings).kernel ∧ world'.looks = world.looks + 1 := by
  unfold look
  refine .modify_bind (.get_bind ?_)
  split
  · exact .bind (gives_read_counters counters) fun _ world' told =>
      .pure ⟨told.kernel, told.looks.trans (looks_pass ..)⟩
  · exact .pure ⟨rfl, looks_pass ..⟩

/-- The records that come while a run looks again and again. -/
def arrived (s : Settings) (quiet : Bool) (w : Watch) (world : World) : Course → List Octets
  | [] => []
  | happenings :: rest =>
    if w.isOver s then []
    else world.arriving happenings ++
      match (look s quiet w happenings).result world with
      | (.ok (none, w), world) => arrived s quiet w world rest
      | _ => []

/-- Where no probe runs, the records that come are those injected up to the last look. -/
def Injected (course : Course) (looks : Nat) (records : List Octets) : Prop :=
  (∀ h ∈ course.flatten, h.isSyscall = false) →
    records = (course.take looks).flatten.filterMap Happening.injected?

theorem gives_watch_stream (stream : s.mode = .stream) (course : Course) :
    Gives (watch s quiet w course) world fun stopped world' =>
      (stopped.2.tally.ingestAll world'.waiting).2
        = (w.tally.ingestAll (world.waiting ++ arrived s quiet w world course)).2 ∧
      ∃ looks, world'.looks = world.looks + looks ∧
        Injected course looks (arrived s quiet w world course) := by
  induction course generalizing w world with
  | nil => exact .pure ⟨by simp [arrived], 0, rfl, fun _ => by simp [arrived]⟩
  | cons happenings rest ih =>
    rw [watch_cons, arrived]
    split
    · exact .pure ⟨by simp, 0, rfl, fun _ => by simp⟩
    · have gives : Gives (look s quiet w happenings) world _ := gives_look_stream stream happenings
      obtain ⟨⟨stop, w₁⟩, world₁, looked, counted, once⟩ := gives
      rw [looked]
      refine .bind_of_ok looked ?_
      cases stop with
      | some reason =>
        refine .pure ⟨by simpa using counted, 1, once, fun others => ?_⟩
        have others' : ∀ h ∈ happenings, h.isSyscall = false :=
          fun h member => others h (List.mem_flatten_of_mem List.mem_cons_self member)
        simp [world.arriving_of_no_syscall others']
      | none =>
        refine ih.imp ?_
        rintro ⟨reason, w₂⟩ world₂ ⟨total, looks, more, injected⟩
        refine ⟨?_, looks + 1, by omega, fun others => ?_⟩
        · rw [total, Tally.ingestAll_append, counted, ← Tally.ingestAll_append, List.append_assoc]
        · rw [List.flatten_cons, List.forall_mem_append] at others
          simp [world.arriving_of_no_syscall others.1, injected others.2]

/-- The kernel after a run has looked is the one that what happened makes of it. -/
theorem gives_watch_counters (counters : s.mode = .counters) (course : Course) :
    Gives (watch s quiet w course) world fun _ world' =>
      ∃ looks, world'.looks = world.looks + looks ∧
        world'.kernel = (world.happenAll (course.take looks).flatten).kernel := by
  induction course generalizing w world with
  | nil => exact .pure ⟨0, rfl, rfl⟩
  | cons happenings rest ih =>
    rw [watch_cons]
    split
    · exact .pure ⟨0, rfl, rfl⟩
    · refine .bind (gives_look_counters counters happenings) ?_
      rintro ⟨stop, w₁⟩ world₁ ⟨kernel, once⟩
      cases stop with
      | some reason => exact .pure ⟨1, once, by simpa using kernel⟩
      | none =>
        refine ih.imp ?_
        rintro _ world₂ ⟨looks, more, later⟩
        refine ⟨looks + 1, by omega, ?_⟩
        rw [later, List.take_succ_cons, List.flatten_cons, World.happenAll_append]
        exact World.kernel_happenAll kernel _

/-- What a run has found out when it stops. -/
structure Findings where
  tally : Tally
  counts : Option ProbeCounts
  report : Report

/-- Looks until there is a reason to stop, and takes what there is after that: `late` is what
happens between the last look and the last reading. -/
def capture (p : Plan) (course : Course) (late : List Happening) : Run Findings := do
  let (reason, w) ← watch p.settings p.quiet Watch.start course
  modify fun world => world.happenAll late
  let tally ← finalTally p.settings w.tally
  let counts ← probeCounts
  return ⟨tally, counts, Report.build p.settings tally counts w.elapsed reason⟩

/-- All of a run before its first look. -/
def prepare (o : Options) : Run Plan := do
  let p ← of id (o.plan (← get).machine)
  banner p
  instrument p
  openEvents p
  announceResults p
  return p

/-- All of a run after its last reading. -/
def publish (p : Plan) (found : Findings) : Run Unit := do
  showReport p found.report found.counts
  saveReport p found.report
  pushMetrics p found.tally

/-- A run, with what happens after its last look. -/
def measureUntil (o : Options) (course : Course) (late : List Happening) : Run Unit := do
  let p ← prepare o
  publish p (← capture p course late)

theorem measureUntil_nil (o : Options) (course : Course) :
    measureUntil o course [] = measure o course := by
  have nothing : (modify fun world => world.happenAll [] : Run Unit) = pure () := rfl
  simp only [measureUntil, prepare, capture, publish, measure, bind_assoc, pure_bind, nothing]

theorem gives_probeCounts : Gives probeCounts world fun _ world' => world.Tells world' := by
  unfold probeCounts
  refine .get_bind ?_
  split
  · exact .pure (.refl world)
  · exact .bind (gives_emit _) fun _ _ told => .pure told

/-- A run reports the totals of a tally. -/
structure Findings.Tell (found : Findings) (t : Tally) : Prop where
  tally : found.tally = t
  rows : found.report.rows = t.active.map fun row => ⟨row.1.name, row.1.tag, row.2⟩
  events : found.report.totalEvents = t.events
  bytes : found.report.totalBytes = t.bytes
  malformed : found.report.malformed = t.malformed

/-- All the records that there are from the first look to the last reading: those that wait, those
that come while the run looks, and those that come after that. -/
def records (p : Plan) (course : Course) (late : List Happening) (world : World) : List Octets :=
  world.waiting ++ arrived p.settings p.quiet Watch.start world course ++
    ((watch p.settings p.quiet Watch.start course).result world).2.arriving late

/-- Nothing is left, and every record is counted once, in the order in which they come. Where no
probe runs that is the order in which they are injected, wherever the looks stand between them. -/
structure Findings.Complete (found : Findings) (p : Plan) (course : Course)
    (late : List Happening) (begun ended : World) : Prop where
  nothing_waits : ended.waiting = []
  totals : found.Tell (Tally.empty.ingestAll (records p course late begun)).2
  injected : (∀ h ∈ course.flatten ++ late, h.isSyscall = false) →
    records p course late begun = begun.waiting ++
      ((course.take (ended.looks - begun.looks)).flatten ++ late).filterMap Happening.injected?

/-- Runs with the same records report the same totals, whenever each of them looked. -/
theorem Findings.Complete.agree {found found' : Findings} {p p' : Plan} {course course' : Course}
    {late late' : List Happening} {begun begun' ended ended' : World}
    (h : found.Complete p course late begun ended)
    (h' : found'.Complete p' course' late' begun' ended')
    (same : records p' course' late' begun' = records p course late begun) :
    ∃ t, found.Tell t ∧ found'.Tell t :=
  ⟨_, h.totals, same ▸ h'.totals⟩

theorem gives_capture_stream {p : Plan} (stream : p.settings.mode = .stream) (course : Course)
    (late : List Happening) (begun : World) : Gives (capture p course late) begun fun found ended =>
      found.Complete p course late begun ended := by
  have gives : Gives (watch p.settings p.quiet Watch.start course) begun _ :=
    gives_watch_stream stream course
  obtain ⟨⟨reason, w⟩, world₁, watched, total, looks, more, injected⟩ := gives
  have all : records p course late begun = begun.waiting ++
      arrived p.settings p.quiet Watch.start begun course ++ world₁.arriving late := by
    rw [records, watched]
  unfold capture finalTally
  refine .bind_of_ok watched (.modify_bind ?_)
  rw [stream]
  refine .bind gives_drainEvents ?_
  rintro tally world₂ ⟨counted, told⟩
  have complete : tally = (Tally.empty.ingestAll (records p course late begun)).2 := calc
    tally = (w.tally.ingestAll (world₁.waiting ++ world₁.arriving late)).2 := by
        rw [counted, World.waiting_happenAll]
    _ = ((w.tally.ingestAll world₁.waiting).2.ingestAll (world₁.arriving late)).2 :=
        Tally.ingestAll_append ..
    _ = ((Tally.empty.ingestAll (begun.waiting ++
          arrived p.settings p.quiet Watch.start begun course)).2.ingestAll
            (world₁.arriving late)).2 :=
        congrArg (fun t => (t.ingestAll (world₁.arriving late)).2) total
    _ = _ := by rw [all, ← Tally.ingestAll_append]
  refine .bind gives_probeCounts fun counts world₃ tells => .pure ?_
  have ended : world₃.looks - begun.looks = looks := by
    have last : world₃.looks = world₁.looks := by
      rw [tells.looks, told.looks]
      exact world₁.looks_happenAll late
    omega
  refine ⟨?_, ⟨complete, ?_, ?_, ?_, ?_⟩, fun others => ?_⟩
  · rw [tells.waiting, told.waiting, waiting_drained]
  · rw [← complete]
    rfl
  · rw [← complete]
    rfl
  · rw [← complete]
    rfl
  · rw [← complete]
    rfl
  · rw [List.forall_mem_append] at others
    rw [all, injected others.1, world₁.arriving_of_no_syscall others.2, ended]
    simp

theorem result_finalTally_counters (counters : s.mode = .counters) :
    (finalTally s t).result world = match world.kernel.readTotals with
      | .ok table => (.ok (Tally.ofTotals table), world)
      | .error e => (.error (.totals e), world) := by
  unfold finalTally
  rw [counters, result_bind_of_ok (result_get world)]
  cases world.kernel.readTotals <;> rfl

/-- The totals that a run reads in the end are those that the happenings up to then leave, whatever
it has read before. If they cannot be read, the run fails. -/
theorem capture_counters {p : Plan} (counters : p.settings.mode = .counters) (course : Course)
    (late : List Happening) (begun : World) : ∃ ended : World,
      ended.kernel = (begun.happenAll
        ((course.take (ended.looks - begun.looks)).flatten ++ late)).kernel ∧
      match ended.kernel.readTotals with
      | .ok table => ∃ found, (capture p course late).result begun = (.ok found, ended) ∧
          found.Tell (Tally.ofTotals table)
      | .error e => (capture p course late).result begun = (.error (.totals e), ended) := by
  have gives : Gives (watch p.settings p.quiet Watch.start course) begun _ :=
    gives_watch_counters counters course
  obtain ⟨⟨reason, w⟩, world₁, watched, looks, more, kernel⟩ := gives
  have last : (world₁.happenAll late).kernel =
      (begun.happenAll ((course.take looks).flatten ++ late)).kernel := by
    rw [World.happenAll_append]
    exact World.kernel_happenAll kernel late
  have looked : (world₁.happenAll late).looks - begun.looks = looks := by
    rw [World.looks_happenAll]
    omega
  have final : (finalTally p.settings w.tally).result (world₁.happenAll late) = _ :=
    result_finalTally_counters counters
  unfold capture
  rw [result_bind_of_ok watched, result_bind_of_ok (result_modify _ world₁)]
  cases totals : (world₁.happenAll late).kernel.readTotals with
  | error e =>
    rw [totals] at final
    refine ⟨world₁.happenAll late, by rw [looked, last], ?_⟩
    rw [totals, result_bind_of_error final]
  | ok table =>
    rw [totals] at final
    have gives : Gives probeCounts (world₁.happenAll late) _ := gives_probeCounts
    obtain ⟨counts, ended, told, tells⟩ := gives
    refine ⟨ended, by rw [tells.kernel, tells.looks, looked, last], ?_⟩
    rw [tells.kernel, totals, result_bind_of_ok final, result_bind_of_ok told]
    exact ⟨_, rfl, rfl, rfl, rfl, rfl, rfl⟩

/-- No record is lost when a run stops, and it does not matter when it looks. With events, the
totals are those of all records that there are up to the last reading, and so the same for runs
with the same records. With totals in the kernel, they are those of the last reading. -/
theorem no_record_is_lost (o : Options) (course : Course) (late : List Happening) (w : World) :
    measureUntil o course [] = measure o course ∧
    match (prepare o).result w with
    | (.error f, stopped) => (measureUntil o course late).result w = (.error f, stopped)
    | (.ok p, begun) =>
      match p.settings.mode with
      | .stream => ∃ found ended, found.Complete p course late begun ended ∧
          (measureUntil o course late).result w = (publish p found).result ended ∧
          ∀ (found' : Findings) p' course' late' begun' ended',
            found'.Complete p' course' late' begun' ended' →
            records p' course' late' begun' = records p course late begun →
            ∃ t, found.Tell t ∧ found'.Tell t
      | .counters => ∃ ended : World,
          ended.kernel = (begun.happenAll
            ((course.take (ended.looks - begun.looks)).flatten ++ late)).kernel ∧
          match ended.kernel.readTotals with
          | .ok table => ∃ found : Findings, found.Tell (Tally.ofTotals table) ∧
              (measureUntil o course late).result w = (publish p found).result ended
          | .error e => (measureUntil o course late).result w = (.error (.totals e), ended) := by
  refine ⟨measureUntil_nil o course, ?_⟩
  unfold measureUntil
  rcases prepared : (prepare o).result w with ⟨f | p, begun⟩
  · exact result_bind_of_error prepared _
  dsimp only
  simp only [result_bind_of_ok prepared]
  split
  · rename_i stream
    obtain ⟨found, ended, captured, complete⟩ := gives_capture_stream stream course late begun
    exact ⟨found, ended, complete, result_bind_of_ok captured _,
      fun _ _ _ _ _ _ other same => complete.agree other same⟩
  · rename_i counters
    obtain ⟨ended, kernel, captured⟩ := capture_counters counters course late begun
    refine ⟨ended, kernel, ?_⟩
    cases totals : ended.kernel.readTotals with
    | error e =>
      rw [totals] at captured
      exact result_bind_of_error captured _
    | ok table =>
      rw [totals] at captured
      obtain ⟨found, captured, tells⟩ := captured
      exact ⟨found, tells, result_bind_of_ok captured _⟩

end Run

end SyscallMeter
