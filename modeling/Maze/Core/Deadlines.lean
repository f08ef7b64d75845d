import Maze.Core.DynamicOperations
import Maze.Core.DynamicReadiness
import Maze.Core.DynamicReplay
import Maze.Core.StaticRun
import Maze.Library.Fallible

namespace Maze.Core.Deadlines

open Maze.Python
open Maze.Library.Fallible
open DynamicRunStore (eventForAppend)

/-!
# The deadlines of runs

A sweep looks at all runs, and the calls on a dynamic run look at that run first. A
run whose deadline has passed is timed out in memory; then the event is recorded and
the scheduler is told to stop the run. The calls on a dynamic run look at the clock
once more where they change it, and then the run is only timed out in memory.

The log of a static run is taken here, as that of a dynamic run is, as the events it
holds. A run whose submission has yet to be settled is not timed out: what the sweep
requests for it does not change its status.
-/

/-! ## Runs -/

/-- A static run, with the events of its log. -/
structure StaticEntry where
  run : StaticRun
  events : List RunEvent
  /-- `_dispatch_requires_cleanup`. -/
  requiresCleanup : Bool
  /-- How many times the scheduler was told to stop the run. -/
  stops : Nat

/-- A dynamic run with its files. -/
structure DynamicEntry where
  run : DynamicRun
  files : DynamicFiles
  /-- How many times the scheduler was told to stop the run. -/
  stops : Nat

/-- The runs of Core. -/
structure Runs where
  statics : List StaticEntry
  dynamics : List DynamicEntry

/-- What a look at the deadline of a static run meets. -/
structure StaticVisit where
  now : Time
  timestamp : PyStr
  /-- How the write of the event ends. -/
  written : Fault
  /-- How `_persist_static_run` ends. -/
  saved : Except PyErr Unit
  /-- How the stop message is sent. -/
  sending : Except PyErr Unit

/-- What the record of an event of a dynamic run meets. -/
structure Written where
  timestamp : PyStr
  now : Time
  faults : Faults

/-- What a look at the deadline of a dynamic run meets. -/
structure DynamicVisit where
  now : Time
  data : PyDict
  written : Written
  /-- How the stop message is sent. -/
  sending : Except PyErr Unit

/-- Another stop message, where it could be sent. -/
def stopped
    (sending : Except PyErr Unit)
    (stops : Nat) :
    Nat :=
  match sending with
  | .ok () => stops + 1
  | .error _ => stops

/-! ## The deadline of a static run -/

/-- `append_event_once` of the static store. -/
def appendOnce
    (event : RunEvent)
    (written : Fault) :
    EStateM PyErr StaticEntry Unit :=
  fun entry =>
    match eventForAppend entry.events event true with
    | .error raised => .error raised entry
    | .ok (some _) => .ok () entry
    | .ok none =>
        match written with
        | .none => .ok () { entry with events := entry.events ++ [event] }
        | .before => .error .osError entry
        | .after => .error .osError { entry with events := entry.events ++ [event] }

/-- The data of the event of a static run that has timed out. -/
def timeoutData
    (rendering : Rendering)
    (run : StaticRun) :
    PyDict :=
  [("run_id", .str run.runId), ("workflow_id", .str run.workflowId),
    ("timeout_seconds", run.timeoutSeconds),
    ("deadline_time", run.deadlineTime rendering)]

/-- The part of `_sweep_run_deadlines` that is about one static run. -/
def sweepStatic
    (rendering : Rendering)
    (visit : StaticVisit) :
    EStateM PyErr StaticEntry Unit := do
  let entry ← get
  let marked := entry.run.markTimedOutIfNeeded rendering visit.now
  if entry.requiresCleanup then
    pure ()
  else if marked.2 then
    let appended := marked.1.appendEvent "timeout_workflow"
      (timeoutData rendering entry.run) visit.timestamp
    modify fun entry => { entry with run := appended.1 }
    appendOnce appended.2 visit.written
    returning visit.saved
    modify fun entry => { entry with stops := stopped visit.sending entry.stops }
  else
    pure ()

/-! ## The deadline of a dynamic run -/

/-- A call on a dynamic run. -/
abbrev DynamicCall := EStateM PyErr DynamicEntry

/-- `_emit_dynamic_event` of a new event. -/
def record
    (eventType : PyStr)
    (data : PyDict)
    (written : Written) :
    DynamicCall Unit :=
  fun entry =>
    let appended :=
      entry.run.appendEvent eventType data written.timestamp written.now
    let performed :=
      DynamicRunStore.persistEvent entry.files appended.2 appended.1.snapshot
        written.faults
    let after :=
      { entry with
        run := appended.1
        files := DynamicRunStore.writeAll entry.files performed.writes }
    match performed.result with
    | .ok () => .ok () after
    | .error raised => .error raised after

/-- `_refresh_dynamic_timeout`, and the part of `_sweep_run_deadlines`. -/
def refresh
    (render : Time → PyStr)
    (visit : DynamicVisit) :
    DynamicCall Unit := do
  let entry ← get
  let marked := entry.run.markTimedOutIfNeeded render visit.now
  if marked.2 then
    modify fun entry => { entry with run := marked.1 }
    record "timeout_dynamic_run" visit.data visit.written
    modify fun entry => { entry with stops := stopped visit.sending entry.stops }
  else
    pure ()

/-- Run an operation on the run, and keep its changes also where it raises. -/
def perform
    {Value : Type}
    (operation : DynamicRun → Outcome DynamicRun Value) :
    DynamicCall Value :=
  fun entry =>
    let outcome := operation entry.run
    let after := { entry with run := outcome.state }
    match outcome.result with
    | .ok value => .ok value after
    | .error raised => .error raised after

/-- `check_can_mutate`. -/
def check
    (render : Time → PyStr)
    (now : Time) :
    DynamicCall Unit :=
  perform fun run => run.checkCanMutate render now

/-- The task that the request id of an append stands for. -/
def existingTask
    (run : DynamicRun)
    (request : DynamicRun.AppendRequest) :
    Option TaskId :=
  request.requestKey.bind fun requestId => run.requestIds.lookup requestId

/-- The clock, each time that an append looks at it. -/
structure AppendTimes where
  /-- Before the request id is looked up. -/
  mutate : Time
  /-- In `check_can_append`. -/
  limit : Time
  /-- In `register_task_spec`. -/
  register : Time
  /-- At the beginning of `append_task`. -/
  append : Time
  /-- In `check_can_append` of `append_task`. -/
  task : Time

/-- A call on a dynamic run, with what it meets after its look at the deadline. -/
inductive Call where
  | read
  | registerTaskSpec
      (parsed : Except PyErr Unit)
      (data : PyDict)
      (now : Time)
      (written : Written)
  /-- `resolved` says whether the specification comes with the call. -/
  | appendTask
      (request : DynamicRun.AppendRequest)
      (resolved : Except PyErr Bool)
      (data : PyDict)
      (times : AppendTimes)
      (written : Written)
      (sending : Except PyErr Unit)
  | emitEvent (eventType : PyStr) (data : PyDict) (now : Time) (written : Written)
  | finalize
      (result : PyVal)
      (now : Time)
      (written : Written)
      (sending : Except PyErr Unit)
  | cancel
      (reason : PyVal)
      (now : Time)
      (written : Written)
      (sending : Except PyErr Unit)
  | updateMetadata (saved : Except PyErr Unit)

/-- `append_dynamic_task`, after its look at the deadline. -/
def appendDynamicTask
    (render : Time → PyStr)
    (request : DynamicRun.AppendRequest)
    (resolved : Except PyErr Bool)
    (data : PyDict)
    (times : AppendTimes)
    (written : Written)
    (sending : Except PyErr Unit) :
    DynamicCall Unit := do
  check render times.mutate
  let entry ← get
  if (existingTask entry.run request).isSome then
    pure ()
  else do
    check render times.limit
    if entry.run.maxTasks ≤ entry.run.tasks.length then
      throw .valueError
    else do
      let inline ← returning resolved
      if inline then
        check render times.register
      else
        pure ()
      check render times.append
      let appended ← perform fun run => run.appendTask render request times.task
      if appended.2 then
        pure ()
      else do
        record "append_task" data written
        let entry ← get
        if appended.1 ∈ entry.run.submittedTasks then
          returning sending
        else
          pure ()

/-- `cancel_dynamic_run`, after its look at the deadline. -/
def cancelDynamicRun
    (render : Time → PyStr)
    (reason : PyVal)
    (now : Time)
    (written : Written)
    (sending : Except PyErr Unit) :
    DynamicCall Unit := do
  let changed ← perform fun run => run.cancel render reason now
  if changed then
    record "cancel_dynamic_run" [("reason", reason)] written
    modify fun entry => { entry with stops := stopped sending entry.stops }
    returning sending
  else
    pure ()

/-- What a call does after its look at the deadline. -/
def body (render : Time → PyStr) : Call → DynamicCall Unit
  | .read => pure ()
  | .registerTaskSpec parsed data now written => do
      returning parsed
      check render now
      record "register_task_spec" data written
  | .appendTask request resolved data times written sending =>
      appendDynamicTask render request resolved data times written sending
  | .emitEvent eventType data now written => do
      check render now
      record eventType data written
  | .finalize result now written sending => do
      perform fun run => run.finalize render result now
      record "finish_workflow" [("result", result)] written
      returning sending
  | .cancel reason now written sending =>
      cancelDynamicRun render reason now written sending
  | .updateMetadata saved => returning saved

/-- Whether a call is refused before it looks at the deadline. -/
def refused : Call → Bool
  | .emitEvent eventType _ _ _ => eventType ∈ DynamicCore.reservedEventTypes
  | _ => false

/-- A call on a dynamic run. -/
def callDynamicRun
    (render : Time → PyStr)
    (visit : DynamicVisit)
    (call : Call) :
    DynamicCall Unit := do
  if refused call then
    throw .valueError
  else do
    refresh render visit
    body render call

/-! ## All runs -/

/-- A loop over runs; the first run that raises ends it. -/
def sweepRuns
    {Entry : Type}
    (visit : Nat → EStateM PyErr Entry Unit) :
    List Entry → List Entry × Except PyErr Unit
  | [] => ([], .ok ())
  | entry :: rest =>
      match visit 0 entry with
      | .error raised after => (after :: rest, .error raised)
      | .ok () after =>
          let swept := sweepRuns (fun index => visit (index + 1)) rest
          (after :: swept.1, swept.2)

/-- `_sweep_run_deadlines`; what it raises is logged by `maintenance_coroutine`. -/
def sweep
    (rendering : Rendering)
    (render : Time → PyStr)
    (statics : Nat → StaticVisit)
    (dynamics : Nat → DynamicVisit)
    (runs : Runs) :
    Runs :=
  let swept := sweepRuns (fun index => sweepStatic rendering (statics index))
    runs.statics
  match swept.2 with
  | .error _ => { runs with statics := swept.1 }
  | .ok () =>
      { statics := swept.1
        dynamics :=
          (sweepRuns (fun index => refresh render (dynamics index))
            runs.dynamics).1 }

/-- The entry that a call leaves behind, however it ends. -/
def leaving
    {Entry : Type}
    (call : EStateM PyErr Entry Unit)
    (entry : Entry) :
    Entry :=
  match call entry with
  | .ok _ after | .error _ after => after

/-- What looks at deadlines. -/
inductive Operation where
  | sweep (statics : Nat → StaticVisit) (dynamics : Nat → DynamicVisit)
  | call (index : Nat) (visit : DynamicVisit) (call : Call)

/-- The runs after an operation. -/
def operate
    (rendering : Rendering)
    (render : Time → PyStr)
    (runs : Runs) :
    Operation → Runs
  | .sweep statics dynamics => sweep rendering render statics dynamics runs
  | .call index visit call =>
      { runs with
        dynamics := runs.dynamics.modify index
          (leaving (callDynamicRun render visit call)) }

/-! ## What is claimed -/

/-- What there is to see of a run: its status, the timeouts in its log, its stops. -/
structure Sight where
  timedOut : Bool
  timeouts : List RunEvent
  stops : Nat

/-- The timeouts of a log. -/
def timeoutsOf
    (eventType : PyStr)
    (events : List RunEvent) :
    List RunEvent :=
  events.filter fun event => event.eventType = eventType

/-- What there is to see of a static run. -/
def StaticEntry.sight (entry : StaticEntry) : Sight where
  timedOut := entry.run.status = .timedOut
  timeouts := timeoutsOf "timeout_workflow" entry.events
  stops := entry.stops

/-- What there is to see of a dynamic run. -/
def DynamicEntry.sight (entry : DynamicEntry) : Sight where
  timedOut := entry.run.status = .timedOut
  timeouts := timeoutsOf "timeout_dynamic_run" entry.files.canonical
  stops := entry.stops

/-- A run that has been timed out has one more timeout in its log, and was stopped. -/
def Told (before after : Sight) : Prop :=
  if before.timedOut = false ∧ after.timedOut = true then
    (∃ event, after.timeouts = before.timeouts ++ [event]) ∧
      after.stops = before.stops + 1
  else
    after.timeouts = before.timeouts

/-- The sweep has to time the static run out. -/
def dueStatic
    (visit : StaticVisit)
    (entry : StaticEntry) :
    Bool :=
  !entry.requiresCleanup && entry.run.deadlinePassed visit.now

/-- A law of every run and what has become of it. -/
def EachRun
    {Entry : Type}
    (law : Nat → Entry → Entry → Prop) :
    List Entry → List Entry → Prop
  | [], [] => True
  | before :: rest, after :: others =>
      law 0 before after ∧ EachRun (fun index => law (index + 1)) rest others
  | _, _ => False

/-- A static run after a sweep: told of, and timed out where it was due. -/
structure StaticSwept
    (visit : StaticVisit)
    (before after : StaticEntry) : Prop where
  told : Told before.sight after.sight
  timedOut : dueStatic visit before = true → after.sight.timedOut = true

/-- A dynamic run after a sweep: told of, and timed out where its deadline has passed. -/
structure DynamicSwept
    (visit : DynamicVisit)
    (before after : DynamicEntry) : Prop where
  told : Told before.sight after.sight
  timedOut :
    before.run.deadlinePassed visit.now = true → after.sight.timedOut = true

/--
Every transition by a deadline is told of, and a sweep times out every run whose
deadline has passed.
-/
def Complete (before after : Runs) : Operation → Prop
  | .sweep statics dynamics =>
      EachRun (fun index => StaticSwept (statics index))
          before.statics after.statics ∧
        EachRun (fun index => DynamicSwept (dynamics index))
          before.dynamics after.dynamics
  | .call _ _ _ =>
      EachRun (fun _ before after => Told before.sight after.sight)
          before.statics after.statics ∧
        EachRun (fun _ before after => Told before.sight after.sight)
          before.dynamics after.dynamics

/-! ## The condition -/

/-- The log takes an event with the number. -/
def Fits
    (events : List RunEvent)
    (seq : Nat) :
    Prop :=
  (∀ event ∈ events, event.seq ≠ seq) ∧ DynamicRunStore.lastSequence events < seq

/-- The event of the timeout is written and the stop message sent. -/
structure StaticReaches
    (visit : StaticVisit)
    (entry : StaticEntry) : Prop where
  fits : Fits entry.events (entry.run.eventSeq + 1)
  written : visit.written = .none
  saved : visit.saved = .ok ()
  sent : visit.sending = .ok ()

/-- The event of the timeout of a dynamic run. -/
def timeoutEvent
    (render : Time → PyStr)
    (visit : DynamicVisit)
    (run : DynamicRun) :
    RunEvent :=
  ((run.timedOutRun render visit.now).appendEvent "timeout_dynamic_run" visit.data
    visit.written.timestamp visit.written.now).2

/-- The event of the timeout is written and the stop message sent. -/
structure DynamicReaches
    (render : Time → PyStr)
    (visit : DynamicVisit)
    (entry : DynamicEntry) : Prop where
  fits : Fits entry.files.canonical (entry.run.eventSeq + 1)
  canonical : visit.written.faults.canonical = .none
  mirrored :
    DynamicRunStore.hasWorkspace entry.run.snapshot = true →
      (Fits entry.files.mirror (entry.run.eventSeq + 1) ∧
          visit.written.faults.mirror = .none) ∨
        ∃ persisted,
          eventForAppend entry.files.mirror (timeoutEvent render visit entry.run)
            false = .ok (some persisted)
  saved : visit.written.faults.save = .none
  sent : visit.sending = .ok ()

/-- When a call looks at the clock again, while the deadline has not passed. -/
def guards
    (call : Call)
    (run : DynamicRun) :
    List Time :=
  match call with
  | .read | .updateMetadata _ => []
  | .registerTaskSpec parsed _ now _ =>
      match parsed with
      | .ok () => [now]
      | .error _ => []
  | .appendTask request resolved _ times _ _ =>
      if (existingTask run request).isSome then
        [times.mutate]
      else if run.maxTasks ≤ run.tasks.length then
        [times.mutate, times.limit]
      else
        match resolved with
        | .error _ => [times.mutate, times.limit]
        | .ok true =>
            [times.mutate, times.limit, times.register, times.append, times.task]
        | .ok false => [times.mutate, times.limit, times.append, times.task]
  | .emitEvent _ _ now _ => [now]
  | .finalize _ now _ _ => if run.finalized then [] else [now]
  | .cancel _ now _ _ => if run.status = .canceled then [] else [now]

/--
The event of each run that is timed out is written and its stop message sent, and no
look at the clock but the first one finds that the deadline has passed.
-/
def Timely
    (render : Time → PyStr)
    (runs : Runs) :
    Operation → Prop
  | .sweep statics dynamics =>
      (∀ index entry, runs.statics[index]? = some entry →
          dueStatic (statics index) entry = true →
            StaticReaches (statics index) entry) ∧
        ∀ index entry, runs.dynamics[index]? = some entry →
          entry.run.deadlinePassed (dynamics index).now = true →
            DynamicReaches render (dynamics index) entry
  | .call index visit call =>
      refused call = false → ∀ entry, runs.dynamics[index]? = some entry →
        if entry.run.deadlinePassed visit.now = true then
          DynamicReaches render visit entry
        else
          ∀ time ∈ guards call entry.run, entry.run.deadlinePassed time = false

/-! ## Loops over runs -/

section Loops

variable {Entry : Type}

theorem forall_getElem?_cons
    {holds : Nat → Entry → Prop}
    (first : Entry)
    (rest : List Entry) :
    (∀ index entry, (first :: rest)[index]? = some entry → holds index entry) ↔
      holds 0 first ∧
        ∀ index entry, rest[index]? = some entry → holds (index + 1) entry := by
  constructor
  · intro all
    exact ⟨all 0 first rfl, fun index entry found => all (index + 1) entry found⟩
  · rintro ⟨head, tail⟩ index entry found
    cases index with
    | zero =>
        obtain rfl := Option.some.inj found
        exact head
    | succ index =>
        exact tail index entry found

theorem eachRun_refl
    {law : Nat → Entry → Entry → Prop}
    (same : ∀ index entry, law index entry entry)
    (entries : List Entry) :
    EachRun law entries entries := by
  induction entries generalizing law with
  | nil =>
      trivial
  | cons entry rest inductionHypothesis =>
      exact ⟨same 0 entry, inductionHypothesis fun index => same (index + 1)⟩

/-- Only the run that is changed matters to a law that every other run keeps. -/
theorem eachRun_modify
    {law : Entry → Entry → Prop}
    (same : ∀ entry, law entry entry)
    (change : Entry → Entry)
    (entries : List Entry)
    (index : Nat) :
    EachRun (fun _ => law) entries (entries.modify index change) ↔
      ∀ entry, entries[index]? = some entry → law entry (change entry) := by
  induction entries generalizing index with
  | nil =>
      simp [EachRun]
  | cons entry rest inductionHypothesis =>
      cases index with
      | zero =>
          have others := eachRun_refl (fun _ => same) rest
          simp [EachRun, others]
      | succ index =>
          simp only [List.modify_succ_cons, EachRun, same entry, true_and,
            inductionHypothesis, List.getElem?_cons_succ]

variable
  {visit : Nat → EStateM PyErr Entry Unit}
  {law : Nat → Entry → Entry → Prop}
  {due reaches : Nat → Entry → Prop}

theorem sweepRuns_cons_of_ok
    {entry after : Entry}
    {rest : List Entry}
    (returned : visit 0 entry = .ok () after) :
    sweepRuns visit (entry :: rest) =
      (after :: (sweepRuns (fun index => visit (index + 1)) rest).1,
        (sweepRuns (fun index => visit (index + 1)) rest).2) := by
  rw [sweepRuns, returned]

/-- Whatever a visit does, its run comes first in what is left behind. -/
theorem sweepRuns_head
    (entry : Entry)
    (rest : List Entry) :
    ∃ others,
      (sweepRuns visit (entry :: rest)).1 = leaving (visit 0) entry :: others := by
  unfold sweepRuns leaving
  cases visit 0 entry with
  | ok _ after =>
      exact ⟨_, rfl⟩
  | error raised after =>
      exact ⟨_, rfl⟩

/--
A loop that leaves alone what is not due keeps the law exactly where each due visit
reaches its end.
-/
theorem sweepRuns_iff
    (unmoved :
      ∀ index entry, ¬ due index entry →
        visit index entry = .ok () entry ∧ law index entry entry)
    (agree :
      ∀ index entry, due index entry →
        (law index entry (leaving (visit index) entry) ↔ reaches index entry))
    (returns :
      ∀ index entry, due index entry → reaches index entry →
        ∃ after, visit index entry = .ok () after)
    (entries : List Entry) :
    EachRun law entries (sweepRuns visit entries).1 ↔
      ∀ index entry, entries[index]? = some entry → due index entry →
        reaches index entry := by
  induction entries generalizing visit law due reaches with
  | nil =>
      simp [EachRun, sweepRuns]
  | cons entry rest inductionHypothesis =>
      have later := inductionHypothesis (fun index => unmoved (index + 1))
        (fun index => agree (index + 1)) fun index => returns (index + 1)
      rw [forall_getElem?_cons]
      by_cases isDue : due 0 entry
      · by_cases here : reaches 0 entry
        · obtain ⟨after, returned⟩ := returns 0 entry isDue here
          have lawful := (agree 0 entry isDue).mpr here
          rw [leaving, returned] at lawful
          rw [sweepRuns_cons_of_ok returned]
          exact and_congr (iff_of_true lawful fun _ => here) later
        · obtain ⟨others, head⟩ := sweepRuns_head entry rest
          rw [head]
          refine iff_of_false (fun each => here ?_) fun all => here (all.1 isDue)
          exact (agree 0 entry isDue).mp each.1
      · obtain ⟨returned, lawful⟩ := unmoved 0 entry isDue
        rw [sweepRuns_cons_of_ok returned]
        exact and_congr (iff_of_true lawful fun due => absurd due isDue) later

/-- A loop whose due visits all reach their ends returns. -/
theorem sweepRuns_returns
    (unmoved : ∀ index entry, ¬ due index entry → visit index entry = .ok () entry)
    (returns :
      ∀ index entry, due index entry → reaches index entry →
        ∃ after, visit index entry = .ok () after)
    {entries : List Entry}
    (reached :
      ∀ index entry, entries[index]? = some entry → due index entry →
        reaches index entry) :
    (sweepRuns visit entries).2 = .ok () := by
  induction entries generalizing visit due reaches with
  | nil =>
      rfl
  | cons entry rest inductionHypothesis =>
      rw [forall_getElem?_cons] at reached
      have later := inductionHypothesis (fun index => unmoved (index + 1))
        (fun index => returns (index + 1)) reached.2
      by_cases isDue : due 0 entry
      · obtain ⟨after, returned⟩ := returns 0 entry isDue (reached.1 isDue)
        rw [sweepRuns_cons_of_ok returned]
        exact later
      · rw [sweepRuns_cons_of_ok (unmoved 0 entry isDue)]
        exact later

end Loops

/-! ## Visits of static runs -/

theorem eventForAppend_eq_none_iff
    (events : List RunEvent)
    (event : RunEvent)
    (ignoreTimestamp : Bool) :
    eventForAppend events event ignoreTimestamp = .ok none ↔ Fits events event.seq := by
  unfold eventForAppend Fits
  cases found : events.find? fun candidate => candidate.seq = event.seq with
  | some candidate =>
      have same : candidate.seq = event.seq := by
        simpa using List.find?_some found
      have member := List.mem_of_find?_eq_some found
      refine iff_of_false ?_ fun fits => fits.1 candidate member same
      dsimp only
      split
      · intro wrong
        cases wrong
      · split <;> intro wrong <;> cases wrong
  | none =>
      have absent := List.find?_eq_none.mp found
      dsimp only
      split
      · next below =>
        refine iff_of_false (fun wrong => by cases wrong) fun fits => ?_
        exact absurd fits.2 (by omega)
      · next above =>
        refine iff_of_true rfl ⟨fun candidate member => ?_, by omega⟩
        simpa using absent candidate member

theorem sweepStatic_of_not_due
    {visit : StaticVisit}
    {entry : StaticEntry}
    (rendering : Rendering)
    (early : ¬ dueStatic visit entry = true) :
    sweepStatic rendering visit entry = .ok () entry := by
  have unmarked : entry.requiresCleanup = false →
      (entry.run.markTimedOutIfNeeded rendering visit.now).2 = false := by
    intro settled
    unfold dueStatic at early
    rw [settled] at early
    unfold StaticRun.markTimedOutIfNeeded
    rw [if_neg (by simpa using early)]
  refine (bind_of_ok rfl).trans ?_
  cases cleanup : entry.requiresCleanup with
  | true =>
      rfl
  | false =>
      rw [unmarked cleanup]
      rfl

/-- The static run with the event of its timeout, in memory. -/
def staticTimedOut
    (rendering : Rendering)
    (visit : StaticVisit)
    (entry : StaticEntry) :
    StaticRun × RunEvent :=
  (entry.run.markTimedOutIfNeeded rendering visit.now).1.appendEvent
    "timeout_workflow" (timeoutData rendering entry.run) visit.timestamp

/-- The record of a timeout, and what follows from it. -/
theorem sweepStatic_of_due
    {visit : StaticVisit}
    {entry : StaticEntry}
    (rendering : Rendering)
    (due : dueStatic visit entry = true) :
    sweepStatic rendering visit entry =
      (do
        appendOnce (staticTimedOut rendering visit entry).2 visit.written
        returning visit.saved
        modify fun entry => { entry with stops := stopped visit.sending entry.stops } :
          EStateM PyErr StaticEntry Unit)
        { entry with run := (staticTimedOut rendering visit entry).1 } := by
  simp only [dueStatic, Bool.and_eq_true, Bool.not_eq_true'] at due
  have marked : (entry.run.markTimedOutIfNeeded rendering visit.now).2 = true := by
    unfold StaticRun.markTimedOutIfNeeded
    rw [if_pos due.2]
  refine (bind_of_ok rfl).trans ?_
  rw [if_neg (by simp [due.1]), if_pos marked]
  rfl

theorem staticTimedOut_facts
    (rendering : Rendering)
    {visit : StaticVisit}
    {entry : StaticEntry}
    (due : dueStatic visit entry = true) :
    entry.run.status ≠ .timedOut ∧
      (staticTimedOut rendering visit entry).1.status = .timedOut ∧
      (staticTimedOut rendering visit entry).2.seq = entry.run.eventSeq + 1 ∧
      (staticTimedOut rendering visit entry).2.eventType = "timeout_workflow" := by
  simp only [dueStatic, Bool.and_eq_true, Bool.not_eq_true'] at due
  refine ⟨?_, ?_, ?_, rfl⟩
  · intro already
    have passed := due.2
    unfold StaticRun.deadlinePassed StaticRun.isTerminal at passed
    rw [already] at passed
    split at passed
    · simp [StaticRunStatus.isTerminal] at passed
    · cases passed
  · unfold staticTimedOut StaticRun.markTimedOutIfNeeded
    rw [if_pos due.2]
    rfl
  · unfold staticTimedOut StaticRun.markTimedOutIfNeeded
    rw [if_pos due.2]
    rfl

theorem told_iff_of_transition
    {before after : Sight}
    (live : before.timedOut = false)
    (ended : after.timedOut = true) :
    Told before after ↔
      (∃ event, after.timeouts = before.timeouts ++ [event]) ∧
        after.stops = before.stops + 1 := by
  unfold Told
  rw [if_pos ⟨live, ended⟩]

theorem timeoutsOf_append
    {eventType : PyStr}
    {event : RunEvent}
    (events : List RunEvent)
    (same : event.eventType = eventType) :
    timeoutsOf eventType (events ++ [event]) = timeoutsOf eventType events ++ [event] := by
  simp [timeoutsOf, same]

/-- A transition without a new event, or without a stop message, is not told of. -/
theorem not_told
    {before after : Sight}
    (live : before.timedOut = false)
    (ended : after.timedOut = true)
    (missing : after.timeouts = before.timeouts ∨ after.stops = before.stops) :
    ¬ Told before after := by
  rw [told_iff_of_transition live ended]
  rintro ⟨⟨event, appended⟩, stops⟩
  rcases missing with same | same
  · rw [same] at appended
    simp at appended
  · omega

theorem leaving_of_ok
    {Entry : Type}
    {call : EStateM PyErr Entry Unit}
    {entry after : Entry}
    (returned : call entry = .ok () after) :
    leaving call entry = after := by
  rw [leaving, returned]

theorem leaving_of_error
    {Entry : Type}
    {call : EStateM PyErr Entry Unit}
    {entry after : Entry}
    {raised : PyErr}
    (failed : call entry = .error raised after) :
    leaving call entry = after := by
  rw [leaving, failed]

/-- What the sweep makes of a static run that is due. -/
theorem sweepStatic_outcome
    (rendering : Rendering)
    {visit : StaticVisit}
    {entry : StaticEntry}
    (due : dueStatic visit entry = true) :
    (StaticReaches visit entry ∧
        sweepStatic rendering visit entry =
          .ok () { entry with
            run := (staticTimedOut rendering visit entry).1
            events := entry.events ++ [(staticTimedOut rendering visit entry).2]
            stops := entry.stops + 1 }) ∨
      (¬ StaticReaches visit entry ∧
        (leaving (sweepStatic rendering visit) entry).run =
          (staticTimedOut rendering visit entry).1 ∧
        ((leaving (sweepStatic rendering visit) entry).events = entry.events ∨
          (leaving (sweepStatic rendering visit) entry).stops = entry.stops)) := by
  obtain ⟨_, _, seq, _⟩ := staticTimedOut_facts rendering due
  have calls := sweepStatic_of_due rendering due
  generalize staticTimedOut rendering visit entry = timedOut at seq calls ⊢
  have fits := eventForAppend_eq_none_iff entry.events timedOut.2 true
  rw [seq] at fits
  have failing : ∀ {raised final}, sweepStatic rendering visit entry =
      .error raised final → final.stops = entry.stops → final.run = timedOut.1 →
        ¬ StaticReaches visit entry →
          ¬ StaticReaches visit entry ∧
            (leaving (sweepStatic rendering visit) entry).run = timedOut.1 ∧
            ((leaving (sweepStatic rendering visit) entry).events = entry.events ∨
              (leaving (sweepStatic rendering visit) entry).stops = entry.stops) := by
    intro raised final failed stops run misses
    rw [leaving_of_error failed]
    exact ⟨misses, run, Or.inr stops⟩
  cases taken : eventForAppend entry.events timedOut.2 true with
  | error raised =>
      have appended : appendOnce timedOut.2 visit.written
          { entry with run := timedOut.1 } =
            .error raised { entry with run := timedOut.1 } := by
        simp only [appendOnce, taken]
      rw [bind_of_error appended] at calls
      refine Or.inr (failing calls rfl rfl fun reaches => ?_)
      rw [fits.mpr reaches.fits] at taken
      cases taken
  | ok found =>
      cases found with
      | some persisted =>
          have appended : appendOnce timedOut.2 visit.written
              { entry with run := timedOut.1 } =
                .ok () { entry with run := timedOut.1 } := by
            simp only [appendOnce, taken]
          have misses : ¬ StaticReaches visit entry := fun reaches => by
            rw [fits.mpr reaches.fits] at taken
            cases taken
          rw [bind_of_ok appended] at calls
          cases saved : visit.saved with
          | error raised =>
              rw [saved] at calls
              exact Or.inr (failing calls rfl rfl misses)
          | ok _ =>
              rw [saved] at calls
              refine Or.inr ⟨misses, ?_⟩
              rw [leaving_of_ok calls]
              exact ⟨rfl, Or.inl rfl⟩
      | none =>
          cases written : visit.written with
          | before =>
              have appended : appendOnce timedOut.2 visit.written
                  { entry with run := timedOut.1 } =
                    .error .osError { entry with run := timedOut.1 } := by
                simp only [appendOnce, taken, written]
              rw [bind_of_error appended] at calls
              refine Or.inr (failing calls rfl rfl fun reaches => ?_)
              rw [reaches.written] at written
              cases written
          | after =>
              have appended : appendOnce timedOut.2 visit.written
                  { entry with run := timedOut.1 } =
                    .error .osError
                      { entry with
                        run := timedOut.1
                        events := entry.events ++ [timedOut.2] } := by
                simp only [appendOnce, taken, written]
              rw [bind_of_error appended] at calls
              refine Or.inr (failing calls rfl rfl fun reaches => ?_)
              rw [reaches.written] at written
              cases written
          | none =>
              have appended : appendOnce timedOut.2 visit.written
                  { entry with run := timedOut.1 } =
                    .ok ()
                      { entry with
                        run := timedOut.1
                        events := entry.events ++ [timedOut.2] } := by
                simp only [appendOnce, taken, written]
              rw [bind_of_ok appended] at calls
              cases saved : visit.saved with
              | error raised =>
                  rw [saved] at calls
                  refine Or.inr (failing calls rfl rfl fun reaches => ?_)
                  rw [reaches.saved] at saved
                  cases saved
              | ok _ =>
                  rw [saved] at calls
                  cases sent : visit.sending with
                  | ok _ =>
                      rw [sent] at calls
                      exact Or.inl ⟨⟨fits.mp taken, written, saved, sent⟩, calls⟩
                  | error raised =>
                      rw [sent] at calls
                      refine Or.inr ⟨fun reaches => ?_, ?_⟩
                      · rw [reaches.sent] at sent
                        cases sent
                      · rw [leaving_of_ok calls]
                        exact ⟨rfl, Or.inr rfl⟩

theorem sweepStatic_returns
    (rendering : Rendering)
    {visit : StaticVisit}
    {entry : StaticEntry}
    (due : dueStatic visit entry = true)
    (reaches : StaticReaches visit entry) :
    ∃ after, sweepStatic rendering visit entry = .ok () after := by
  rcases sweepStatic_outcome rendering due with ⟨_, returned⟩ | ⟨misses, _⟩
  · exact ⟨_, returned⟩
  · exact absurd reaches misses

/-- The static run is told of exactly where its event and its stop message go out. -/
theorem told_sweepStatic_iff
    (rendering : Rendering)
    {visit : StaticVisit}
    {entry : StaticEntry}
    (due : dueStatic visit entry = true) :
    StaticSwept visit entry (leaving (sweepStatic rendering visit) entry) ↔
      StaticReaches visit entry := by
  obtain ⟨before, after, _, eventType⟩ := staticTimedOut_facts rendering due
  have live : entry.sight.timedOut = false := by
    simpa [StaticEntry.sight] using before
  rcases sweepStatic_outcome rendering due with ⟨reaches, returned⟩ |
    ⟨misses, run, missing⟩
  · rw [leaving_of_ok returned]
    refine iff_of_true ⟨?_, fun _ => ?_⟩ reaches
    · rw [told_iff_of_transition live (by simpa [StaticEntry.sight] using after)]
      exact ⟨⟨_, timeoutsOf_append entry.events eventType⟩, rfl⟩
    · simpa [StaticEntry.sight] using after
  · refine iff_of_false (fun told => ?_) misses
    refine not_told live (told.timedOut due) (missing.imp_left fun same => ?_) told.told
    simp only [StaticEntry.sight, same]

/-! ## Visits of dynamic runs -/

theorem canonical_of_mirror
    (files : DynamicFiles)
    (event : RunEvent)
    (snapshot : DynamicSnapshot)
    (fault : Fault)
    (target : DynamicFiles) :
    (DynamicRunStore.writeAll target
      (DynamicRunStore.mirrorEventOnce files event snapshot fault).writes).canonical =
        target.canonical := by
  unfold DynamicRunStore.mirrorEventOnce
  split
  · split
    · rfl
    · rfl
    · unfold DynamicRunStore.attempt
      split <;> rfl
  · rfl

theorem mirrorEventOnce_ok_iff
    (files : DynamicFiles)
    (event : RunEvent)
    (snapshot : DynamicSnapshot)
    (fault : Fault) :
    (DynamicRunStore.mirrorEventOnce files event snapshot fault).result = .ok () ↔
      (DynamicRunStore.hasWorkspace snapshot = true →
        (Fits files.mirror event.seq ∧ fault = .none) ∨
          ∃ persisted,
            eventForAppend files.mirror event false = .ok (some persisted)) := by
  have fits := eventForAppend_eq_none_iff files.mirror event false
  unfold DynamicRunStore.mirrorEventOnce
  cases workspace : DynamicRunStore.hasWorkspace snapshot with
  | false =>
      simp
  | true =>
      rw [if_pos rfl, ← fits]
      cases taken : eventForAppend files.mirror event false with
      | error raised =>
          simp
      | ok found =>
          cases found with
          | some persisted =>
              simp
          | none =>
              cases fault <;> simp [DynamicRunStore.attempt]

/-- A save at the end changes nothing in the logs. -/
theorem canonical_of_save
    (files : DynamicFiles)
    (first : Performed)
    (fault : Fault)
    (snapshot : DynamicSnapshot) :
    (DynamicRunStore.writeAll files
      (DynamicRunStore.Performed.andThen first fun _ =>
        DynamicRunStore.attempt fault (.snapshot snapshot)).writes).canonical =
      (DynamicRunStore.writeAll files first.writes).canonical := by
  unfold DynamicRunStore.Performed.andThen
  split
  · rfl
  · unfold DynamicRunStore.writeAll
    rw [List.foldl_append]
    cases fault <;> rfl

/-- An event that fits is written before the mirror and the snapshot are. -/
theorem persistEvent_of_fits
    {files : DynamicFiles}
    {event : RunEvent}
    {faults : Faults}
    (snapshot : DynamicSnapshot)
    (fits : Fits files.canonical event.seq)
    (canonical : faults.canonical = .none) :
    (DynamicRunStore.writeAll files
        (DynamicRunStore.persistEvent files event snapshot faults).writes).canonical =
          files.canonical ++ [event] ∧
      ((DynamicRunStore.persistEvent files event snapshot faults).result = .ok () ↔
        (DynamicRunStore.mirrorEventOnce files event snapshot faults.mirror).result =
            .ok () ∧
          faults.save = .none) := by
  have taken := (eventForAppend_eq_none_iff files.canonical event true).mpr fits
  have mirror : DynamicRunStore.mirrorEventOnce
      (DynamicRunStore.writeAll files [.canonical event]) event snapshot faults.mirror =
        DynamicRunStore.mirrorEventOnce files event snapshot faults.mirror := rfl
  have appended : DynamicRunStore.appendEventOnce files event snapshot faults =
      ⟨[.canonical event] ++
          (DynamicRunStore.mirrorEventOnce files event snapshot faults.mirror).writes,
        (DynamicRunStore.mirrorEventOnce files event snapshot faults.mirror).result⟩ := by
    simp only [DynamicRunStore.appendEventOnce, taken, canonical,
      DynamicRunStore.attempt, DynamicRunStore.Performed.andThen, mirror]
  unfold DynamicRunStore.persistEvent
  rw [canonical_of_save, appended]
  constructor
  · unfold DynamicRunStore.writeAll
    rw [List.foldl_append]
    exact canonical_of_mirror files event snapshot faults.mirror _
  · unfold DynamicRunStore.Performed.andThen
    cases result :
        (DynamicRunStore.mirrorEventOnce files event snapshot faults.mirror).result with
    | error raised =>
        simp
    | ok _ =>
        cases faults.save <;> simp [DynamicRunStore.attempt]

/-- What is not written at once is not in the log, or the record raises. -/
theorem persistEvent_of_unfit
    {files : DynamicFiles}
    {event : RunEvent}
    {faults : Faults}
    (snapshot : DynamicSnapshot)
    (unfit : ¬ (Fits files.canonical event.seq ∧ faults.canonical = .none)) :
    (∃ raised,
        (DynamicRunStore.persistEvent files event snapshot faults).result =
          .error raised) ∨
      (DynamicRunStore.writeAll files
        (DynamicRunStore.persistEvent files event snapshot faults).writes).canonical =
          files.canonical := by
  have fits := eventForAppend_eq_none_iff files.canonical event true
  cases taken : eventForAppend files.canonical event true with
  | error raised =>
      refine Or.inl ⟨raised, ?_⟩
      simp only [DynamicRunStore.persistEvent, DynamicRunStore.appendEventOnce, taken,
        DynamicRunStore.Performed.andThen]
  | ok found =>
      cases found with
      | some persisted =>
          refine Or.inr ?_
          unfold DynamicRunStore.persistEvent
          rw [canonical_of_save, DynamicRunStore.appendEventOnce, taken]
          exact canonical_of_mirror files persisted snapshot faults.mirror files
      | none =>
          refine Or.inl ⟨.osError, ?_⟩
          cases canonical : faults.canonical with
          | none =>
              exact absurd ⟨fits.mp taken, canonical⟩ unfit
          | before =>
              simp only [DynamicRunStore.persistEvent, DynamicRunStore.appendEventOnce,
                taken, canonical, DynamicRunStore.attempt,
                DynamicRunStore.Performed.andThen]
          | after =>
              simp only [DynamicRunStore.persistEvent, DynamicRunStore.appendEventOnce,
                taken, canonical, DynamicRunStore.attempt,
                DynamicRunStore.Performed.andThen]

/-- The dynamic run with the event of its timeout, in memory. -/
def dynamicTimedOut
    (render : Time → PyStr)
    (visit : DynamicVisit)
    (run : DynamicRun) :
    DynamicRun :=
  ((run.timedOutRun render visit.now).appendEvent "timeout_dynamic_run" visit.data
    visit.written.timestamp visit.written.now).1

theorem refresh_of_not_passed
    {visit : DynamicVisit}
    {entry : DynamicEntry}
    (render : Time → PyStr)
    (early : entry.run.deadlinePassed visit.now = false) :
    refresh render visit entry = .ok () entry := by
  refine (bind_of_ok rfl).trans ?_
  rw [DynamicRun.markTimedOutIfNeeded_of_not_passed render early]
  rfl

/-- The record of a timeout, and what follows from it. -/
theorem refresh_of_passed
    {visit : DynamicVisit}
    {entry : DynamicEntry}
    (render : Time → PyStr)
    (passed : entry.run.deadlinePassed visit.now = true) :
    refresh render visit entry =
      (do
        record "timeout_dynamic_run" visit.data visit.written
        modify fun entry => { entry with stops := stopped visit.sending entry.stops } :
          DynamicCall Unit)
        { entry with run := entry.run.timedOutRun render visit.now } := by
  refine (bind_of_ok rfl).trans ?_
  rw [DynamicRun.markTimedOutIfNeeded_of_passed render passed]
  rfl

/-- A look at a deadline that has passed times the run out, and tells of it or not. -/
inductive Refreshed
    (render : Time → PyStr)
    (visit : DynamicVisit)
    (entry : DynamicEntry) : Prop where
  | reached
      (files : DynamicFiles)
      (reaches : DynamicReaches render visit entry)
      (canonical :
        files.canonical =
          entry.files.canonical ++ [timeoutEvent render visit entry.run])
      (returned :
        refresh render visit entry =
          .ok () ⟨dynamicTimedOut render visit entry.run, files, entry.stops + 1⟩)
  | missed
      (files : DynamicFiles)
      (stops : Nat)
      (misses : ¬ DynamicReaches render visit entry)
      (missing :
        files.canonical = entry.files.canonical ∨ stops = entry.stops)
      (ended :
        refresh render visit entry =
            .ok () ⟨dynamicTimedOut render visit entry.run, files, stops⟩ ∨
          ∃ raised,
            refresh render visit entry =
              .error raised ⟨dynamicTimedOut render visit entry.run, files, stops⟩)

theorem refreshed_of_passed
    {visit : DynamicVisit}
    {entry : DynamicEntry}
    (render : Time → PyStr)
    (passed : entry.run.deadlinePassed visit.now = true) :
    Refreshed render visit entry := by
  have calls := refresh_of_passed render passed
  let event := timeoutEvent render visit entry.run
  let snapshot := (dynamicTimedOut render visit entry.run).snapshot
  let performed := DynamicRunStore.persistEvent entry.files event snapshot
    visit.written.faults
  let files := DynamicRunStore.writeAll entry.files performed.writes
  have recorded : record "timeout_dynamic_run" visit.data visit.written
      { entry with run := entry.run.timedOutRun render visit.now } =
        match performed.result with
        | .ok () => .ok () ⟨dynamicTimedOut render visit entry.run, files, entry.stops⟩
        | .error raised =>
            .error raised ⟨dynamicTimedOut render visit entry.run, files, entry.stops⟩ :=
    rfl
  have mirrored := mirrorEventOnce_ok_iff entry.files event snapshot
    visit.written.faults.mirror
  cases result : performed.result with
  | error raised =>
      rw [result] at recorded
      rw [bind_of_error recorded] at calls
      refine .missed files entry.stops (fun reaches => ?_) (Or.inr rfl)
        (Or.inr ⟨raised, calls⟩)
      have fits : Fits entry.files.canonical event.seq := reaches.fits
      have written := persistEvent_of_fits snapshot fits reaches.canonical
      have returned : performed.result = .ok () :=
        written.2.mpr ⟨mirrored.mpr reaches.mirrored, reaches.saved⟩
      rw [returned] at result
      cases result
  | ok _ =>
      rw [result] at recorded
      rw [bind_of_ok recorded] at calls
      by_cases fits : Fits entry.files.canonical event.seq ∧
          visit.written.faults.canonical = .none
      · obtain ⟨canonical, returns⟩ := persistEvent_of_fits snapshot fits.1 fits.2
        obtain ⟨mirror, saved⟩ := returns.mp result
        cases sent : visit.sending with
        | ok _ =>
            rw [sent] at calls
            exact .reached files ⟨fits.1, fits.2, mirrored.mp mirror, saved, sent⟩
              canonical calls
        | error raised =>
            rw [sent] at calls
            refine .missed files entry.stops (fun reaches => ?_) (Or.inr rfl)
              (Or.inl calls)
            rw [reaches.sent] at sent
            cases sent
      · refine .missed files (stopped visit.sending entry.stops)
          (fun reaches => fits ⟨reaches.fits, reaches.canonical⟩) (Or.inl ?_)
          (Or.inl calls)
        rcases persistEvent_of_unfit snapshot fits with ⟨raised, failed⟩ | same
        · rw [show performed.result = _ from failed] at result
          cases result
        · exact same

/-! ## What a call does after its first look -/

/-- No timeout has been recorded, and a run that was timed out was not stopped again. -/
structure Silent (before after : DynamicEntry) : Prop where
  timedOut : after.sight.timedOut = before.sight.timedOut
  timeouts : after.sight.timeouts = before.sight.timeouts
  stops : before.sight.timedOut = true → after.stops = before.stops

theorem Silent.refl (entry : DynamicEntry) : Silent entry entry :=
  ⟨rfl, rfl, fun _ => rfl⟩

theorem canonical_of_persistEvent
    (files : DynamicFiles)
    (event : RunEvent)
    (snapshot : DynamicSnapshot)
    (faults : Faults) :
    (DynamicRunStore.writeAll files
        (DynamicRunStore.persistEvent files event snapshot faults).writes).canonical =
          files.canonical ∨
      (DynamicRunStore.writeAll files
        (DynamicRunStore.persistEvent files event snapshot faults).writes).canonical =
          files.canonical ++ [event] := by
  unfold DynamicRunStore.persistEvent
  rw [canonical_of_save]
  unfold DynamicRunStore.appendEventOnce
  split
  · exact Or.inl rfl
  · exact Or.inl (canonical_of_mirror files _ snapshot faults.mirror files)
  · cases faults.canonical with
    | none =>
        refine Or.inr ?_
        simp only [DynamicRunStore.attempt, DynamicRunStore.Performed.andThen]
        unfold DynamicRunStore.writeAll
        rw [List.foldl_append]
        exact canonical_of_mirror _ event snapshot faults.mirror _
    | before =>
        exact Or.inl rfl
    | after =>
        exact Or.inr rfl

section Calls

variable {render : Time → PyStr} {start : DynamicEntry} {times : List Time}

/-- The record of another event. -/
theorem record_silent
    {eventType : PyStr}
    (data : PyDict)
    (written : Written)
    (other : eventType ≠ "timeout_dynamic_run") :
    Ensures (Silent start) (record eventType data written) (fun _ => Silent start)
      (fun _ => Silent start) := by
  intro entry silent
  let appended := entry.run.appendEvent eventType data written.timestamp written.now
  let files := DynamicRunStore.writeAll entry.files
    (DynamicRunStore.persistEvent entry.files appended.2 appended.1.snapshot
      written.faults).writes
  have same : timeoutsOf "timeout_dynamic_run" files.canonical =
      timeoutsOf "timeout_dynamic_run" entry.files.canonical := by
    rcases canonical_of_persistEvent entry.files appended.2 appended.1.snapshot
      written.faults with kept | grown
    · rw [show files.canonical = _ from kept]
    · rw [show files.canonical = _ from grown]
      simp [timeoutsOf, show appended.2.eventType = eventType from rfl, other]
  have after : Silent start ⟨appended.1, files, entry.stops⟩ :=
    ⟨silent.timedOut, same.trans silent.timeouts, silent.stops⟩
  unfold record
  dsimp only
  cases (DynamicRunStore.persistEvent entry.files appended.2 appended.1.snapshot
      written.faults).result with
  | ok _ =>
      exact after
  | error raised =>
      exact after

/-- None of the looks finds the deadline passed, or one of them times the run out. -/
def Verdict
    (render : Time → PyStr)
    (times : List Time)
    (start after : DynamicEntry) : Prop :=
  ((∀ time ∈ times, start.run.deadlinePassed time = false) ∧ Silent start after) ∨
    ∃ time ∈ times, start.run.deadlinePassed time = true ∧
      after = { start with run := start.run.timedOutRun render time }

theorem Silent.verdict
    {after : DynamicEntry}
    (silent : Silent start after) :
    Verdict render [] start after :=
  Or.inl ⟨fun _ member => absurd member List.not_mem_nil, silent⟩

theorem Verdict.cons
    {time : Time}
    {after : DynamicEntry}
    (early : start.run.deadlinePassed time = false)
    (verdict : Verdict render times start after) :
    Verdict render (time :: times) start after := by
  rcases verdict with ⟨waiting, silent⟩ | ⟨other, member, passed, timedOut⟩
  · refine Or.inl ⟨fun other member => ?_, silent⟩
    rcases List.mem_cons.mp member with rfl | later
    · exact early
    · exact waiting other later
  · exact Or.inr ⟨other, List.mem_cons_of_mem _ member, passed, timedOut⟩

/-- An operation that looks at the clock, and what comes after it. -/
theorem perform_verdict
    {Value : Type}
    {operation : DynamicRun → Outcome DynamicRun Value}
    {rest : Value → DynamicCall Unit}
    {time : Time}
    (fires :
      start.run.deadlinePassed time = true →
        ∃ raised,
          operation start.run = ⟨start.run.timedOutRun render time, .error raised⟩)
    (raises :
      start.run.deadlinePassed time = false →
        ∀ raised, (operation start.run).result = .error raised →
          Verdict render times start
            { start with run := (operation start.run).state })
    (returns :
      start.run.deadlinePassed time = false →
        ∀ value, (operation start.run).result = .ok value →
          Ensures
            (fun entry => entry = { start with run := (operation start.run).state })
            (rest value) (fun _ => Verdict render times start)
            (fun _ => Verdict render times start)) :
    Ensures (fun entry => entry = start) (perform operation >>= rest)
      (fun _ => Verdict render (time :: times) start)
      (fun _ => Verdict render (time :: times) start) := by
  rintro entry rfl
  cases passed : entry.run.deadlinePassed time with
  | true =>
      obtain ⟨raised, outcome⟩ := fires passed
      have failed : perform operation entry =
          .error raised { entry with run := entry.run.timedOutRun render time } := by
        simp only [perform, outcome]
      rw [bind_of_error failed]
      exact Or.inr ⟨time, List.mem_cons_self, passed, rfl⟩
  | false =>
      cases result : (operation entry.run).result with
      | error raised =>
          have failed : perform operation entry =
              .error raised { entry with run := (operation entry.run).state } := by
            simp only [perform, result]
          rw [bind_of_error failed]
          exact (raises passed raised result).cons passed
      | ok value =>
          have returned : perform operation entry =
              .ok value { entry with run := (operation entry.run).state } := by
            simp only [perform, result]
          rw [bind_of_ok returned]
          exact ((returns passed value result).weaken (fun _ same => same)
            (fun _ _ verdict => verdict.cons passed)
            fun _ _ verdict => verdict.cons passed) _ rfl

theorem deadlinePassed_of_terminal
    {run : DynamicRun}
    (terminal : run.isTerminal = true)
    (time : Time) :
    run.deadlinePassed time = false := by
  cases passed : run.deadlinePassed time with
  | false =>
      rfl
  | true =>
      rw [DynamicRun.isTerminal_of_deadlinePassed passed] at terminal
      cases terminal

/-- A look at the clock, and what comes after it. -/
theorem check_verdict
    {rest : Unit → DynamicCall Unit}
    {time : Time}
    (later :
      Ensures (fun entry => entry = start) (rest ())
        (fun _ => Verdict render times start) (fun _ => Verdict render times start)) :
    Ensures (fun entry => entry = start) (check render time >>= rest)
      (fun _ => Verdict render (time :: times) start)
      (fun _ => Verdict render (time :: times) start) := by
  refine perform_verdict (fun passed => ?_) (fun early raised failed => ?_)
    fun early value returned => ?_
  · exact DynamicRun.checkCanMutate_of_passed render passed
  · cases terminal : start.run.isTerminal with
    | true =>
        rw [DynamicRun.checkCanMutate_of_terminal render time terminal]
        exact Or.inl ⟨fun other _ => deadlinePassed_of_terminal terminal other,
          .refl start⟩
    | false =>
        rw [DynamicRun.checkCanMutate_of_live render early terminal] at failed
        cases failed
  · cases terminal : start.run.isTerminal with
    | true =>
        rw [DynamicRun.checkCanMutate_of_terminal render time terminal] at returned
        cases returned
    | false =>
        rw [DynamicRun.checkCanMutate_of_live render early terminal]
        exact later

theorem record_verdict
    {eventType : PyStr}
    {run : DynamicRun}
    (data : PyDict)
    (written : Written)
    (other : eventType ≠ "timeout_dynamic_run")
    (silent : Silent start { start with run := run }) :
    Ensures (fun entry => entry = { start with run := run })
      (record eventType data written) (fun _ => Verdict render [] start)
      (fun _ => Verdict render [] start) :=
  (record_silent data written other).weaken (fun _ same => same ▸ silent)
    (fun _ _ after => after.verdict) fun _ _ after => after.verdict

/-- A run that was active and has not been timed out looks as before. -/
theorem silent_of_live
    {run : DynamicRun}
    {stops : Nat}
    (live : start.run.isTerminal = false)
    (status : run.status ≠ .timedOut) :
    Silent start { start with run := run, stops := stops } := by
  have before : start.sight.timedOut = false := by
    unfold DynamicEntry.sight
    rw [decide_eq_false_iff_not]
    intro same
    rw [DynamicRun.isTerminal, same] at live
    cases live
  refine ⟨?_, rfl, fun already => ?_⟩
  · rw [before]
    simpa [DynamicEntry.sight] using status
  · rw [before] at already
    cases already

theorem finalize_verdict
    (result : PyVal)
    (now : Time)
    (written : Written)
    (sending : Except PyErr Unit) :
    Ensures (fun entry => entry = start)
      (body render (.finalize result now written sending))
      (fun _ => Verdict render
        (guards (.finalize result now written sending) start.run) start)
      (fun _ => Verdict render
        (guards (.finalize result now written sending) start.run) start) := by
  have ends : ∀ run, Silent start { start with run := run } →
      Ensures (fun entry => entry = { start with run := run })
        (do
          record "finish_workflow" [("result", result)] written
          returning sending)
        (fun _ => Verdict render [] start) (fun _ => Verdict render [] start) :=
    fun run silent => ensures_bind
      (record_verdict _ _ (by decide) silent) fun _ => returning_ensures sending
  simp only [body, guards]
  cases finalized : start.run.finalized with
  | true =>
      rintro entry rfl
      have returned : perform (fun run => run.finalize render result now) entry =
          .ok () entry := by
        simp only [perform, DynamicRun.finalize, finalized, if_true]
      rw [bind_of_ok returned]
      exact ends entry.run (.refl entry) entry rfl
  | false =>
      refine perform_verdict (fun passed => ?_) (fun early raised failed => ?_)
        fun early value returned => ?_
      · obtain ⟨raised, checked⟩ := DynamicRun.checkCanMutate_of_passed render passed
        refine ⟨raised, ?_⟩
        simp only [DynamicRun.finalize, finalized, checked]
        rfl
      · have same : (start.run.finalize render result now).state = start.run := by
          cases terminal : start.run.isTerminal with
          | true =>
              simp only [DynamicRun.finalize, finalized,
                DynamicRun.checkCanMutate_of_terminal render now terminal]
              rfl
          | false =>
              simp only [DynamicRun.finalize, finalized,
                DynamicRun.checkCanMutate_of_live render early terminal] at failed ⊢
              cases final : start.run.canFinalize with
              | true =>
                  simp [final] at failed
              | false =>
                  rfl
        rw [same]
        exact (Silent.refl start).verdict
      · cases terminal : start.run.isTerminal with
        | true =>
            simp only [DynamicRun.finalize, finalized,
              DynamicRun.checkCanMutate_of_terminal render now terminal] at returned
            cases returned
        | false =>
            refine ends _ (silent_of_live terminal ?_)
            simp only [DynamicRun.finalize, finalized,
              DynamicRun.checkCanMutate_of_live render early terminal] at returned ⊢
            cases final : start.run.canFinalize with
            | true =>
                simp
            | false =>
                simp [final] at returned

theorem cancel_verdict
    (reason : PyVal)
    (now : Time)
    (written : Written)
    (sending : Except PyErr Unit) :
    Ensures (fun entry => entry = start)
      (cancelDynamicRun render reason now written sending)
      (fun _ => Verdict render
        (guards (.cancel reason now written sending) start.run) start)
      (fun _ => Verdict render
        (guards (.cancel reason now written sending) start.run) start) := by
  simp only [cancelDynamicRun, guards]
  by_cases canceled : start.run.status = .canceled
  · rw [if_pos canceled]
    rintro entry rfl
    have returned : perform (fun run => run.cancel render reason now) entry =
        .ok false entry := by
      simp only [perform, DynamicRun.cancel, canceled, if_true]
    rw [bind_of_ok returned]
    exact (Silent.refl entry).verdict
  · rw [if_neg canceled]
    refine perform_verdict (fun passed => ?_) (fun early raised failed => ?_)
      fun early value returned => ?_
    · obtain ⟨raised, checked⟩ := DynamicRun.checkCanMutate_of_passed render passed
      refine ⟨raised, ?_⟩
      simp only [DynamicRun.cancel, if_neg canceled, checked]
    · cases terminal : start.run.isTerminal with
      | true =>
          simp only [DynamicRun.cancel, if_neg canceled,
            DynamicRun.checkCanMutate_of_terminal render now terminal]
          exact (Silent.refl start).verdict
      | false =>
          simp only [DynamicRun.cancel, if_neg canceled,
            DynamicRun.checkCanMutate_of_live render early terminal] at failed
          cases failed
    · cases terminal : start.run.isTerminal with
      | true =>
          simp only [DynamicRun.cancel, if_neg canceled,
            DynamicRun.checkCanMutate_of_terminal render now terminal] at returned
          cases returned
      | false =>
          have live : start.sight.timedOut = false := by
            unfold DynamicEntry.sight
            rw [decide_eq_false_iff_not]
            intro same
            rw [DynamicRun.isTerminal, same] at terminal
            cases terminal
          have status : (start.run.cancel render reason now).state.status ≠
              .timedOut := by
            simp [DynamicRun.cancel, if_neg canceled, DynamicRun.failActiveTasks,
              DynamicRun.checkCanMutate_of_live render early terminal]
          have changed : value = true := by
            simp only [DynamicRun.cancel, if_neg canceled,
              DynamicRun.checkCanMutate_of_live render early terminal] at returned
            exact (Except.ok.inj returned).symm
          subst changed
          have recorded : Ensures
              (fun entry => entry =
                { start with run := (start.run.cancel render reason now).state })
              (record "cancel_dynamic_run" [("reason", reason)] written)
              (fun _ => Silent start) (fun _ => Verdict render [] start) :=
            (record_silent _ _ (by decide)).weaken
              (fun _ same => same ▸ silent_of_live terminal status)
              (fun _ _ silent => silent) fun _ _ silent => silent.verdict
          refine ensures_bind recorded fun _ => ?_
          refine ensures_via (fun _ => Verdict render [] start) ?_ fun _ =>
            returning_ensures sending
          apply ensures_modify
          intro entry silent
          exact Silent.verdict ⟨silent.timedOut, silent.timeouts, fun already => by
            rw [live] at already
            cases already⟩

/-- The last look of an append, and what comes after it. -/
theorem append_verdict
    (request : DynamicRun.AppendRequest)
    (data : PyDict)
    (time : Time)
    (written : Written)
    (sending : Except PyErr Unit) :
    Ensures (fun entry => entry = start)
      (do
        let appended ← perform fun run => run.appendTask render request time
        if appended.2 then
          pure ()
        else do
          record "append_task" data written
          let entry ← get
          if appended.1 ∈ entry.run.submittedTasks then
            returning sending
          else
            pure ())
      (fun _ => Verdict render [time] start)
      (fun _ => Verdict render [time] start) := by
  have outcomes := DynamicReadiness.appendTask_outcomes render start.run request time
  have silent : start.run.deadlinePassed time = false →
      Silent start
        { start with run := (start.run.appendTask render request time).state } := by
    intro early
    rcases outcomes with ⟨passed, _⟩ | ⟨same, _⟩ | ⟨active, _, _, added⟩
    · rw [early] at passed
      cases passed
    · rw [same]
      exact .refl start
    · rw [added]
      refine silent_of_live active fun already => ?_
      have status : (start.run.addTask request time).status = .timedOut := already
      have going := DynamicReadiness.isTerminal_addTask start.run request time active
      rw [DynamicRun.isTerminal, status] at going
      cases going
  refine perform_verdict (fun passed => ?_) (fun early raised failed => ?_)
    fun early value returned => ?_
  · obtain ⟨raised, checked⟩ := DynamicRun.checkCanMutate_of_passed render passed
    refine ⟨raised, ?_⟩
    simp only [DynamicRun.appendTask, checked]
  · exact (silent early).verdict
  · split
    · exact ensures_pure fun _ same => same ▸ (silent early).verdict
    · refine ensures_bind (record_verdict data written (by decide) (silent early))
        fun _ => ?_
      refine ensures_get fun entry verdict => ?_
      have here : ∀ current, current = entry → Verdict render [] start current :=
        fun current same => same ▸ verdict
      split
      · exact (returning_ensures sending).weaken here (fun _ _ after => after)
          fun _ _ after => after
      · exact ensures_pure here

theorem appendDynamicTask_verdict
    (request : DynamicRun.AppendRequest)
    (resolved : Except PyErr Bool)
    (data : PyDict)
    (times : AppendTimes)
    (written : Written)
    (sending : Except PyErr Unit) :
    Ensures (fun entry => entry = start)
      (appendDynamicTask render request resolved data times written sending)
      (fun _ => Verdict render
        (guards (.appendTask request resolved data times written sending) start.run)
        start)
      (fun _ => Verdict render
        (guards (.appendTask request resolved data times written sending) start.run)
        start) := by
  have stays : ∀ current, current = start → Verdict render [] start current := by
    rintro current rfl
    exact (Silent.refl current).verdict
  have last : Ensures (fun entry => entry = start)
      (do
        check render times.append
        let appended ← perform fun run => run.appendTask render request times.task
        if appended.2 then
          pure ()
        else do
          record "append_task" data written
          let entry ← get
          if appended.1 ∈ entry.run.submittedTasks then
            returning sending
          else
            pure ())
      (fun _ => Verdict render [times.append, times.task] start)
      (fun _ => Verdict render [times.append, times.task] start) :=
    check_verdict (append_verdict request data times.task written sending)
  simp only [appendDynamicTask, guards]
  split
  · next existing =>
    refine check_verdict (ensures_get fun entry same => ?_)
    subst same
    rw [if_pos existing]
    exact ensures_pure stays
  · next unknown =>
    split
    · next full =>
      refine check_verdict (ensures_get fun entry same => ?_)
      subst same
      rw [if_neg unknown]
      refine check_verdict ?_
      rw [if_pos full]
      exact ensures_throw stays
    · next room =>
      cases resolved with
      | error raised =>
          refine check_verdict (ensures_get fun entry same => ?_)
          subst same
          rw [if_neg unknown]
          refine check_verdict ?_
          rw [if_neg room]
          rintro current rfl
          exact stays current rfl
      | ok inline =>
          cases inline with
          | true =>
              refine check_verdict (ensures_get fun entry same => ?_)
              subst same
              rw [if_neg unknown]
              refine check_verdict ?_
              rw [if_neg room]
              exact check_verdict last
          | false =>
              refine check_verdict (ensures_get fun entry same => ?_)
              subst same
              rw [if_neg unknown]
              refine check_verdict ?_
              rw [if_neg room]
              exact last

/-- What a call makes of a run, after its look at the deadline. -/
theorem body_verdict
    (call : Call)
    (unrefused : refused call = false) :
    Ensures (fun entry => entry = start) (body render call)
      (fun _ => Verdict render (guards call start.run) start)
      (fun _ => Verdict render (guards call start.run) start) := by
  have stays : ∀ current, current = start → Verdict render [] start current := by
    rintro current rfl
    exact (Silent.refl current).verdict
  cases call with
  | read =>
      exact ensures_pure stays
  | registerTaskSpec parsed data now written =>
      cases parsed with
      | error raised =>
          rintro current rfl
          exact stays current rfl
      | ok _ =>
          have checked : Ensures (fun entry => entry = start)
              (check render now >>= fun _ => record "register_task_spec" data written)
              (fun _ => Verdict render [now] start)
              (fun _ => Verdict render [now] start) :=
            check_verdict (record_verdict data written (by decide) (.refl start))
          exact checked
  | appendTask request resolved data times written sending =>
      exact appendDynamicTask_verdict request resolved data times written sending
  | emitEvent eventType data now written =>
      have other : eventType ≠ "timeout_dynamic_run" := by
        rintro rfl
        exact absurd unrefused (by simp [refused, DynamicCore.reservedEventTypes])
      exact check_verdict (record_verdict data written other (.refl start))
  | finalize result now written sending =>
      exact finalize_verdict result now written sending
  | cancel reason now written sending =>
      exact cancel_verdict reason now written sending
  | updateMetadata saved =>
      exact (returning_ensures saved).weaken (fun _ same => same)
        (fun _ _ same => stays _ same) fun _ _ same => stays _ same

end Calls

/-! ## What the operations tell -/

theorem Silent.told
    {before after : DynamicEntry}
    (silent : Silent before after) :
    Told before.sight after.sight := by
  unfold Told
  rw [silent.timedOut, if_neg (by simp)]
  exact silent.timeouts

theorem Verdict.told_iff
    {render : Time → PyStr}
    {times : List Time}
    {start after : DynamicEntry}
    (verdict : Verdict render times start after) :
    Told start.sight after.sight ↔
      ∀ time ∈ times, start.run.deadlinePassed time = false := by
  rcases verdict with ⟨waiting, silent⟩ | ⟨time, member, passed, rfl⟩
  · exact iff_of_true silent.told waiting
  · refine iff_of_false (not_told ?_ ?_ (Or.inl rfl)) fun waiting => ?_
    · have live := DynamicRun.isTerminal_of_deadlinePassed passed
      unfold DynamicEntry.sight
      rw [decide_eq_false_iff_not]
      intro already
      rw [DynamicRun.isTerminal, already] at live
      cases live
    · simp [DynamicEntry.sight, DynamicRun.timedOutRun, DynamicRun.failActiveTasks]
    · rw [waiting time member] at passed
      cases passed

theorem verdict_leaving
    {render : Time → PyStr}
    {call : DynamicCall Unit}
    {times : List Time}
    {start : DynamicEntry}
    (ensures :
      Ensures (fun entry => entry = start) call (fun _ => Verdict render times start)
        (fun _ => Verdict render times start)) :
    Verdict render times start (leaving call start) := by
  unfold leaving
  cases outcome : call start with
  | ok _ after =>
      exact ensures.returned rfl outcome
  | error _ after =>
      exact ensures.raised rfl outcome

section Dynamic

variable {visit : DynamicVisit} {entry : DynamicEntry}

theorem sight_of_passed
    (passed : entry.run.deadlinePassed visit.now = true) :
    entry.sight.timedOut = false := by
  have live := DynamicRun.isTerminal_of_deadlinePassed passed
  unfold DynamicEntry.sight
  rw [decide_eq_false_iff_not]
  intro already
  rw [DynamicRun.isTerminal, already] at live
  cases live

/-- A dynamic run is told of exactly where its event and its stop message go out. -/
theorem told_refresh_iff
    (render : Time → PyStr)
    (passed : entry.run.deadlinePassed visit.now = true) :
    DynamicSwept visit entry (leaving (refresh render visit) entry) ↔
      DynamicReaches render visit entry := by
  have live := sight_of_passed passed
  rcases refreshed_of_passed render passed with
    ⟨files, reaches, canonical, returned⟩ | ⟨files, stops, misses, missing, ended⟩
  · rw [leaving_of_ok returned]
    refine iff_of_true ⟨?_, fun _ => rfl⟩ reaches
    rw [told_iff_of_transition live rfl]
    refine ⟨⟨timeoutEvent render visit entry.run, ?_⟩, rfl⟩
    simp only [DynamicEntry.sight, canonical]
    exact timeoutsOf_append _ rfl
  · have left : leaving (refresh render visit) entry =
        ⟨dynamicTimedOut render visit entry.run, files, stops⟩ := by
      rcases ended with returned | ⟨raised, failed⟩
      · exact leaving_of_ok returned
      · exact leaving_of_error failed
    rw [left]
    refine iff_of_false (fun told => ?_) misses
    refine not_told live rfl (missing.imp_left fun same => ?_) told.told
    simp only [DynamicEntry.sight, same]

/-- What a call tells depends on the looks that it takes at the clock. -/
theorem told_call_iff
    (render : Time → PyStr)
    {call : Call}
    (unrefused : refused call = false) :
    Told entry.sight (leaving (callDynamicRun render visit call) entry).sight ↔
      if entry.run.deadlinePassed visit.now = true then
        DynamicReaches render visit entry
      else
        ∀ time ∈ guards call entry.run, entry.run.deadlinePassed time = false := by
  have calls : callDynamicRun render visit call =
      (refresh render visit >>= fun _ => body render call) := by
    unfold callDynamicRun
    rw [unrefused]
    rfl
  rw [calls]
  cases passed : entry.run.deadlinePassed visit.now with
  | false =>
      rw [if_neg (by simp)]
      have left : leaving (refresh render visit >>= fun _ => body render call) entry =
          leaving (body render call) entry := by
        rw [leaving, bind_of_ok (refresh_of_not_passed render passed)]
        rfl
      rw [left]
      exact (verdict_leaving (body_verdict call unrefused)).told_iff
  | true =>
      rw [if_pos rfl]
      have live := sight_of_passed passed
      have silent : ∀ files stops,
          Silent ⟨dynamicTimedOut render visit entry.run, files, stops⟩
            (leaving (body render call)
              ⟨dynamicTimedOut render visit entry.run, files, stops⟩) := by
        intro files stops
        rcases verdict_leaving (body_verdict call unrefused) with
          ⟨_, silent⟩ | ⟨time, _, late, _⟩
        · exact silent
        · rw [deadlinePassed_of_terminal rfl time] at late
          cases late
      have left : ∀ {after}, refresh render visit entry = .ok () after →
          leaving (refresh render visit >>= fun _ => body render call) entry =
            leaving (body render call) after := by
        intro after returned
        rw [leaving, bind_of_ok returned]
        rfl
      rcases refreshed_of_passed render passed with
        ⟨files, reaches, canonical, returned⟩ | ⟨files, stops, misses, missing, ended⟩
      · rw [left returned]
        have quiet := silent files (entry.stops + 1)
        refine iff_of_true ?_ reaches
        rw [told_iff_of_transition live (quiet.timedOut.trans rfl)]
        refine ⟨⟨timeoutEvent render visit entry.run, ?_⟩, quiet.stops rfl⟩
        rw [quiet.timeouts]
        simp only [DynamicEntry.sight, canonical]
        exact timeoutsOf_append _ rfl
      · refine iff_of_false ?_ misses
        rcases ended with returned | ⟨raised, failed⟩
        · rw [left returned]
          have quiet := silent files stops
          refine not_told live (quiet.timedOut.trans rfl) ?_
          rcases missing with same | same
          · refine Or.inl ?_
            rw [quiet.timeouts]
            simp only [DynamicEntry.sight, same]
          · exact Or.inr ((quiet.stops rfl).trans same)
        · rw [leaving_of_error (bind_of_error failed)]
          refine not_told live rfl (missing.imp_left fun same => ?_)
          simp only [DynamicEntry.sight, same]

end Dynamic

theorem told_refl (sight : Sight) : Told sight sight := by
  unfold Told
  rw [if_neg (by simp)]

/-- The loop over the static runs. -/
theorem sweepStatics_iff
    (rendering : Rendering)
    (visits : Nat → StaticVisit)
    (entries : List StaticEntry) :
    EachRun (fun index => StaticSwept (visits index)) entries
        (sweepRuns (fun index => sweepStatic rendering (visits index)) entries).1 ↔
      ∀ index entry, entries[index]? = some entry →
        dueStatic (visits index) entry = true → StaticReaches (visits index) entry := by
  apply sweepRuns_iff
  · intro index entry early
    exact ⟨sweepStatic_of_not_due rendering early, told_refl entry.sight,
      fun due => absurd due early⟩
  · intro index entry due
    exact told_sweepStatic_iff rendering due
  · intro index entry due reaches
    exact sweepStatic_returns rendering due reaches

theorem sweepStatics_returns
    (rendering : Rendering)
    (visits : Nat → StaticVisit)
    {entries : List StaticEntry}
    (reached :
      ∀ index entry, entries[index]? = some entry →
        dueStatic (visits index) entry = true → StaticReaches (visits index) entry) :
    (sweepRuns (fun index => sweepStatic rendering (visits index)) entries).2 =
      .ok () :=
  sweepRuns_returns (fun _ _ early => sweepStatic_of_not_due rendering early)
    (fun _ _ due reaches => sweepStatic_returns rendering due reaches) reached

/-- The loop over the dynamic runs. -/
theorem sweepDynamics_iff
    (render : Time → PyStr)
    (visits : Nat → DynamicVisit)
    (entries : List DynamicEntry) :
    EachRun (fun index => DynamicSwept (visits index)) entries
        (sweepRuns (fun index => refresh render (visits index)) entries).1 ↔
      ∀ index entry, entries[index]? = some entry →
        entry.run.deadlinePassed (visits index).now = true →
          DynamicReaches render (visits index) entry := by
  apply sweepRuns_iff
  · intro index entry early
    exact ⟨refresh_of_not_passed render (by simpa using early),
      told_refl entry.sight, fun passed => absurd passed early⟩
  · intro index entry passed
    exact told_refresh_iff render passed
  · intro index entry passed reaches
    rcases refreshed_of_passed render passed with ⟨_, _, _, returned⟩ |
      ⟨_, _, misses, _⟩
    · exact ⟨_, returned⟩
    · exact absurd reaches misses

/--
Every transition by a deadline has one event in the log and one stop message, and a
sweep times out every run whose deadline has passed, exactly where each event that a
first look makes is written and its stop message sent, and no later look of a call
finds the deadline passed.
-/
theorem deadlines_complete_iff
    (rendering : Rendering)
    (render : Time → PyStr)
    (runs : Runs)
    (operation : Operation) :
    Complete runs (operate rendering render runs operation) operation ↔
      Timely render runs operation := by
  cases operation with
  | call index visit call =>
      have statics : EachRun
          (fun _ (before after : StaticEntry) => Told before.sight after.sight)
          runs.statics runs.statics :=
        eachRun_refl (fun _ entry => told_refl entry.sight) runs.statics
      have dynamics : EachRun
          (fun _ (before after : DynamicEntry) => Told before.sight after.sight)
          runs.dynamics
          (runs.dynamics.modify index (leaving (callDynamicRun render visit call))) ↔
            ∀ entry, runs.dynamics[index]? = some entry →
              Told entry.sight (leaving (callDynamicRun render visit call) entry).sight :=
        eachRun_modify (fun entry => told_refl entry.sight) _ runs.dynamics index
      refine (and_iff_right statics).trans (dynamics.trans ?_)
      cases unrefused : refused call with
      | true =>
          refine iff_of_true (fun entry _ => ?_) fun same => ?_
          · have left : leaving (callDynamicRun render visit call) entry = entry := by
              unfold callDynamicRun
              rw [unrefused]
              rfl
            rw [left]
            exact told_refl entry.sight
          · rw [unrefused] at same
            cases same
      | false =>
          simp only [Timely, unrefused, true_implies]
          exact forall_congr' fun entry => imp_congr_right fun _ =>
            told_call_iff render unrefused
  | sweep statics dynamics =>
      have swept := sweepStatics_iff rendering statics runs.statics
      have refreshed := sweepDynamics_iff render dynamics runs.dynamics
      by_cases reached : ∀ index entry, runs.statics[index]? = some entry →
          dueStatic (statics index) entry = true → StaticReaches (statics index) entry
      · have ended := sweepStatics_returns rendering statics reached
        have after : operate rendering render runs (.sweep statics dynamics) =
            { statics := (sweepRuns (fun index => sweepStatic rendering (statics index))
                runs.statics).1
              dynamics := (sweepRuns (fun index => refresh render (dynamics index))
                runs.dynamics).1 } := by
          simp only [operate, sweep, ended]
        rw [after]
        exact and_congr swept refreshed
      · have same : (operate rendering render runs (.sweep statics dynamics)).statics =
            (sweepRuns (fun index => sweepStatic rendering (statics index))
              runs.statics).1 := by
          simp only [operate, sweep]
          split <;> rfl
        refine iff_of_false (fun complete => reached ?_) fun timely => reached timely.1
        have each := complete.1
        rw [same] at each
        exact swept.mp each

/-- A run that may last one second. -/
def shortRun (runId : PyStr) : DynamicEntry where
  run := .new runId 10 (some 1) .null 0
  files := ⟨[], [], none⟩
  stops := 0

/-- A visit after five seconds, with the faults of its writes. -/
def lateVisit (faults : Faults) : DynamicVisit where
  now := 5
  data := []
  written := ⟨"2026-01-01T00:00:05", 5, faults⟩
  sending := .ok ()

/-- A sweep in which the first event cannot be written. -/
def failingSweep : Operation :=
  .sweep (fun _ => ⟨0, "", .none, .ok (), .ok ()⟩) fun index =>
    lateVisit ⟨if index = 0 then .before else .none, .none, .none⟩

/--
Two runs are past their deadlines, and the write of the event of the first one fails:
the sweep ends with it, and the second run goes on.
-/
theorem sweep_ends_with_first :
    ¬ Complete ⟨[], [shortRun "first", shortRun "second"]⟩
      (operate ⟨fun _ => "", fun _ => "", fun _ => .null⟩ (fun _ => "")
        ⟨[], [shortRun "first", shortRun "second"]⟩ failingSweep)
      failingSweep := by
  have fails : (match refresh (fun _ => "") (lateVisit ⟨.before, .none, .none⟩)
      (shortRun "first") with
    | .ok _ _ => false
    | .error _ _ => true) = true := by
    decide +kernel
  cases outcome : refresh (fun _ => "") (lateVisit ⟨.before, .none, .none⟩)
      (shortRun "first") with
  | ok _ after =>
      rw [outcome] at fails
      cases fails
  | error raised after =>
      have swept : (operate ⟨fun _ => "", fun _ => "", fun _ => .null⟩ (fun _ => "")
          ⟨[], [shortRun "first", shortRun "second"]⟩ failingSweep).dynamics =
            [after, shortRun "second"] := by
        simp only [operate, failingSweep, sweep, sweepRuns, if_true, outcome]
      rintro ⟨_, each⟩
      rw [swept] at each
      obtain ⟨_, second, _⟩ := each
      have timedOut := second.timedOut (by decide +kernel)
      exact absurd timedOut (by decide)

end Maze.Core.Deadlines
