import Maze.Core.StaticTransactions

namespace Maze.Core.StaticCore

open Maze.Python
open Maze.Library.Fallible

/-!
# Readiness in a static run

Every finished task has a continuation, which advances the workflow once and then
sends the tasks that it has made ready. A task is made ready by the continuation
that completes its last predecessor and by no other, so the marks of that one
continuation say whether the task has been sent.
-/

/-- Every task that the continuation has made ready has been sent. -/
def Settled (continuation : FinishContinuation) : Prop :=
  continuation.workflowAdvanced = true ∧
    ∀ ready ∈ continuation.readyTaskIds, ready ∈ continuation.sentTaskIds

/-- What holds of the continuation of a task. -/
structure Continued
    (process : StaticProcess)
    (taskId : TaskId)
    (continuation : FinishContinuation) : Prop where
  succeeded : process.run.hasSucceeded taskId = true
  advanced :
    continuation.workflowAdvanced = true ↔ taskId ∈ process.completedTasks
  ready :
    ∀ ready ∈ continuation.readyTaskIds,
      ready ∈ process.workflow.taskIds ∧
        taskId ∈ process.workflow.predecessors ready ∧
        ∀ task ∈ process.workflow.predecessors ready,
          task ∈ process.completedTasks
  sent :
    ∀ ready ∈ continuation.sentTaskIds,
      ready ∈ continuation.readyTaskIds ∧ ready ∈ process.sentTasks
  settled : continuation.completed = true → Settled continuation

/-- A task has been made ready by the continuation of another. -/
def MadeReady (process : StaticProcess) (ready : TaskId) : Prop :=
  ∃ taskId continuation,
    process.run.continuation? taskId = some continuation ∧
      ready ∈ continuation.readyTaskIds

/-- The run, its continuations and what has been sent fit together. -/
structure Coherent (process : StaticProcess) : Prop where
  known :
    ∀ taskId, (process.run.node? taskId).isSome = true →
      taskId ∈ process.workflow.taskIds
  terminal :
    ∀ taskId, process.run.hasSucceeded taskId = true →
      process.gate.terminal (process.run.runId, taskId) = true
  finished :
    ∀ taskId, process.run.hasSucceeded taskId = true →
      (process.run.continuation? taskId).isSome = true
  completed :
    ∀ taskId ∈ process.completedTasks,
      (process.run.continuation? taskId).isSome = true
  continued :
    ∀ taskId continuation,
      process.run.continuation? taskId = some continuation →
        Continued process taskId continuation
  once :
    ∀ first second firstContinuation secondContinuation ready,
      process.run.continuation? first = some firstContinuation →
      process.run.continuation? second = some secondContinuation →
      ready ∈ firstContinuation.readyTaskIds →
      ready ∈ secondContinuation.readyTaskIds →
        first = second
  sent :
    ∀ ready ∈ process.sentTasks,
      process.workflow.predecessors ready = [] ∨
        ∃ taskId continuation,
          process.run.continuation? taskId = some continuation ∧
            ready ∈ continuation.sentTaskIds
  distinct : process.sentTasks.Nodup
  roots : ∀ taskId ∈ process.workflow.startTasks, taskId ∈ process.sentTasks
  covered :
    ∀ ready ∈ process.workflow.taskIds,
      process.workflow.predecessors ready ≠ [] →
      (∀ task ∈ process.workflow.predecessors ready,
        task ∈ process.completedTasks) →
      MadeReady process ready

variable
  {continuation : FinishContinuation}
  {taskId : TaskId}
  {good : Prop}
  {condition : List Bool → Prop}
  {change : FinishContinuation → FinishContinuation}
  {process : StaticProcess}

theorem hasSucceeded_known
    {run : StaticRun}
    (succeeded : run.hasSucceeded taskId = true) :
    (run.node? taskId).isSome = true := by
  cases found : run.node? taskId with
  | none =>
      simp [StaticRun.hasSucceeded, found] at succeeded
  | some node =>
      rfl

/-- What follows a coherent process is coherent. -/
theorem Coherent.follows
    {before after : StaticProcess}
    (coherent : Coherent before)
    (follows : Follows before after) :
    Coherent after where
  known := fun taskId known => by
    rw [follows.workflow]
    exact coherent.known taskId ((follows.succeeded.known taskId).symm.trans known)
  terminal := fun taskId succeeded => by
    rw [follows.succeeded.runId]
    exact follows.gate _ (coherent.terminal taskId
      ((follows.succeeded.succeeded taskId).symm.trans succeeded))
  finished := fun taskId succeeded => by
    rw [follows.continuations]
    exact coherent.finished taskId
      ((follows.succeeded.succeeded taskId).symm.trans succeeded)
  completed := fun taskId completed => by
    rw [follows.completedTasks] at completed
    rw [follows.continuations]
    exact coherent.completed taskId completed
  continued := fun taskId continuation found => by
    rw [follows.continuations] at found
    have continued := coherent.continued taskId continuation found
    exact {
      succeeded := (follows.succeeded.succeeded taskId).trans continued.succeeded
      advanced := by
        rw [follows.completedTasks]
        exact continued.advanced
      ready := by
        rw [follows.workflow, follows.completedTasks]
        exact continued.ready
      sent := by
        rw [follows.sentTasks]
        exact continued.sent
      settled := continued.settled }
  once := fun first second firstContinuation secondContinuation ready => by
    rw [follows.continuations, follows.continuations]
    exact coherent.once first second firstContinuation secondContinuation ready
  sent := fun ready sent => by
    rw [follows.sentTasks] at sent
    rw [follows.workflow]
    simp only [follows.continuations]
    exact coherent.sent ready sent
  distinct := by
    rw [follows.sentTasks]
    exact coherent.distinct
  roots := by
    rw [follows.workflow, follows.sentTasks]
    exact coherent.roots
  covered := fun ready => by
    rw [follows.workflow, follows.completedTasks, MadeReady]
    simp only [follows.continuations]
    exact coherent.covered ready

/-! ## One continuation at work -/

/-- While the continuation of a task is at work, the rest stays as it was. -/
structure Frame
    (start : StaticProcess)
    (taskId : TaskId)
    (process : StaticProcess) : Prop where
  workflow : process.workflow = start.workflow
  gate : process.gate = start.gate
  retrying : process.retrying = start.retrying
  progress : StaticRun.SameProgress start.run process.run
  identities :
    ∀ other,
      (process.run.continuation? other).map FinishContinuation.attemptIdentity =
        (start.run.continuation? other).map FinishContinuation.attemptIdentity
  others :
    ∀ other, other ≠ taskId →
      process.run.continuation? other = start.run.continuation? other

theorem Frame.refl
    (process : StaticProcess)
    (taskId : TaskId) :
    Frame process taskId process :=
  ⟨rfl, rfl, rfl, StaticRun.SameProgress.refl _, fun _ => rfl, fun _ _ => rfl⟩

/-- The process while the continuation of a task is the given one. -/
structure At
    (start : StaticProcess)
    (taskId : TaskId)
    (continuation : FinishContinuation)
    (process : StaticProcess) : Prop where
  coherent : Coherent process
  frame : Frame start taskId process
  here : process.run.continuation? taskId = some continuation

/-- The log and the saves do not matter. -/
theorem At.changeFiles
    {start process : StaticProcess}
    (at_ : At start taskId continuation process)
    (log : EventLog.Log)
    (saves : List Bool) :
    At start taskId continuation { process with log := log, saves := saves } where
  coherent := at_.coherent.follows
    ⟨⟨rfl, rfl, rfl, rfl⟩, fun _ terminal => terminal,
      StaticRun.SameSucceeded.refl _, fun _ => rfl⟩
  frame := ⟨at_.frame.workflow, at_.frame.gate, at_.frame.retrying,
    at_.frame.progress, at_.frame.identities, at_.frame.others⟩
  here := at_.here

/-- The next save fails, or the condition holds of the saves after it. -/
def AfterSave
    (condition : List Bool → Prop)
    (saves : List Bool) : Prop :=
  saveFails saves = true ∨ condition saves.tail

/-- A save keeps whatever does not depend on the files. -/
theorem persistRun_keeps
    {holds : StaticProcess → Prop}
    (files :
      ∀ process log saves, holds process →
        holds { process with log := log, saves := saves }) :
    Ensures
      (fun process => holds process ∧ (good → AfterSave condition process.saves))
      persistRun
      (fun _ after => holds after ∧ (good → condition after.saves))
      (fun raised after => holds after ∧ raised = .osError) := by
  rintro process ⟨here, saving⟩
  unfold persistRun
  cases failing : saveFails process.saves with
  | true =>
      exact ⟨files process process.log process.saves.tail here, rfl⟩
  | false =>
      have later : good → condition process.saves.tail := fun met => by
        rcases saving met with fails | holds
        · rw [failing] at fails
          cases fails
        · exact holds
      cases process.run.isTerminal with
      | true =>
          exact ⟨files process { process.log with cache := none }
            process.saves.tail here, later⟩
      | false =>
          exact ⟨files process process.log process.saves.tail here, later⟩

/-- A change of the continuation that leaves its tasks as they are. -/
structure SameTasks (before after : FinishContinuation) : Prop where
  identity : after.attemptIdentity = before.attemptIdentity
  advanced : after.workflowAdvanced = before.workflowAdvanced
  ready : after.readyTaskIds = before.readyTaskIds
  sent : after.sentTaskIds = before.sentTaskIds
  settled : after.completed = true → before.completed = true ∨ Settled before

/-- The frame of a changed continuation. -/
theorem Frame.update
    {start process : StaticProcess}
    (frame : Frame start taskId process)
    (identity :
      ∀ continuation,
        (change continuation).attemptIdentity = continuation.attemptIdentity)
    (completed sent : List TaskId) :
    Frame start taskId
      { process with
        run := process.run.updateContinuation taskId change
        completedTasks := completed
        sentTasks := sent } where
  workflow := frame.workflow
  gate := frame.gate
  retrying := frame.retrying
  progress := frame.progress.trans
    (StaticRun.sameProgress_updateContinuation process.run taskId change)
  identities := fun other => by
    rw [← frame.identities other]
    rw [StaticRun.continuation?_updateContinuation]
    split
    · simp [Function.comp_def, identity]
    · rfl
  others := fun other differ => by
    rw [← frame.others other differ]
    rw [StaticRun.continuation?_updateContinuation, if_neg differ]

/-- The continuations after one of them has changed. -/
theorem lookup_updated
    (change : FinishContinuation → FinishContinuation)
    (here : process.run.continuation? taskId = some continuation)
    (other : TaskId) :
    (process.run.updateContinuation taskId change).continuation? other =
      if other = taskId then some (change continuation)
      else process.run.continuation? other := by
  rw [StaticRun.continuation?_updateContinuation]
  split
  · next same => rw [same, here]; rfl
  · rfl

/-- Noting progress that concerns no task keeps the process coherent. -/
theorem At.noted
    {start process : StaticProcess}
    (at_ : At start taskId continuation process)
    (identity :
      ∀ other, (change other).attemptIdentity = other.attemptIdentity)
    (same : SameTasks continuation (change continuation)) :
    At start taskId (change continuation)
      { process with run := process.run.updateContinuation taskId change } := by
  have lookup := lookup_updated change at_.here
  have progress := StaticRun.sameProgress_updateContinuation process.run taskId
    change
  have coherent := at_.coherent
  -- every continuation after the change has the tasks of one before it
  have earlier : ∀ other found,
      (process.run.updateContinuation taskId change).continuation? other =
        some found →
      ∃ old, process.run.continuation? other = some old ∧ SameTasks old found := by
    intro other found present
    rw [lookup other] at present
    split at present
    · next here =>
      cases present
      exact ⟨continuation, here ▸ at_.here, same⟩
    · exact ⟨found, present, rfl, rfl, rfl, rfl, Or.inl⟩
  have later : ∀ other old, process.run.continuation? other = some old →
      ∃ found,
        (process.run.updateContinuation taskId change).continuation? other =
            some found ∧ SameTasks old found := by
    intro other old present
    rw [lookup other]
    split
    · next here =>
      subst here
      obtain rfl := Option.some.inj (at_.here.symm.trans present)
      exact ⟨_, rfl, same⟩
    · exact ⟨old, present, rfl, rfl, rfl, rfl, Or.inl⟩
  refine ⟨?_, at_.frame.update identity process.completedTasks process.sentTasks,
    ?_⟩
  · exact {
      known := coherent.known
      terminal := coherent.terminal
      finished := fun other succeeded => by
        obtain ⟨old, present⟩ := Option.isSome_iff_exists.mp
          (coherent.finished other succeeded)
        obtain ⟨found, now, _⟩ := later other old present
        exact Option.isSome_iff_exists.mpr ⟨found, now⟩
      completed := fun other completed => by
        obtain ⟨old, present⟩ := Option.isSome_iff_exists.mp
          (coherent.completed other completed)
        obtain ⟨found, now, _⟩ := later other old present
        exact Option.isSome_iff_exists.mpr ⟨found, now⟩
      continued := fun other found present => by
        obtain ⟨old, was, tasks⟩ := earlier other found present
        have continued := coherent.continued other old was
        exact {
          succeeded := continued.succeeded
          advanced := tasks.advanced ▸ continued.advanced
          ready := tasks.ready ▸ continued.ready
          sent := tasks.sent ▸ tasks.ready ▸ continued.sent
          settled := fun completed => by
            have settled : Settled old := by
              rcases tasks.settled completed with old | settled
              · exact continued.settled old
              · exact settled
            unfold Settled at settled ⊢
            rw [tasks.advanced, tasks.ready, tasks.sent]
            exact settled }
      once := fun first second firstFound secondFound ready firstIs secondIs
          inFirst inSecond => by
        obtain ⟨firstOld, firstWas, firstTasks⟩ := earlier first firstFound firstIs
        obtain ⟨secondOld, secondWas, secondTasks⟩ :=
          earlier second secondFound secondIs
        exact coherent.once first second firstOld secondOld ready firstWas
          secondWas (firstTasks.ready ▸ inFirst) (secondTasks.ready ▸ inSecond)
      sent := fun ready sent => by
        rcases coherent.sent ready sent with root | ⟨other, old, was, marked⟩
        · exact Or.inl root
        · obtain ⟨found, now, tasks⟩ := later other old was
          exact Or.inr ⟨other, found, now, tasks.sent ▸ marked⟩
      distinct := coherent.distinct
      roots := coherent.roots
      covered := fun ready known some all => by
        obtain ⟨other, old, was, isReady⟩ := coherent.covered ready known some all
        obtain ⟨found, now, tasks⟩ := later other old was
        exact ⟨other, found, now, tasks.ready ▸ isReady⟩ }
  · rw [lookup taskId, if_pos rfl]

theorem noteProgress_keeps
    {start : StaticProcess}
    {completed : List TaskId}
    (change : FinishContinuation → FinishContinuation)
    (identity :
      ∀ other, (change other).attemptIdentity = other.attemptIdentity)
    (same : SameTasks continuation (change continuation)) :
    Ensures
      (fun process =>
        (At start taskId continuation process ∧
          process.completedTasks = completed) ∧
          (good → AfterSave condition process.saves))
      (noteProgress taskId change)
      (fun _ after =>
        (At start taskId (change continuation) after ∧
          after.completedTasks = completed) ∧ (good → condition after.saves))
      (fun raised after =>
        (At start taskId (change continuation) after ∧
          after.completedTasks = completed) ∧ raised = .osError) := by
  refine ensures_bind ?_ fun _ => persistRun_keeps ?_
  · apply ensures_modify
    rintro process ⟨⟨at_, here⟩, saving⟩
    exact ⟨⟨at_.noted identity same, here⟩, saving⟩
  · rintro process log saves ⟨at_, here⟩
    exact ⟨at_.changeFiles log saves, here⟩

/-! ## Advancing the workflow -/

theorem mem_successors_iff
    (workflow : Workflow)
    (first second : TaskId) :
    second ∈ workflow.successors first ↔
      first ∈ workflow.predecessors second := by
  simp only [Workflow.successors, Workflow.predecessors, List.mem_map,
    List.mem_filter, decide_eq_true_eq]
  constructor
  · rintro ⟨edge, ⟨member, source⟩, target⟩
    exact ⟨edge, ⟨member, target⟩, source⟩
  · rintro ⟨edge, ⟨member, target⟩, source⟩
    exact ⟨edge, ⟨member, source⟩, target⟩

theorem mem_readyAfter_iff
    (workflow : Workflow)
    (completed : List TaskId)
    (taskId ready : TaskId) :
    ready ∈ workflow.readyAfter completed taskId ↔
      taskId ∈ workflow.predecessors ready ∧
        ∀ task ∈ workflow.predecessors ready, task ∈ completed := by
  simp [Workflow.readyAfter, mem_successors_iff]

theorem successor_known
    {workflow : Workflow}
    {first second : TaskId}
    (precedes : first ∈ workflow.predecessors second) :
    second ∈ workflow.taskIds := by
  simp only [Workflow.predecessors, List.mem_map, List.mem_filter,
    decide_eq_true_eq] at precedes
  obtain ⟨edge, ⟨member, target⟩, _⟩ := precedes
  exact target ▸ (workflow.closed edge member).2

/-- The continuation after the workflow has been advanced. -/
def advancedWith
    (ready : List TaskId)
    (continuation : FinishContinuation) :
    FinishContinuation :=
  { continuation with
    workflowAdvanced := true
    readyTaskIds := ready
    sentTaskIds := [] }

theorem Coherent.not_completed
    (coherent : Coherent process)
    (here : process.run.continuation? taskId = some continuation)
    (waiting : continuation.workflowAdvanced = false) :
    taskId ∉ process.completedTasks ∧ continuation.readyTaskIds = [] ∧
      continuation.sentTaskIds = [] := by
  have continued := coherent.continued taskId continuation here
  have absent : taskId ∉ process.completedTasks := fun completed => by
    rw [continued.advanced.mpr completed] at waiting
    cases waiting
  have unready : continuation.readyTaskIds = [] := by
    apply List.eq_nil_iff_forall_not_mem.mpr
    intro ready member
    obtain ⟨_, precedes, all⟩ := continued.ready ready member
    exact absent (all taskId precedes)
  refine ⟨absent, unready, List.eq_nil_iff_forall_not_mem.mpr ?_⟩
  intro ready member
  have isReady := (continued.sent ready member).1
  rw [unready] at isReady
  exact List.not_mem_nil isReady

/-- Advancing the workflow makes the right tasks ready. -/
theorem At.advanced
    {start process : StaticProcess}
    (at_ : At start taskId continuation process)
    (waiting : continuation.workflowAdvanced = false) :
    At start taskId
      (advancedWith
        (process.workflow.readyAfter (process.completedTasks.insert taskId)
          taskId) continuation)
      { process with
        completedTasks := process.completedTasks.insert taskId
        run := process.run.updateContinuation taskId
          (advancedWith (process.workflow.readyAfter
            (process.completedTasks.insert taskId) taskId)) } := by
  have coherent := at_.coherent
  have continued := coherent.continued taskId continuation at_.here
  obtain ⟨absent, unready, unsent⟩ := coherent.not_completed at_.here waiting
  have open_ : continuation.completed = false := by
    cases done : continuation.completed with
    | false => rfl
    | true =>
        rw [(continued.settled done).1] at waiting
        cases waiting
  have lookup := lookup_updated
    (advancedWith (process.workflow.readyAfter
      (process.completedTasks.insert taskId) taskId)) at_.here
  refine ⟨?_, ?_, ?_⟩
  rotate_left
  · apply at_.frame.update
    intro other
    rfl
  · rw [lookup taskId, if_pos rfl]
  · exact {
      known := coherent.known
      terminal := coherent.terminal
      finished := fun other succeeded => by
        rw [lookup other]
        split
        · rfl
        · exact coherent.finished other succeeded
      completed := fun other completed => by
        rw [lookup other]
        split
        · rfl
        · next differ =>
          rcases List.mem_insert_iff.mp completed with same | earlier
          · exact absurd same differ
          · exact coherent.completed other earlier
      continued := fun other found present => by
        rw [lookup other] at present
        split at present
        · next same =>
          subst same
          cases present
          exact {
            succeeded := continued.succeeded
            advanced := iff_of_true rfl (List.mem_insert_self)
            ready := fun ready member => by
              obtain ⟨precedes, all⟩ := (mem_readyAfter_iff _ _ _ _).mp member
              exact ⟨successor_known precedes, precedes, all⟩
            sent := fun ready member => absurd member List.not_mem_nil
            settled := fun completed => by
              change continuation.completed = true at completed
              rw [open_] at completed
              cases completed }
        · next differ =>
          have old := coherent.continued other found present
          exact {
            succeeded := old.succeeded
            advanced := by
              rw [old.advanced, List.mem_insert_iff]
              exact ⟨Or.inr, fun either => either.resolve_left differ⟩
            ready := fun ready member => by
              obtain ⟨known, precedes, all⟩ := old.ready ready member
              exact ⟨known, precedes, fun task inside =>
                List.mem_insert_of_mem (all task inside)⟩
            sent := old.sent
            settled := old.settled }
      once := by
        -- a task that was ready before had `taskId` completed already
        have excluded : ∀ other found ready, other ≠ taskId →
            process.run.continuation? other = some found →
            ready ∈ found.readyTaskIds →
            taskId ∈ process.workflow.predecessors ready → False := by
          intro other found ready _ was member precedes
          obtain ⟨_, _, all⟩ :=
            (coherent.continued other found was).ready ready member
          exact absent (all taskId precedes)
        intro first second firstFound secondFound ready firstIs secondIs inFirst
          inSecond
        rw [lookup first] at firstIs
        rw [lookup second] at secondIs
        split at firstIs
        · next firstHere =>
          split at secondIs
          · next secondHere => exact firstHere.trans secondHere.symm
          · next differ =>
            cases firstIs
            obtain ⟨precedes, _⟩ := (mem_readyAfter_iff _ _ _ _).mp inFirst
            exact (excluded second secondFound ready differ secondIs inSecond
              precedes).elim
        · next differ =>
          split at secondIs
          · cases secondIs
            obtain ⟨precedes, _⟩ := (mem_readyAfter_iff _ _ _ _).mp inSecond
            exact (excluded first firstFound ready differ firstIs inFirst
              precedes).elim
          · exact coherent.once first second firstFound secondFound ready firstIs
              secondIs inFirst inSecond
      sent := fun ready sent => by
        rcases coherent.sent ready sent with root | ⟨other, old, was, marked⟩
        · exact Or.inl root
        · refine Or.inr ⟨other, old, ?_, marked⟩
          rw [lookup other]
          split
          · next same =>
            subst same
            obtain rfl := Option.some.inj (at_.here.symm.trans was)
            rw [unsent] at marked
            exact absurd marked List.not_mem_nil
          · exact was
      distinct := coherent.distinct
      roots := coherent.roots
      covered := fun ready known some_ all => by
        by_cases precedes : taskId ∈ process.workflow.predecessors ready
        · have isReady := (mem_readyAfter_iff process.workflow
            (process.completedTasks.insert taskId) taskId ready).mpr
              ⟨precedes, all⟩
          refine ⟨taskId, advancedWith _ continuation, ?_, isReady⟩
          rw [lookup taskId, if_pos rfl]
          rfl
        · have before : ∀ task ∈ process.workflow.predecessors ready,
              task ∈ process.completedTasks := by
            intro task member
            rcases List.mem_insert_iff.mp (all task member) with same | earlier
            · exact absurd (same ▸ member) precedes
            · exact earlier
          obtain ⟨other, old, was, isReady⟩ :=
            coherent.covered ready known some_ before
          refine ⟨other, old, ?_, isReady⟩
          rw [lookup other]
          split
          · next same =>
            subst same
            obtain rfl := Option.some.inj (at_.here.symm.trans was)
            rw [unready] at isReady
            exact absurd isReady List.not_mem_nil
          · exact was }

/-- A task that has succeeded is known, so that advancing never raises. -/
theorem advanceWorkflow_keeps
    {start : StaticProcess}
    {completed : List TaskId}
    (waiting : continuation.workflowAdvanced = false) :
    Ensures
      (fun process =>
        (At start taskId continuation process ∧
          process.completedTasks = completed) ∧
          (good → condition process.saves))
      (advanceWorkflow taskId)
      (fun _ after =>
        (At start taskId
            (advancedWith
              (start.workflow.readyAfter (completed.insert taskId) taskId)
              continuation) after ∧
          after.completedTasks = completed.insert taskId) ∧
          (good → condition after.saves))
      (fun _ _ => False) := by
  rintro process ⟨⟨at_, rfl⟩, saving⟩
  have succeeded :=
    (at_.coherent.continued taskId continuation at_.here).succeeded
  have known := at_.coherent.known taskId (hasSucceeded_known succeeded)
  have advanced := at_.advanced waiting
  rw [at_.frame.workflow] at advanced
  unfold advanceWorkflow
  rw [if_pos known]
  dsimp only
  rw [at_.frame.workflow]
  exact ⟨⟨advanced, rfl⟩, saving⟩

/-! ## Sending the ready tasks -/

/-- The continuation after a ready task has been sent. -/
def sentWith
    (ready : TaskId)
    (continuation : FinishContinuation) :
    FinishContinuation :=
  { continuation with sentTaskIds := continuation.sentTaskIds ++ [ready] }

/-- A ready task that is not marked as sent has not been sent. -/
theorem Coherent.unsent
    {taskId ready : TaskId}
    (coherent : Coherent process)
    (here : process.run.continuation? taskId = some continuation)
    (isReady : ready ∈ continuation.readyTaskIds)
    (unmarked : ready ∉ continuation.sentTaskIds) :
    ready ∉ process.sentTasks := by
  intro sent
  have continued := coherent.continued taskId continuation here
  rcases coherent.sent ready sent with root | ⟨other, found, was, marked⟩
  · have precedes := (continued.ready ready isReady).2.1
    rw [root] at precedes
    exact List.not_mem_nil precedes
  · have alsoReady :=
      ((coherent.continued other found was).sent ready marked).1
    obtain rfl := coherent.once taskId other continuation found ready here was
      isReady alsoReady
    obtain rfl := Option.some.inj (here.symm.trans was)
    exact unmarked marked

/-- Sending a ready task and marking it keeps the process coherent. -/
theorem At.sent
    {start process : StaticProcess}
    {taskId ready : TaskId}
    (at_ : At start taskId continuation process)
    (isReady : ready ∈ continuation.readyTaskIds)
    (unmarked : ready ∉ continuation.sentTaskIds) :
    At start taskId (sentWith ready continuation)
      { process with
        sentTasks := process.sentTasks ++ [ready]
        run := process.run.updateContinuation taskId (sentWith ready) } := by
  have coherent := at_.coherent
  have continued := coherent.continued taskId continuation at_.here
  have unsent := coherent.unsent at_.here isReady unmarked
  have lookup := lookup_updated (sentWith ready) at_.here
  refine ⟨?_, ?_, ?_⟩
  rotate_left
  · apply at_.frame.update
    intro other
    rfl
  · rw [lookup taskId, if_pos rfl]
  · exact {
      known := coherent.known
      terminal := coherent.terminal
      finished := fun other succeeded => by
        rw [lookup other]
        split
        · rfl
        · exact coherent.finished other succeeded
      completed := fun other completed => by
        rw [lookup other]
        split
        · rfl
        · exact coherent.completed other completed
      continued := fun other found present => by
        rw [lookup other] at present
        split at present
        · next same =>
          subst same
          cases present
          exact {
            succeeded := continued.succeeded
            advanced := continued.advanced
            ready := continued.ready
            sent := fun task member => by
              rcases List.mem_append.mp member with earlier | last
              · obtain ⟨wasReady, wasSent⟩ := continued.sent task earlier
                exact ⟨wasReady, List.mem_append_left _ wasSent⟩
              · obtain rfl := List.mem_singleton.mp last
                exact ⟨isReady, List.mem_append_right _ (by simp)⟩
            settled := fun completed => by
              obtain ⟨advanced, all⟩ := continued.settled completed
              exact ⟨advanced, fun task member =>
                List.mem_append_left _ (all task member)⟩ }
        · have old := coherent.continued other found present
          exact {
            succeeded := old.succeeded
            advanced := old.advanced
            ready := old.ready
            sent := fun task member => by
              obtain ⟨wasReady, wasSent⟩ := old.sent task member
              exact ⟨wasReady, List.mem_append_left _ wasSent⟩
            settled := old.settled }
      once := by
        have readyBefore : ∀ other found,
            (process.run.updateContinuation taskId
              (sentWith ready)).continuation? other = some found →
            ∃ old, process.run.continuation? other = some old ∧
              old.readyTaskIds = found.readyTaskIds := by
          intro other found present
          rw [lookup other] at present
          split at present
          · next same =>
            cases present
            exact ⟨continuation, same ▸ at_.here, rfl⟩
          · exact ⟨found, present, rfl⟩
        intro first second firstFound secondFound task firstIs secondIs inFirst
          inSecond
        obtain ⟨firstOld, firstWas, firstReady⟩ :=
          readyBefore first firstFound firstIs
        obtain ⟨secondOld, secondWas, secondReady⟩ :=
          readyBefore second secondFound secondIs
        exact coherent.once first second firstOld secondOld task firstWas
          secondWas (firstReady ▸ inFirst) (secondReady ▸ inSecond)
      sent := fun task member => by
        rcases List.mem_append.mp member with earlier | last
        · rcases coherent.sent task earlier with root | ⟨other, old, was, marked⟩
          · exact Or.inl root
          · by_cases same : other = taskId
            · subst same
              obtain rfl := Option.some.inj (at_.here.symm.trans was)
              refine Or.inr ⟨other, sentWith ready continuation, ?_,
                List.mem_append_left _ marked⟩
              rw [lookup other, if_pos rfl]
            · refine Or.inr ⟨other, old, ?_, marked⟩
              rw [lookup other, if_neg same]
              exact was
        · obtain rfl := List.mem_singleton.mp last
          refine Or.inr ⟨taskId, sentWith task continuation, ?_,
            List.mem_append_right _ (by simp)⟩
          rw [lookup taskId, if_pos rfl]
      distinct := by
        rw [List.nodup_append]
        refine ⟨coherent.distinct, List.nodup_singleton ready, ?_⟩
        intro earlier inSent last same
        obtain rfl := List.mem_singleton.mp same
        rintro rfl
        exact unsent inSent
      roots := fun root member =>
        List.mem_append_left _ (coherent.roots root member)
      covered := fun task known some_ all => by
        obtain ⟨other, old, was, inReady⟩ :=
          coherent.covered task known some_ all
        by_cases same : other = taskId
        · subst same
          obtain rfl := Option.some.inj (at_.here.symm.trans was)
          refine ⟨other, sentWith ready continuation, ?_, inReady⟩
          rw [lookup other, if_pos rfl]
        · refine ⟨other, old, ?_, inReady⟩
          rw [lookup other, if_neg same]
          exact was }

/-- What is the same after a call is still at the same continuation. -/
theorem At.sameCore
    {start process after : StaticProcess}
    (at_ : At start taskId continuation process)
    (same : SameCore process after) :
    At start taskId continuation after where
  coherent := at_.coherent.follows same.follows
  frame :=
    { workflow := same.workflow.trans at_.frame.workflow
      gate := same.gate.trans at_.frame.gate
      retrying := same.retrying.trans at_.frame.retrying
      progress := at_.frame.progress.trans same.progress
      identities := fun other => by
        rw [same.continuations]
        exact at_.frame.identities other
      others := fun other differ =>
        (same.continuations other).trans (at_.frame.others other differ) }
  here := (same.continuations taskId).trans at_.here

/-- The preparation of a task comes to a file that cannot be read. -/
def Unreadable
    (primitives : Primitives)
    (environment : Environment)
    (task : WorkflowTask) : Prop :=
  TaskPreparation.enrichModelAnchor environment task.modelAnchor =
      .error .osError ∨
    ∃ anchor normalized context,
      TaskPreparation.enrichModelAnchor environment task.modelAnchor =
        .ok anchor ∧
      Resources.normalizeTaskSemantics task.taskKind task.resources anchor =
        .ok normalized ∧
      TaskPreparation.contextForTask primitives task anchor = .ok context ∧
      environment.history = .unreadable

theorem prepare_of_unreadable
    {primitives : Primitives}
    {environment : Environment}
    {task : WorkflowTask}
    (unreadable : Unreadable primitives environment task) :
    TaskPreparation.prepareTaskResources primitives environment task =
      .error .osError := by
  unfold TaskPreparation.prepareTaskResources
  rcases unreadable with model | ⟨anchor, normalized, context, enriched, normal,
    parsed, history⟩
  · rw [model]
    rfl
  · rw [enriched]
    simp only [bind, Except.bind, normal, parsed]
    simp [ResourceHistory.lookup, ResourceHistory.load, history, bind,
      Except.bind]

/--
Sending the tasks goes well: until a save or a file fails with `OSError`, every
task that is not marked as sent can be prepared.
-/
def ComesThrough
    (primitives : Primitives)
    (environment : Environment)
    (workflow : Workflow) :
    List TaskId → List TaskId → List Bool → Prop
  | _, [], _ => True
  | sent, ready :: rest, saves =>
      if ready ∈ sent then
        ComesThrough primitives environment workflow sent rest saves
      else
        AfterSave
          (fun saves =>
            ∀ task, workflow.tasks.lookup ready = some task →
              Unreadable primitives environment task ∨
                (TaskPreparation.Schedulable primitives environment task ∧
                  AfterSave
                    (ComesThrough primitives environment workflow
                      (sent ++ [ready]) rest)
                    saves))
          saves

section Dispatching

variable
  (primitives : Primitives)
  {start : StaticProcess}
  {taskId : TaskId}

/-- What the loop over the ready tasks keeps, with the tasks that are left. -/
def Dispatching
    (environment : Environment)
    (start : StaticProcess)
    (taskId : TaskId)
    (good : Prop)
    (rest : List TaskId)
    (process : StaticProcess) : Prop :=
  ∃ continuation,
    At start taskId continuation process ∧
      continuation.workflowAdvanced = true ∧
      (∀ ready ∈ rest, ready ∈ continuation.readyTaskIds) ∧
      (∀ ready ∈ continuation.readyTaskIds,
        ready ∈ continuation.sentTaskIds ∨ ready ∈ rest) ∧
      (good →
        ComesThrough primitives environment start.workflow
          continuation.sentTaskIds rest process.saves)

/-- What is left where a continuation raises. -/
def Stopped
    (start : StaticProcess)
    (taskId : TaskId)
    (good : Prop)
    (raised : PyErr)
    (process : StaticProcess) : Prop :=
  (∃ continuation, At start taskId continuation process) ∧
    (good → raised = .osError)

theorem continuationOf_ensures
    {before : StaticProcess → Prop}
    {raises : PyErr → StaticProcess → Prop}
    (here :
      ∀ process, before process →
        process.run.continuation? taskId = some continuation) :
    Ensures before (continuationOf taskId)
      (fun found process => found = continuation ∧ before process) raises := by
  intro process holds
  unfold continuationOf
  rw [here process holds]
  exact ⟨rfl, holds⟩

theorem persistRun_at
    (continuation : FinishContinuation) :
    Ensures
      (fun process => At start taskId continuation process ∧
        (good → AfterSave condition process.saves))
      persistRun
      (fun _ after => At start taskId continuation after ∧
        (good → condition after.saves))
      (Stopped start taskId good) :=
  (persistRun_keeps fun _ log saves (here : At start taskId continuation _) =>
    here.changeFiles log saves).weaken (fun _ here => here) (fun _ _ here => here)
    fun _ _ stopped => ⟨⟨continuation, stopped.1⟩, fun _ => stopped.2⟩

theorem sameProgress_queued
    (ready : TaskId) :
    SameCore process
      { process with run := process.run.markTaskQueued ready } :=
  (SameCore.refl process).changeRun
    (StaticRun.sameProgress_markTaskQueued process.run ready) fun _ => rfl

/-- The message goes out, or the preparation has raised. -/
theorem sendTask_keeps
    {environment : Environment}
    {ready : TaskId}
    {later : List Bool → Prop}
    (isReady : ready ∈ continuation.readyTaskIds) :
    Ensures
      (fun process =>
        At start taskId continuation process ∧
          (good → ∀ task, start.workflow.tasks.lookup ready = some task →
            Unreadable primitives environment task ∨
              (TaskPreparation.Schedulable primitives environment task ∧
                later process.saves)))
      (sendTask primitives environment ready)
      (fun _ after =>
        (∃ process, At start taskId continuation process ∧
          after = { process with sentTasks := process.sentTasks ++ [ready] }) ∧
          (good → later after.saves))
      (Stopped start taskId good) := by
  rintro process ⟨at_, prepared⟩
  have known := ((at_.coherent.continued taskId continuation at_.here).ready
    ready isReady).1
  obtain ⟨task, found⟩ : ∃ task, process.workflow.tasks.lookup ready =
      some task := by
    cases found : process.workflow.tasks.lookup ready with
    | some task =>
        exact ⟨task, rfl⟩
    | none =>
        obtain ⟨entry, member, same⟩ := List.mem_map.mp known
        have differ := List.lookup_eq_none_iff.mp found entry member
        simp [same] at differ
  have prepare := fun met => prepared met task (at_.frame.workflow ▸ found)
  unfold sendTask
  rw [found]
  dsimp only
  cases outcome : TaskPreparation.prepareTaskResources primitives environment
      task with
  | error raised =>
      refine ⟨⟨continuation, at_⟩, fun met => ?_⟩
      rcases prepare met with unreadable | ⟨schedulable, _⟩
      · rw [prepare_of_unreadable unreadable] at outcome
        cases outcome
        rfl
      · obtain ⟨_, returned⟩ :=
          (TaskPreparation.prepareTaskResources_returns_iff primitives
            environment task).mpr schedulable
        rw [returned] at outcome
        cases outcome
  | ok _ =>
      refine ⟨⟨process, at_, rfl⟩, fun met => ?_⟩
      rcases prepare met with unreadable | ⟨_, through⟩
      · rw [prepare_of_unreadable unreadable] at outcome
        cases outcome
      · exact through

/-- One round of the loop sends the task or stops. -/
theorem dispatchReadyTask_keeps
    (environment : Environment)
    (good : Prop)
    (ready : TaskId)
    (rest : List TaskId) :
    Ensures (Dispatching primitives environment start taskId good (ready :: rest))
      (dispatchReadyTask primitives environment taskId ready)
      (fun _ => Dispatching primitives environment start taskId good rest)
      (Stopped start taskId good) := by
  rintro process ⟨continuation, at_, advanced, left, all, through⟩
  have isReady := left ready List.mem_cons_self
  have leftLater : ∀ task ∈ rest, task ∈ continuation.readyTaskIds :=
    fun task member => left task (List.mem_cons_of_mem _ member)
  by_cases marked : ready ∈ continuation.sentTaskIds
  · have round : Ensures (fun current => current = process)
        (dispatchReadyTask primitives environment taskId ready)
        (fun _ => Dispatching primitives environment start taskId good rest)
        (Stopped start taskId good) := by
      refine ensures_bind (continuationOf_ensures fun current same =>
        same ▸ at_.here) fun found => ?_
      by_cases same : found = continuation
      case neg =>
        intro current impossible
        exact absurd impossible.1 same
      subst same
      rw [if_pos marked]
      apply ensures_pure
      rintro current ⟨_, rfl⟩
      refine ⟨found, at_, advanced, leftLater, ?_, ?_⟩
      · intro task member
        rcases all task member with sent | waiting
        · exact Or.inl sent
        · rcases List.mem_cons.mp waiting with same | later
          · exact Or.inl (same ▸ marked)
          · exact Or.inr later
      · intro met
        have comes := through met
        rw [ComesThrough, if_pos marked] at comes
        exact comes
    exact round process rfl
  · let later := AfterSave (ComesThrough primitives environment start.workflow
      (continuation.sentTaskIds ++ [ready]) rest)
    have comes : good → AfterSave
        (fun saves =>
          ∀ task, start.workflow.tasks.lookup ready = some task →
            Unreadable primitives environment task ∨
              (TaskPreparation.Schedulable primitives environment task ∧
                later saves))
        process.saves := fun met => by
      have comes := through met
      rw [ComesThrough, if_neg marked] at comes
      exact comes
    have round : Ensures (fun current => current = process)
        (dispatchReadyTask primitives environment taskId ready)
        (fun _ => Dispatching primitives environment start taskId good rest)
        (Stopped start taskId good) := by
      refine ensures_bind (continuationOf_ensures fun current same =>
        same ▸ at_.here) fun found => ?_
      by_cases same : found = continuation
      case neg =>
        intro current impossible
        exact absurd impossible.1 same
      subst same
      rw [if_neg marked]
      refine ensures_via
        (fun _ current => At start taskId found current ∧
          (good → AfterSave
            (fun saves =>
              ∀ task, start.workflow.tasks.lookup ready = some task →
                Unreadable primitives environment task ∨
                  (TaskPreparation.Schedulable primitives environment task ∧
                    later saves))
            current.saves)) ?_ fun _ => ?_
      · apply ensures_modify
        rintro current ⟨_, rfl⟩
        exact ⟨at_.sameCore (sameProgress_queued ready), comes⟩
      refine ensures_bind (persistRun_at found) fun _ => ?_
      refine ensures_bind (sendTask_keeps primitives isReady) fun _ => ?_
      refine ensures_via
        (fun _ current => At start taskId (sentWith ready found) current ∧
          (good → later current.saves)) ?_ fun _ => ?_
      · apply ensures_modify
        rintro current ⟨⟨before, here, rfl⟩, comes⟩
        exact ⟨here.sent isReady marked, comes⟩
      refine (persistRun_at (sentWith ready found)).weaken
        (fun _ here => here) ?_ fun _ _ stopped => stopped
      rintro _ after ⟨here, comes⟩
      refine ⟨sentWith ready found, here, advanced, leftLater, ?_, comes⟩
      intro task member
      rcases all task member with sent | waiting
      · exact Or.inl (List.mem_append_left _ sent)
      · rcases List.mem_cons.mp waiting with same | later
        · exact Or.inl (List.mem_append_right _ (by simp [same]))
        · exact Or.inr later
    exact round process rfl

/-- The loop sends every task that is ready, or stops. -/
theorem dispatchReadyTasks_keeps
    (environment : Environment)
    (good : Prop)
    (continuation : FinishContinuation) :
    Ensures
      (fun process =>
        At start taskId continuation process ∧
          continuation.workflowAdvanced = true ∧
          (good →
            ComesThrough primitives environment start.workflow
              continuation.sentTaskIds continuation.readyTaskIds process.saves))
      (continuation.readyTaskIds.forM
        (dispatchReadyTask primitives environment taskId))
      (fun _ after => ∃ settled, At start taskId settled after ∧ Settled settled)
      (Stopped start taskId good) := by
  refine (ensures_forM (dispatchReadyTask_keeps primitives environment good)
    continuation.readyTaskIds).weaken ?_ ?_ fun _ _ stopped => stopped
  · rintro process ⟨at_, advanced, through⟩
    exact ⟨continuation, at_, advanced, fun _ member => member,
      fun _ member => Or.inr member, through⟩
  · rintro _ after ⟨settled, at_, advanced, _, all, _⟩
    refine ⟨settled, at_, advanced, fun ready member => ?_⟩
    exact (all ready member).resolve_right List.not_mem_nil

end Dispatching

/-! ## The whole continuation -/

/-- The continuation of the task has sent everything that is ready. -/
def Sent
    (start : StaticProcess)
    (taskId : TaskId)
    (process : StaticProcess) : Prop :=
  ∃ settled, At start taskId settled process ∧ Settled settled

/-- A change of a continuation that is only about its notes. -/
structure OnlyNotes (change : FinishContinuation → FinishContinuation) : Prop where
  identity :
    ∀ continuation,
      (change continuation).attemptIdentity = continuation.attemptIdentity
  advanced :
    ∀ continuation,
      (change continuation).workflowAdvanced = continuation.workflowAdvanced
  ready :
    ∀ continuation,
      (change continuation).readyTaskIds = continuation.readyTaskIds
  sent :
    ∀ continuation,
      (change continuation).sentTaskIds = continuation.sentTaskIds

/-- Notes in a continuation that has sent everything keep it so. -/
theorem Sent.noted
    {start process : StaticProcess}
    (sent : Sent start taskId process)
    (notes : OnlyNotes change) :
    Sent start taskId
      { process with run := process.run.updateContinuation taskId change } := by
  obtain ⟨settled, at_, isSettled⟩ := sent
  refine ⟨change settled, at_.noted notes.identity ?_, ?_⟩
  · exact ⟨notes.identity settled, notes.advanced settled, notes.ready settled,
      notes.sent settled, fun _ => Or.inr isSettled⟩
  · unfold Settled
    rw [notes.advanced, notes.ready, notes.sent]
    exact isSettled

theorem Sent.sameCore
    {start process after : StaticProcess}
    (sent : Sent start taskId process)
    (same : SameCore process after) :
    Sent start taskId after := by
  obtain ⟨settled, at_, isSettled⟩ := sent
  exact ⟨settled, at_.sameCore same, isSettled⟩

section Finishing

variable
  {start : StaticProcess}
  {taskId : TaskId}

theorem persistRun_sent :
    Ensures (Sent start taskId) persistRun (fun _ => Sent start taskId)
      (fun raised after => Sent start taskId after ∧ raised = .osError) := by
  intro process sent
  exact persistRun_ensures.weaken (fun _ same => same)
    (fun _ _ after => sent.sameCore after.1.1)
    (fun _ _ after => ⟨sent.sameCore after.2, after.1⟩)
    process (⟨SameCore.refl process, rfl⟩ : SameWith process process.saves process)

theorem noteProgress_sent
    (notes : OnlyNotes change) :
    Ensures (Sent start taskId) (noteProgress taskId change)
      (fun _ => Sent start taskId)
      (fun raised after => Sent start taskId after ∧ raised = .osError) := by
  refine ensures_bind ?_ fun _ => persistRun_sent
  apply ensures_modify
  intro process sent
  exact sent.noted notes

theorem continuationOf_sent :
    Ensures (Sent start taskId) (continuationOf taskId)
      (fun _ => Sent start taskId) (fun _ => Sent start taskId) := by
  intro process sent
  unfold continuationOf
  cases process.run.continuation? taskId with
  | none =>
      exact sent
  | some continuation =>
      exact sent

theorem appendEvent_sent
    (eventType : PyStr)
    (data : PyDict)
    (timestamp : PyStr) :
    Ensures (Sent start taskId) (appendEvent eventType data timestamp)
      (fun _ => Sent start taskId) (fun _ => Sent start taskId) := by
  intro process sent
  have appended : Ensures (SameWith process process.saves)
      (appendEvent eventType data timestamp)
      (fun _ => SameWith process process.saves) (fun _ => Sent start taskId) :=
    appendEvent_ensures eventType data timestamp
  exact appended.weaken (fun _ same => same)
    (fun _ _ after => sent.sameCore after.1) (fun _ _ raised => raised)
    process (⟨SameCore.refl process, rfl⟩ : SameWith process process.saves process)

theorem appendEventOnce_sent
    (event : RunEvent)
    (write : EventLog.Write) :
    Ensures (Sent start taskId) (appendEventOnce event write)
      (fun _ => Sent start taskId) (fun _ => Sent start taskId) := by
  intro process sent
  exact (appendEventOnce_ensures event write).weaken (fun _ same => same)
    (fun _ _ after => sent.sameCore after.1) (fun _ _ after => sent.sameCore after)
    process (⟨SameCore.refl process, rfl⟩ : SameWith process process.saves process)

theorem workflowEventOf_sent
    (handling : Handling) :
    Ensures (Sent start taskId) (workflowEventOf taskId handling)
      (fun _ => Sent start taskId) (fun _ => Sent start taskId) := by
  refine ensures_bind continuationOf_sent fun continuation => ?_
  cases continuation.workflowEvent with
  | some event =>
      exact ensures_pure fun _ sent => sent
  | none =>
      refine ensures_get fun process sent => ?_
      refine ensures_via (fun _ => Sent start taskId)
        ((appendEvent_sent _ _ _).weaken (fun _ same => same ▸ sent)
          (fun _ _ after => after) fun _ _ after => after) fun event => ?_
      refine ensures_via (fun _ => Sent start taskId) ?_ fun _ =>
        ensures_pure fun _ sent => sent
      apply ensures_modify
      intro current here
      exact here.noted ⟨fun _ => rfl, fun _ => rfl, fun _ => rfl, fun _ => rfl⟩

/-- Ending the workflow sends nothing. -/
theorem finishWorkflow_sent
    (handling : Handling) :
    Ensures (Sent start taskId) (finishWorkflow taskId handling)
      (fun _ => Sent start taskId) (fun _ => Sent start taskId) := by
  have saved : ∀ {change : FinishContinuation → FinishContinuation},
      OnlyNotes change →
      Ensures (Sent start taskId) (noteProgress taskId change)
        (fun _ => Sent start taskId) (fun _ => Sent start taskId) :=
    fun notes => (noteProgress_sent notes).weaken (fun _ sent => sent)
      (fun _ _ sent => sent) fun _ _ raised => raised.1
  refine ensures_bind (workflowEventOf_sent handling) fun event => ?_
  refine ensures_bind (appendEventOnce_sent event _) fun _ => ?_
  refine ensures_bind (persistRun_sent.weaken (fun _ sent => sent)
    (fun _ _ sent => sent) fun _ _ raised => raised.1) fun _ => ?_
  refine ensures_bind continuationOf_sent fun continuation => ?_
  have cleared : Ensures (Sent start taskId)
      (if continuation.workflowCleared then pure ()
        else noteProgress taskId fun continuation =>
          { continuation with workflowCleared := true })
      (fun _ => Sent start taskId) (fun _ => Sent start taskId) := by
    split
    · exact ensures_pure fun _ sent => sent
    · exact saved ⟨fun _ => rfl, fun _ => rfl, fun _ => rfl, fun _ => rfl⟩
  dsimp only
  split
  · exact cleared
  · exact ensures_bind (saved ⟨fun _ => rfl, fun _ => rfl, fun _ => rfl,
      fun _ => rfl⟩) fun _ => cleared

end Finishing

/-- What follows the notification of the task goes well. -/
def AdvancesThrough
    (primitives : Primitives)
    (environment : Environment)
    (start : StaticProcess)
    (taskId : TaskId)
    (continuation : FinishContinuation)
    (saves : List Bool) : Prop :=
  if continuation.workflowAdvanced then
    ComesThrough primitives environment start.workflow continuation.sentTaskIds
      continuation.readyTaskIds saves
  else
    AfterSave
      (ComesThrough primitives environment start.workflow []
        (start.workflow.readyAfter (start.completedTasks.insert taskId) taskId))
      saves

/--
The continuation of a task goes well: until a save or a file fails with
`OSError`, every task that is left to be sent can be prepared.
-/
def ContinuesThrough
    (primitives : Primitives)
    (environment : Environment)
    (start : StaticProcess)
    (taskId : TaskId)
    (continuation : FinishContinuation)
    (saves : List Bool) : Prop :=
  if continuation.taskNotified then
    AdvancesThrough primitives environment start taskId continuation saves
  else
    AfterSave
      (AdvancesThrough primitives environment start taskId continuation) saves

section Continuing

variable
  (primitives : Primitives)
  {start : StaticProcess}
  {taskId : TaskId}
  {good : Prop}

/-- The end of a continuation, from the loop over the ready tasks on. -/
def dispatchAndFinish
    (handling : Handling)
    (taskId : TaskId) :
    CoreCall Unit := do
  let advanced ← continuationOf taskId
  advanced.readyTaskIds.forM
    (dispatchReadyTask primitives handling.environment taskId)
  let process ← get
  if process.run.status = .succeeded then
    finishWorkflow taskId handling
  else
    pure ()
  noteProgress taskId fun continuation => { continuation with completed := true }

theorem Sent.stopped
    {process : StaticProcess}
    {raised : PyErr}
    (sent : Sent start taskId process)
    (only : good → raised = .osError) :
    Stopped start taskId good raised process := by
  obtain ⟨settled, at_, _⟩ := sent
  exact ⟨⟨settled, at_⟩, only⟩

theorem dispatchAndFinish_keeps
    (handling : Handling)
    (continuation : FinishContinuation)
    (live : good → start.run.isTerminal = false) :
    Ensures
      (fun process =>
        At start taskId continuation process ∧
          continuation.workflowAdvanced = true ∧
          (good →
            ComesThrough primitives handling.environment start.workflow
              continuation.sentTaskIds continuation.readyTaskIds process.saves))
      (dispatchAndFinish primitives handling taskId)
      (fun _ => Sent start taskId) (Stopped start taskId good) := by
  have notes : OnlyNotes fun continuation =>
      { continuation with completed := true } :=
    ⟨fun _ => rfl, fun _ => rfl, fun _ => rfl, fun _ => rfl⟩
  have completed := (noteProgress_sent notes).weaken
    (fun _ (sent : Sent start taskId _) => sent) (fun _ _ sent => sent)
    fun raised _ ended => ended.1.stopped fun (_ : good) => ended.2
  refine ensures_bind (continuationOf_ensures fun process here => here.1.here)
    fun found => ?_
  by_cases same : found = continuation
  case neg =>
    intro process impossible
    exact absurd impossible.1 same
  subst same
  refine ensures_bind ((dispatchReadyTasks_keeps primitives handling.environment
    good found).weaken (fun _ here => here.2) (fun _ _ sent => sent)
    fun _ _ stopped => stopped) fun _ => ?_
  refine ensures_get fun process sent => ?_
  have here : ∀ current, current = process → Sent start taskId current :=
    fun current same => same ▸ sent
  dsimp only
  split
  · next succeeded =>
    -- a run that goes on does not end its workflow
    have ended : ¬ good := fun met => by
      obtain ⟨_, at_, _⟩ := sent
      have terminal : process.run.isTerminal = true := by
        rw [StaticRun.isTerminal, succeeded]
        rfl
      rw [at_.frame.progress.terminal, live met] at terminal
      cases terminal
    exact ensures_bind ((finishWorkflow_sent handling).weaken here
      (fun _ _ sent => sent)
      fun _ _ sent => sent.stopped fun met => absurd met ended) fun _ => completed
  · exact completed.weaken here (fun _ _ sent => sent) fun _ _ stopped => stopped

theorem advanceAndFinish_keeps
    (handling : Handling)
    (continuation : FinishContinuation)
    (live : good → start.run.isTerminal = false) :
    Ensures
      (fun process =>
        (At start taskId continuation process ∧
          process.completedTasks = start.completedTasks) ∧
          (good →
            AdvancesThrough primitives handling.environment start taskId
              continuation process.saves))
      (if continuation.workflowAdvanced then
          dispatchAndFinish primitives handling taskId
        else do
          advanceWorkflow taskId
          persistRun
          dispatchAndFinish primitives handling taskId)
      (fun _ => Sent start taskId) (Stopped start taskId good) := by
  unfold AdvancesThrough
  split
  · next advanced =>
    exact (dispatchAndFinish_keeps primitives handling continuation live).weaken
      (fun _ here => ⟨here.1.1, advanced, here.2⟩) (fun _ _ sent => sent)
      fun _ _ stopped => stopped
  · next waiting =>
    let ready := start.workflow.readyAfter
      (start.completedTasks.insert taskId) taskId
    refine ensures_via
      (fun _ process =>
        At start taskId (advancedWith ready continuation) process ∧
          (good →
            AfterSave
              (ComesThrough primitives handling.environment start.workflow []
                ready)
              process.saves))
      ((advanceWorkflow_keeps (by simpa using waiting)).weaken
        (fun _ here => here) (fun _ _ after => ⟨after.1.1, after.2⟩)
        fun _ _ impossible => impossible.elim) fun _ => ?_
    refine ensures_bind (persistRun_at _) fun _ => ?_
    exact (dispatchAndFinish_keeps primitives handling _ live).weaken
      (fun _ here => ⟨here.1, rfl, here.2⟩) (fun _ _ sent => sent)
      fun _ _ stopped => stopped

/-- A continuation sends everything that is ready, or stops. -/
theorem continueStaticFinish_keeps
    (handling : Handling)
    (coherent : Coherent start)
    (here : start.run.continuation? taskId = some continuation)
    (live : good → start.run.isTerminal = false)
    (through :
      good →
        ContinuesThrough primitives handling.environment start taskId continuation
          start.saves) :
    Ensures (fun process => process = start)
      (continueStaticFinish primitives handling taskId)
      (fun _ => Sent start taskId) (Stopped start taskId good) := by
  have at_ : At start taskId continuation start :=
    ⟨coherent, Frame.refl start taskId, here⟩
  refine ensures_bind (continuationOf_ensures fun process same =>
    same ▸ here) fun found => ?_
  by_cases same : found = continuation
  case neg =>
    intro process impossible
    exact absurd impossible.1 same
  subst same
  split
  · next completed =>
    have settled := (coherent.continued taskId found here).settled completed
    refine persistRun_sent.weaken ?_ (fun _ _ sent => sent)
      fun _ _ raised => raised.1.stopped fun _ => raised.2
    rintro process ⟨_, rfl⟩
    exact ⟨found, at_, settled⟩
  · unfold continueFinish
    unfold ContinuesThrough at through
    dsimp only
    by_cases notified : found.taskNotified = true
    · rw [if_pos notified]
      simp only [if_pos notified] at through
      refine (advanceAndFinish_keeps primitives handling found live).weaken ?_
        (fun _ _ sent => sent) fun _ _ stopped => stopped
      rintro process ⟨_, rfl⟩
      exact ⟨⟨at_, rfl⟩, through⟩
    · rw [if_neg notified]
      simp only [if_neg notified] at through
      let change : FinishContinuation → FinishContinuation :=
        fun continuation => { continuation with taskNotified := true }
      have notes : SameTasks found (change found) := ⟨rfl, rfl, rfl, rfl, Or.inl⟩
      refine ensures_via
        (fun _ after =>
          (At start taskId (change found) after ∧
            after.completedTasks = start.completedTasks) ∧
            (good →
              AdvancesThrough primitives handling.environment start taskId found
                after.saves))
        ((noteProgress_keeps change (fun _ => rfl) notes).weaken ?_
          (fun _ _ after => after)
          fun _ _ raised => ⟨⟨change found, raised.1.1⟩, fun _ => raised.2⟩)
        fun _ => ?_
      · rintro process ⟨_, rfl⟩
        exact ⟨⟨at_, rfl⟩, through⟩
      · exact advanceAndFinish_keeps primitives handling (change found) live

end Continuing

end Maze.Core.StaticCore
