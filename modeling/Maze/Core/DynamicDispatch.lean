import Maze.Core.DynamicMonitor
import Maze.Core.DynamicOperations

namespace Maze.Core.DynamicMonitor

open Maze.Python
open Maze.Library.Fallible
open Maze.Library.Transition
open AttemptGate (MessageType)

/-!
# What a dynamic run sends

A task waits either among the pending tasks or in the continuation of the finish
that has made it ready, and nowhere else once it has been sent. So it is sent
once, and when its parents have completed.
-/

/-! ## What an operation leaves of the tasks -/

/-- The same tasks with the same parents; none has become pending. -/
structure Carries (before after : DynamicRun) : Prop where
  runId : after.runId = before.runId
  taskIds : after.tasks.map Prod.fst = before.tasks.map Prod.fst
  parents : after.taskParents = before.taskParents
  completed : after.completedTasks = before.completedTasks
  pending : after.pendingTasks ⊆ before.pendingTasks
  submitted : after.submittedTasks ⊆ before.submittedTasks

theorem Carries.refl (run : DynamicRun) : Carries run run :=
  ⟨rfl, rfl, rfl, rfl, List.Subset.refl _, List.Subset.refl _⟩

theorem updateTask_ids
    (run : DynamicRun)
    (taskId : TaskId)
    (change : CodeTask → CodeTask) :
    (run.updateTask taskId change).map Prod.fst = run.tasks.map Prod.fst := by
  unfold DynamicRun.updateTask
  rw [List.map_map]
  apply List.map_congr_left
  intro entry _
  simp only [Function.comp_apply]
  split <;> rfl

theorem carries_markStarted
    (run : DynamicRun)
    (taskId : TaskId)
    (now : Time) :
    Carries run (run.markStarted taskId now) := by
  unfold DynamicRun.markStarted
  split
  · exact .refl run
  · have ids := updateTask_ids run taskId fun task =>
      { task with startTime := some now }
    exact ⟨rfl, ids, rfl, rfl, List.Subset.refl _, List.Subset.refl _⟩

theorem carries_markRetrying
    (run : DynamicRun)
    (taskId : TaskId)
    (error faultTolerance : PyVal)
    (now : Time) :
    Carries run (run.markRetrying taskId error faultTolerance now) := by
  unfold DynamicRun.markRetrying
  split
  · exact .refl run
  · exact ⟨rfl, rfl, rfl, rfl, List.Subset.refl _, List.Subset.refl _⟩

theorem carries_markFailed
    (run : DynamicRun)
    (taskId : TaskId)
    (reason faultTolerance : PyVal)
    (now : Time) :
    Carries run (run.markFailed taskId reason faultTolerance now) := by
  unfold DynamicRun.markFailed
  split
  · exact .refl run
  · exact ⟨rfl, rfl, rfl, rfl, List.Subset.refl _, List.Subset.refl _⟩

theorem carries_checkCanMutate
    (render : Time → PyStr)
    (run : DynamicRun)
    (now : Time) :
    Carries run (run.checkCanMutate render now).state := by
  rcases DynamicCore.checkCanMutate_cases render run now with
    ⟨_, _, checked⟩ | ⟨_, checked⟩ | ⟨_, checked⟩
  · rw [checked]
    exact ⟨rfl, rfl, rfl, rfl, List.nil_subset _,
    List.nil_subset _⟩
  · rw [checked]
    exact .refl run
  · rw [checked]
    exact .refl run

/-- The calls of clients complete no task and make none pending. -/
theorem carries_apply
    (render : Time → PyStr)
    (run : DynamicRun)
    (now : Time)
    (call : ApiCall) :
    Carries run (DynamicCore.apply render run now call.operation).1 := by
  cases call with
  | registerTaskSpec data =>
      exact carries_checkCanMutate render run now
  | emitEvent eventType data =>
      simp only [ApiCall.operation, DynamicCore.apply]
      split
      · exact .refl run
      · exact carries_checkCanMutate render run now
  | finalize result =>
      simp only [ApiCall.operation, DynamicCore.apply, DynamicRun.finalize]
      split
      · exact .refl run
      · rcases DynamicCore.checkCanMutate_cases render run now with
          ⟨_, _, checked⟩ | ⟨_, checked⟩ | ⟨_, checked⟩
        · simp only [checked]
          exact ⟨rfl, rfl, rfl, rfl, List.nil_subset _,
    List.nil_subset _⟩
        · simp only [checked]
          exact .refl run
        · simp only [checked]
          split
          · exact ⟨rfl, rfl, rfl, rfl, List.Subset.refl _, List.Subset.refl _⟩
          · exact .refl run
  | cancel reason =>
      simp only [ApiCall.operation, DynamicCore.apply, DynamicRun.cancel]
      split
      · exact .refl run
      · rcases DynamicCore.checkCanMutate_cases render run now with
          ⟨_, _, checked⟩ | ⟨_, checked⟩ | ⟨_, checked⟩
        · simp only [checked]
          exact ⟨rfl, rfl, rfl, rfl, List.nil_subset _,
    List.nil_subset _⟩
        · simp only [checked]
          exact .refl run
        · simp only [checked]
          exact ⟨rfl, rfl, rfl, rfl, List.nil_subset _,
    List.nil_subset _⟩
  | timeOut data =>
      simp only [ApiCall.operation, DynamicCore.apply,
        DynamicRun.markTimedOutIfNeeded]
      split
      · exact ⟨rfl, rfl, rfl, rfl, List.nil_subset _,
    List.nil_subset _⟩
      · exact .refl run
  | interrupt reason data =>
      simp only [ApiCall.operation, DynamicCore.apply, DynamicRun.interrupt]
      split
      · exact .refl run
      · exact ⟨rfl, rfl, rfl, rfl, List.nil_subset _,
    List.nil_subset _⟩

theorem carries_appendEvent
    (run : DynamicRun)
    (eventType : PyStr)
    (data : PyDict)
    (timestamp : PyStr)
    (now : Time) :
    Carries run (run.appendEvent eventType data timestamp now).1 :=
  ⟨rfl, rfl, rfl, rfl, List.Subset.refl _, List.Subset.refl _⟩

/-! ## The invariant -/

/-- Every task waits in one place, and has been sent at most once. -/
structure Orderly (process : DynamicProcess) : Prop where
  known :
    ∀ taskId ∈ process.sentTasks, taskId ∈ process.run.tasks.map Prod.fst
  distinct : process.sentTasks.Nodup
  ready :
    ∀ taskId ∈ process.sentTasks, process.run.isTaskReady taskId = true
  pending :
    ∀ taskId ∈ process.run.pendingTasks,
      taskId ∈ process.run.tasks.map Prod.fst ∧ taskId ∉ process.sentTasks
  submitted :
    ∀ taskId ∈ process.run.submittedTasks,
      taskId ∈ process.run.tasks.map Prod.fst
  waiting :
    ∀ other continuation,
      process.continuations.lookup other = some continuation →
      ∀ ready ∈ continuation.ready,
        ready.taskId ∈ process.run.tasks.map Prod.fst ∧
          ready.taskId ∉ process.run.pendingTasks ∧
          process.run.isTaskReady ready.taskId = true ∧
          (ready.dispatched = false → ready.taskId ∉ process.sentTasks)
  once :
    ∀ first second firstContinuation secondContinuation firstReady secondReady,
      process.continuations.lookup first = some firstContinuation →
      process.continuations.lookup second = some secondContinuation →
      firstReady ∈ firstContinuation.ready →
      secondReady ∈ secondContinuation.ready →
      firstReady.taskId = secondReady.taskId →
        first = second ∧ firstReady = secondReady

theorem isTaskReady_congr
    {before after : DynamicRun}
    (parents : after.taskParents = before.taskParents)
    (completed : after.completedTasks = before.completedTasks)
    (taskId : TaskId) :
    after.isTaskReady taskId = before.isTaskReady taskId := by
  simp only [DynamicRun.isTaskReady, parents, completed]

/-- A run that carries its tasks keeps the order. -/
theorem Orderly.carry
    {process after : DynamicProcess}
    (orderly : Orderly process)
    (carries : Carries process.run after.run)
    (continuations : after.continuations = process.continuations)
    (sentTasks : after.sentTasks = process.sentTasks) :
    Orderly after where
  known := by
    rw [sentTasks, carries.taskIds]
    exact orderly.known
  distinct := by
    rw [sentTasks]
    exact orderly.distinct
  ready := by
    rw [sentTasks]
    intro taskId sent
    rw [isTaskReady_congr carries.parents carries.completed]
    exact orderly.ready taskId sent
  pending := by
    rw [sentTasks, carries.taskIds]
    exact fun taskId pending =>
      orderly.pending taskId (carries.pending pending)
  submitted := by
    rw [carries.taskIds]
    exact fun taskId submitted =>
      orderly.submitted taskId (carries.submitted submitted)
  waiting := by
    rw [sentTasks, carries.taskIds, continuations]
    intro other continuation found ready member
    obtain ⟨known, free, isReady, unsent⟩ :=
      orderly.waiting other continuation found ready member
    refine ⟨known, fun pending => free (carries.pending pending), ?_,
      unsent⟩
    rw [isTaskReady_congr carries.parents carries.completed]
    exact isReady
  once := by
    rw [continuations]
    exact orderly.once

theorem lookup_updateContinuation
    (taskId other : TaskId)
    (change : DynamicContinuation → DynamicContinuation)
    (continuations : List (TaskId × DynamicContinuation)) :
    (updateContinuation taskId change continuations).lookup other =
      if other = taskId then (continuations.lookup other).map change
      else continuations.lookup other := by
  induction continuations with
  | nil =>
      simp [updateContinuation]
  | cons entry rest inductionHypothesis =>
      obtain ⟨key, continuation⟩ := entry
      unfold updateContinuation at inductionHypothesis ⊢
      by_cases here : key = taskId
      · subst here
        by_cases found : other = key
        · simp [found]
        · have differ : (other == key) = false := by simpa using found
          simp [List.lookup_cons, differ, inductionHypothesis, found]
      · by_cases found : other = key
        · subst found
          simp [here]
        · have differ : (other == key) = false := by simpa using found
          simp [List.lookup_cons, here, differ, inductionHypothesis]

variable
  {process : DynamicProcess}
  {taskId : TaskId}
  {change : DynamicContinuation → DynamicContinuation}
  {marks : ReadyTask → ReadyTask}
  {start : DynamicProcess}

/-- A change of the ready tasks of one continuation, one by one. -/
theorem Orderly.noted
    {sent : List TaskId}
    (orderly : Orderly process)
    (ready :
      ∀ continuation, (change continuation).ready =
        continuation.ready.map marks)
    (named : ∀ ready, (marks ready).taskId = ready.taskId)
    (known : ∀ task ∈ sent, task ∈ process.run.tasks.map Prod.fst)
    (distinct : sent.Nodup)
    (sentReady : ∀ task ∈ sent, process.run.isTaskReady task = true)
    (pending : ∀ task ∈ process.run.pendingTasks, task ∉ sent)
    (unsent :
      ∀ other continuation,
        process.continuations.lookup other = some continuation →
        ∀ ready ∈ continuation.ready,
          (if other = taskId then marks ready else ready).dispatched = false →
            ready.taskId ∉ sent) :
    Orderly
      { process with
        continuations := updateContinuation taskId change process.continuations
        sentTasks := sent } := by
  -- every ready task after the change is the mark of one before it
  have earlier : ∀ other continuation,
      (updateContinuation taskId change process.continuations).lookup other =
        some continuation →
      ∀ present ∈ continuation.ready,
        ∃ old, process.continuations.lookup other = some old ∧
          ∃ was ∈ old.ready,
            present = if other = taskId then marks was else was := by
    intro other continuation found present member
    rw [lookup_updateContinuation] at found
    split at found
    · next here =>
      obtain ⟨old, was, same⟩ := Option.map_eq_some_iff.mp found
      subst same
      rw [ready old] at member
      obtain ⟨task, inside, rfl⟩ := List.mem_map.mp member
      exact ⟨old, was, task, inside, by rw [if_pos here]⟩
    · next differ =>
      exact ⟨continuation, found, present, member, by rw [if_neg differ]⟩
  have sameId : ∀ (other : TaskId) (was : ReadyTask),
      (if other = taskId then marks was else was).taskId = was.taskId := by
    intro other was
    split
    · exact named was
    · rfl
  exact {
    known := known
    distinct := distinct
    ready := sentReady
    pending := fun task member =>
      ⟨(orderly.pending task member).1, pending task member⟩
    submitted := orderly.submitted
    waiting := by
      intro other continuation found present member
      obtain ⟨old, was, task, inside, rfl⟩ :=
        earlier other continuation found present member
      obtain ⟨isKnown, free, isReady, _⟩ :=
        orderly.waiting other old was task inside
      rw [sameId]
      exact ⟨isKnown, free, isReady, unsent other old was task inside⟩
    once := by
      intro first second firstFound secondFound firstReady secondReady firstIs
        secondIs inFirst inSecond same
      obtain ⟨firstOld, firstWas, firstTask, firstInside, rfl⟩ :=
        earlier first firstFound firstIs firstReady inFirst
      obtain ⟨secondOld, secondWas, secondTask, secondInside, rfl⟩ :=
        earlier second secondFound secondIs secondReady inSecond
      rw [sameId, sameId] at same
      obtain ⟨sameKey, sameTask⟩ := orderly.once first second firstOld secondOld
        firstTask secondTask firstWas secondWas firstInside secondInside same
      subst sameKey
      subst sameTask
      exact ⟨rfl, rfl⟩ }

theorem lookup_setContinuation
    (taskId other : TaskId)
    (continuation : DynamicContinuation)
    (continuations : List (TaskId × DynamicContinuation)) :
    (setContinuation taskId continuation continuations).lookup other =
      if other = taskId then some continuation
      else continuations.lookup other := by
  unfold setContinuation
  by_cases here : other = taskId
  · simp [here]
  · have differ : (other == taskId) = false := by simpa using here
    rw [List.lookup_cons, differ, if_neg here]
    simp only [ne_eq, decide_not]
    induction continuations with
    | nil =>
        rfl
    | cons entry rest inductionHypothesis =>
        obtain ⟨key, found⟩ := entry
        by_cases same : key = taskId
        · subst same
          simp [List.lookup_cons, differ, inductionHypothesis]
        · by_cases at_ : other = key
          · subst at_
            simp [same]
          · have apart : (other == key) = false := by simpa using at_
            simp [List.lookup_cons, apart, same, inductionHypothesis]

theorem isTaskReady_mono
    {before after : DynamicRun}
    (parents : after.taskParents = before.taskParents)
    (completed : ∀ task ∈ before.completedTasks, task ∈ after.completedTasks)
    (ready : before.isTaskReady taskId = true) :
    after.isTaskReady taskId = true := by
  simp only [DynamicRun.isTaskReady, List.all_eq_true, decide_eq_true_eq,
    parents] at ready ⊢
  exact fun task precedes => completed task (ready task precedes)

/-- What `mark_finished` does to the tasks of a run that goes on. -/
structure Finishes
    (before : DynamicRun)
    (taskId : TaskId)
    (after : DynamicRun)
    (ready : List TaskId) : Prop where
  runId : after.runId = before.runId
  taskIds : after.tasks.map Prod.fst = before.tasks.map Prod.fst
  parents : after.taskParents = before.taskParents
  completed :
    ∀ task, task ∈ after.completedTasks ↔
      task = taskId ∨ task ∈ before.completedTasks
  pending :
    ∀ task, task ∈ after.pendingTasks ↔
      task ∈ before.pendingTasks ∧ after.isTaskReady task = false
  readied :
    ∀ task, task ∈ ready ↔
      task ∈ before.pendingTasks ∧ after.isTaskReady task = true
  submitted :
    ∀ task ∈ after.submittedTasks, task ∈ ready ∨ task ∈ before.submittedTasks

theorem finishes_markFinished
    {run : DynamicRun}
    (taskId : TaskId)
    (faultTolerance : PyVal)
    (now : Time)
    (live : run.isTerminal = false) :
    Finishes run taskId (run.markFinished taskId faultTolerance now).1
      (run.markFinished taskId faultTolerance now).2 := by
  simp only [DynamicRun.markFinished, live, Bool.false_eq_true, if_false]
  have ids := updateTask_ids run taskId fun task =>
    { task with completed := true, finishTime := some now }
  refine ⟨rfl, ids, rfl, ?_, ?_, ?_, fun task member =>
    List.mem_union_iff.mp member⟩
  · intro task
    exact List.mem_insert_iff
  · intro task
    simp only [List.mem_filter, Bool.not_eq_true']
    rfl
  · intro task
    simp only [List.mem_filter]
    rfl

/-- A finish hands the tasks that it makes ready to its continuation. -/
theorem Orderly.finished
    {handling : DynamicHandling}
    {data : PyDict}
    {manifest : PyVal}
    (orderly : Orderly process)
    (live : process.run.isTerminal = false) :
    Orderly (finishTask handling taskId data manifest process) := by
  have noted : Carries process.run (setManifest taskId manifest process.run) ∧
      (setManifest taskId manifest process.run).isTerminal = false := by
    unfold setManifest
    split
    · exact ⟨⟨rfl, rfl, rfl, rfl, List.Subset.refl _, List.Subset.refl _⟩, live⟩
    · exact ⟨.refl _, live⟩
  have carried : Orderly { process with
      run := setManifest taskId manifest process.run } :=
    orderly.carry noted.1 rfl rfl
  have finishes := finishes_markFinished taskId (data.get "fault_tolerance")
    handling.now noted.2
  unfold finishTask
  dsimp only
  generalize (setManifest taskId manifest process.run).markFinished taskId
    (data.get "fault_tolerance") handling.now = finished at finishes ⊢
  obtain ⟨after, ready⟩ := finished
  have grows : ∀ task ∈ (setManifest taskId manifest process.run).completedTasks,
      task ∈ after.completedTasks :=
    fun task member => (finishes.completed task).mpr (Or.inr member)
  exact {
    known := by
      rw [finishes.taskIds]
      exact carried.known
    distinct := carried.distinct
    ready := fun task sent =>
      isTaskReady_mono finishes.parents grows (carried.ready task sent)
    pending := by
      rw [finishes.taskIds]
      exact fun task member =>
        carried.pending task ((finishes.pending task).mp member).1
    submitted := by
      rw [finishes.taskIds]
      intro task member
      rcases finishes.submitted task member with readied | before
      · exact (carried.pending task ((finishes.readied task).mp readied).1).1
      · exact carried.submitted task before
    waiting := by
      intro other continuation found present member
      rw [finishes.taskIds]
      rw [lookup_setContinuation] at found
      split at found
      · cases found
        obtain ⟨task, inReady, rfl⟩ := List.mem_map.mp member
        obtain ⟨wasPending, isReady⟩ := (finishes.readied task).mp inReady
        obtain ⟨isKnown, unsent⟩ := carried.pending task wasPending
        refine ⟨isKnown, fun still => ?_, isReady, fun _ => unsent⟩
        rw [((finishes.pending task).mp still).2] at isReady
        cases isReady
      · obtain ⟨isKnown, free, isReady, unsent⟩ :=
          carried.waiting other continuation found present member
        refine ⟨isKnown, fun still => ?_,
          isTaskReady_mono finishes.parents grows isReady, unsent⟩
        exact free ((finishes.pending _).mp still).1
    once := by
      -- what was ready before is not among the tasks that were pending
      have apart : ∀ other old was task,
          process.continuations.lookup other = some old →
          was ∈ old.ready → task ∈ ready → was.taskId = task → False := by
        intro other old was task found member inReady same
        have free := (carried.waiting other old found was member).2.1
        exact free (same ▸ ((finishes.readied task).mp inReady).1)
      intro first second firstFound secondFound firstReady secondReady firstIs
        secondIs inFirst inSecond same
      rw [lookup_setContinuation] at firstIs secondIs
      split at firstIs
      · next firstHere =>
        cases firstIs
        obtain ⟨firstTask, firstMember, rfl⟩ := List.mem_map.mp inFirst
        split at secondIs
        · next secondHere =>
          cases secondIs
          obtain ⟨secondTask, _, rfl⟩ := List.mem_map.mp inSecond
          refine ⟨firstHere.trans secondHere.symm, ?_⟩
          rw [show firstTask = secondTask from same]
        · exact (apart second secondFound secondReady firstTask secondIs inSecond
            firstMember same.symm).elim
      · split at secondIs
        · cases secondIs
          obtain ⟨secondTask, secondMember, rfl⟩ := List.mem_map.mp inSecond
          exact (apart first firstFound firstReady secondTask firstIs inFirst
            secondMember same).elim
        · exact carried.once first second firstFound secondFound firstReady
            secondReady firstIs secondIs inFirst inSecond same }

/-! ## Writing to the store -/

/-- An event has been recorded, and nothing else has changed. -/
structure Recorded (before after : DynamicProcess) : Prop where
  carries : Carries before.run after.run
  status : after.run.status = before.run.status
  continuations : after.continuations = before.continuations
  sentTasks : after.sentTasks = before.sentTasks
  gate : after.gate = before.gate
  retrying : after.retrying = before.retrying

theorem Recorded.refl (process : DynamicProcess) : Recorded process process :=
  ⟨.refl _, rfl, rfl, rfl, rfl, rfl⟩

theorem Carries.trans
    {first second third : DynamicRun}
    (early : Carries first second)
    (late : Carries second third) :
    Carries first third where
  runId := late.runId.trans early.runId
  taskIds := late.taskIds.trans early.taskIds
  parents := late.parents.trans early.parents
  completed := late.completed.trans early.completed
  pending := fun _ member => early.pending (late.pending member)
  submitted := fun _ member => early.submitted (late.submitted member)

section Writing

variable {start : DynamicProcess}

theorem writing_recorded
    (perform : DynamicProcess → Moment → Performed) :
    Ensures (Recorded start) (writing perform) (fun _ => Recorded start)
      (fun _ => Recorded start) := by
  intro process recorded
  have kept : ∀ files moments,
      Recorded start { process with files := files, moments := moments } :=
    fun files moments => ⟨recorded.carries, recorded.status,
      recorded.continuations, recorded.sentTasks, recorded.gate,
      recorded.retrying⟩
  unfold writing
  dsimp only
  cases (perform process (nextMoment process)).result with
  | ok =>
      exact kept _ _
  | error raised =>
      exact kept _ _

theorem persistRun_recorded :
    Ensures (Recorded start) persistRun (fun _ => Recorded start)
      (fun _ => Recorded start) :=
  writing_recorded _

theorem appendEvent_recorded
    (eventType : PyStr)
    (data : PyDict) :
    Ensures (Recorded start) (appendEvent eventType data)
      (fun _ => Recorded start) (fun _ => Recorded start) := by
  intro process recorded
  exact ⟨recorded.carries.trans (carries_appendEvent _ _ _ _ _), recorded.status,
    recorded.continuations, recorded.sentTasks, recorded.gate, recorded.retrying⟩

/-- Recording an event changes nothing beside the log, also where it raises. -/
theorem recordEvent_recorded
    (eventType : PyStr)
    (data : PyDict) :
    Ensures (Recorded start) (recordEvent eventType data)
      (fun _ => Recorded start) (fun _ => Recorded start) :=
  ensures_bind (appendEvent_recorded eventType data) fun _ =>
    writing_recorded _

theorem emitStored_recorded (event : RunEvent) :
    Ensures (Recorded start) (emitStored event)
      (fun _ => Recorded start) (fun _ => Recorded start) := by
  refine ensures_get fun process recorded => ?_
  have here : ∀ current, current = process → Recorded start current :=
    fun current same => same ▸ recorded
  split
  · split
    · exact (writing_recorded _).weaken here (fun _ _ after => after)
        fun _ _ after => after
    · exact ensures_throw here
  · exact (recordEvent_recorded _ _).weaken here (fun _ _ after => after)
      fun _ _ after => after

end Writing

/-- What a call that records an event ensures of any process. -/
theorem Ensures.of_recorded
    {α : Type}
    {call : MonitorCall α}
    {holds : DynamicProcess → Prop}
    (ensures :
      ∀ start, Ensures (Recorded start) call (fun _ => Recorded start)
        (fun _ => Recorded start))
    (kept : ∀ start after, holds start → Recorded start after → holds after) :
    Ensures holds call (fun _ => holds) (fun _ => holds) := by
  intro process here
  exact ((ensures process).weaken (fun _ same => same)
    (fun _ after recorded => kept process after here recorded)
    (fun _ after recorded => kept process after here recorded))
    process (Recorded.refl process)

theorem Orderly.recorded
    {process after : DynamicProcess}
    (orderly : Orderly process)
    (recorded : Recorded process after) :
    Orderly after :=
  orderly.carry recorded.carries recorded.continuations recorded.sentTasks

/-! ## One continuation at work -/

/-- The continuation of a task holds a ready task, sent or not. -/
def Holds
    (taskId readyTaskId : TaskId)
    (dispatched : Bool)
    (process : DynamicProcess) : Prop :=
  ∃ continuation,
    process.continuations.lookup taskId = some continuation ∧
      ∃ ready ∈ continuation.ready,
        ready.taskId = readyTaskId ∧ ready.dispatched = dispatched

/-- A change that is only about what has been told. -/
structure OnlyTells
    (change : DynamicContinuation → DynamicContinuation)
    (marks : ReadyTask → ReadyTask) : Prop where
  ready :
    ∀ continuation, (change continuation).ready = continuation.ready.map marks
  named : ∀ ready, (marks ready).taskId = ready.taskId
  dispatched : ∀ ready, (marks ready).dispatched = ready.dispatched

theorem onlyTells_changeReady
    {readyTaskId : TaskId}
    {change : ReadyTask → ReadyTask}
    (named : ∀ ready, (change ready).taskId = ready.taskId)
    (dispatched : ∀ ready, (change ready).dispatched = ready.dispatched) :
    OnlyTells (changeReady readyTaskId change)
      fun ready => if ready.taskId = readyTaskId then change ready else ready where
  ready := fun _ => rfl
  named := fun ready => by
    split
    · exact named ready
    · rfl
  dispatched := fun ready => by
    split
    · exact dispatched ready
    · rfl

theorem Orderly.told
    (orderly : Orderly process)
    (tells : OnlyTells change marks) :
    Orderly
      { process with
        continuations := updateContinuation taskId change
          process.continuations } := by
  refine orderly.noted tells.ready tells.named orderly.known orderly.distinct
    orderly.ready (fun task pending => (orderly.pending task pending).2) ?_
  intro other continuation found ready member undispatched
  refine (orderly.waiting other continuation found ready member).2.2.2 ?_
  split at undispatched
  · exact (tells.dispatched ready).symm.trans undispatched
  · exact undispatched

theorem Holds.told
    {taskId readyTaskId : TaskId}
    {dispatched : Bool}
    (holds : Holds taskId readyTaskId dispatched process)
    (tells : OnlyTells change marks) :
    Holds taskId readyTaskId dispatched
      { process with
        continuations := updateContinuation taskId change
          process.continuations } := by
  obtain ⟨continuation, found, ready, member, named, sent⟩ := holds
  refine ⟨change continuation, ?_, marks ready, ?_, ?_, ?_⟩
  · rw [lookup_updateContinuation, if_pos rfl, found]
    rfl
  · rw [tells.ready]
    exact List.mem_map_of_mem member
  · exact (tells.named ready).trans named
  · exact (tells.dispatched ready).trans sent

/-- Sending a task that its continuation holds, and noting it, keep the order. -/
theorem Orderly.dispatched
    {taskId readyTaskId : TaskId}
    (orderly : Orderly process)
    (holds : Holds taskId readyTaskId false process) :
    Orderly
      { process with
        continuations :=
          updateContinuation taskId
            (changeReady readyTaskId fun ready => { ready with dispatched := true })
            process.continuations
        sentTasks := process.sentTasks ++ [readyTaskId] } := by
  obtain ⟨continuation, found, ready, member, rfl, undispatched⟩ := holds
  obtain ⟨known, free, isReady, unsent⟩ :=
    orderly.waiting taskId continuation found ready member
  have unsent := unsent undispatched
  have marks : ∀ other : ReadyTask,
      (if other.taskId = ready.taskId then { other with dispatched := true }
        else other).taskId = other.taskId := by
    intro other
    split <;> rfl
  refine orderly.noted (fun _ => rfl) marks ?_ ?_ ?_ ?_ ?_
  · intro task sent
    rcases List.mem_append.mp sent with earlier | last
    · exact orderly.known task earlier
    · rw [List.mem_singleton.mp last]
      exact known
  · rw [List.nodup_append]
    refine ⟨orderly.distinct, List.nodup_singleton _, ?_⟩
    intro task earlier last inLast same
    rw [same, List.mem_singleton.mp inLast] at earlier
    exact unsent earlier
  · intro task sent
    rcases List.mem_append.mp sent with earlier | last
    · exact orderly.ready task earlier
    · rw [List.mem_singleton.mp last]
      exact isReady
  · intro task pending sent
    rcases List.mem_append.mp sent with earlier | last
    · exact (orderly.pending task pending).2 earlier
    · rw [List.mem_singleton.mp last] at pending
      exact free pending
  · intro other others present task inside undispatched sent
    have wasUndispatched : task.dispatched = false ∧
        (task.taskId = ready.taskId → other ≠ taskId) := by
      split at undispatched
      · split at undispatched
        · cases undispatched
        · next differs =>
          exact ⟨undispatched, fun same => absurd same differs⟩
      · next differs =>
        exact ⟨undispatched, fun _ => differs⟩
    rcases List.mem_append.mp sent with earlier | last
    · exact (orderly.waiting other others present task inside).2.2.2
        wasUndispatched.1 earlier
    · have same := List.mem_singleton.mp last
      have here := (orderly.once other taskId others continuation task ready
        present found inside member same).1
      exact wasUndispatched.2 same here

section Continuing

variable {taskId readyTaskId : TaskId}

theorem Holds.recorded
    {dispatched : Bool}
    {process after : DynamicProcess}
    (holds : Holds taskId readyTaskId dispatched process)
    (recorded : Recorded process after) :
    Holds taskId readyTaskId dispatched after := by
  unfold Holds
  rw [recorded.continuations]
  exact holds

/-- The order, with a task that its continuation holds. -/
def OrderlyHolds
    (taskId readyTaskId : TaskId)
    (dispatched : Bool)
    (process : DynamicProcess) : Prop :=
  Orderly process ∧ Holds taskId readyTaskId dispatched process

theorem OrderlyHolds.recorded
    {dispatched : Bool}
    (process after : DynamicProcess)
    (here : OrderlyHolds taskId readyTaskId dispatched process)
    (recorded : Recorded process after) :
    OrderlyHolds taskId readyTaskId dispatched after :=
  ⟨here.1.recorded recorded, here.2.recorded recorded⟩

theorem note_holds
    {dispatched : Bool}
    {raises : PyErr → DynamicProcess → Prop}
    (tells : OnlyTells change marks) :
    Ensures (OrderlyHolds taskId readyTaskId dispatched) (note taskId change)
      (fun _ => OrderlyHolds taskId readyTaskId dispatched) raises := by
  apply ensures_modify
  rintro process ⟨orderly, holds⟩
  exact ⟨orderly.told tells, holds.told tells⟩

theorem persistRun_orderly :
    Ensures Orderly persistRun (fun _ => Orderly) (fun _ => Orderly) :=
  Ensures.of_recorded (fun _ => persistRun_recorded)
    fun _ _ orderly recorded => orderly.recorded recorded

/-- Making the event of a ready task keeps the order. -/
theorem readyEventOf_holds
    (ready : ReadyTask)
    (data : PyDict) :
    Ensures (OrderlyHolds taskId readyTaskId ready.dispatched)
      (readyEventOf taskId readyTaskId ready data)
      (fun _ => OrderlyHolds taskId readyTaskId ready.dispatched)
      (fun _ => OrderlyHolds taskId readyTaskId ready.dispatched) := by
  unfold readyEventOf
  cases ready.event with
  | some event =>
      exact ensures_pure fun _ here => here
  | none =>
      refine ensures_bind (Ensures.of_recorded
        (fun _ => appendEvent_recorded "task_ready" data)
        OrderlyHolds.recorded) fun event => ?_
      refine ensures_bind (note_holds (onlyTells_changeReady (fun _ => rfl)
        fun _ => rfl)) fun _ => ?_
      exact ensures_pure fun _ here => here

/-- Telling that a task is ready keeps the order. -/
theorem announce_holds
    (ready : ReadyTask)
    (event : RunEvent) :
    Ensures (OrderlyHolds taskId readyTaskId ready.dispatched)
      (announce taskId readyTaskId ready event)
      (fun _ => OrderlyHolds taskId readyTaskId ready.dispatched)
      (fun _ => OrderlyHolds taskId readyTaskId ready.dispatched) := by
  unfold announce
  split
  · exact ensures_pure fun _ here => here
  · refine ensures_bind (Ensures.of_recorded (fun _ => emitStored_recorded event)
      OrderlyHolds.recorded) fun _ => ?_
    refine ensures_bind (note_holds (onlyTells_changeReady (fun _ => rfl)
      fun _ => rfl)) fun _ => ?_
    exact Ensures.of_recorded (fun _ => persistRun_recorded) OrderlyHolds.recorded

/-- Sending a ready task keeps the order. -/
theorem dispatch_orderly
    (primitives : Primitives)
    (environment : Environment)
    (ready : ReadyTask) :
    Ensures (OrderlyHolds taskId readyTaskId ready.dispatched)
      (dispatch primitives environment taskId readyTaskId ready)
      (fun _ => Orderly) (fun _ => Orderly) := by
  unfold dispatch
  cases sent : ready.dispatched with
  | true =>
      exact ensures_pure fun _ here => here.1
  | false =>
      refine ensures_via
        (fun _ after => ∃ process,
          OrderlyHolds taskId readyTaskId false process ∧
            after =
              { process with sentTasks := process.sentTasks ++ [readyTaskId] })
        ?_ fun _ => ?_
      · intro process here
        unfold submitTask
        cases process.payloads.lookup readyTaskId with
        | none =>
            exact here.1
        | some task =>
            dsimp only
            cases TaskPreparation.prepareTaskResources primitives environment
                task with
            | error raised =>
                exact here.1
            | ok _ =>
                exact ⟨process, here, rfl⟩
      · refine ensures_via (fun _ => Orderly) ?_ fun _ => persistRun_orderly
        apply ensures_modify
        rintro after ⟨process, ⟨orderly, holds⟩, rfl⟩
        exact orderly.dispatched holds

/-- One round of the loop over the ready tasks keeps the order. -/
theorem continueReadyTask_orderly
    (primitives : Primitives)
    (environment : Environment)
    (taskId readyTaskId : TaskId) :
    Ensures Orderly
      (continueReadyTask primitives environment taskId readyTaskId)
      (fun _ => Orderly) (fun _ => Orderly) := by
  have found : Ensures Orderly (readyTaskOf taskId readyTaskId)
      (fun ready => OrderlyHolds taskId readyTaskId ready.dispatched)
      (fun _ => Orderly) := by
    refine ensures_via
      (fun continuation process => Orderly process ∧
        process.continuations.lookup taskId = some continuation) ?_
      fun continuation => ?_
    · intro process orderly
      unfold continuationOf
      cases present : process.continuations.lookup taskId with
      | none =>
          exact orderly
      | some continuation =>
          exact ⟨orderly, present⟩
    · cases search : continuation.ready.find? fun ready =>
          ready.taskId = readyTaskId with
      | none =>
          exact ensures_throw fun _ here => here.1
      | some ready =>
          refine ensures_pure fun process here => ⟨here.1, continuation, here.2,
            ready, List.mem_of_find?_eq_some search, ?_, rfl⟩
          simpa using List.find?_some search
  refine ensures_bind found fun ready => ?_
  refine ensures_get fun process holds => ?_
  have here : ∀ current, current = process →
      OrderlyHolds taskId readyTaskId ready.dispatched current :=
    fun current same => same ▸ holds
  have weak : ∀ (raised : PyErr) current,
      OrderlyHolds taskId readyTaskId ready.dispatched current →
        Orderly current := fun _ _ holds => holds.1
  split
  · exact ensures_throw fun current same => (here current same).1
  · refine ensures_bind ((readyEventOf_holds ready _).weaken here
      (fun _ _ holds => holds) weak) fun event => ?_
    refine ensures_bind ((announce_holds ready event).weaken
      (fun _ holds => holds) (fun _ _ holds => holds) weak) fun _ => ?_
    exact dispatch_orderly primitives environment ready

theorem note_orderly
    (tells : OnlyTells change marks) :
    Ensures Orderly
      (do
        note taskId change
        persistRun)
      (fun _ => Orderly) (fun _ => Orderly) := by
  refine ensures_via (fun _ => Orderly) ?_ fun _ => persistRun_orderly
  apply ensures_modify
  intro process orderly
  exact orderly.told tells

/-- A continuation keeps the order, wherever it stops. -/
theorem continueDynamicFinish_orderly
    (primitives : Primitives)
    (environment : Environment)
    (taskId : TaskId) :
    Ensures Orderly (continueDynamicFinish primitives environment taskId)
      (fun _ => Orderly) (fun _ => Orderly) := by
  have unmarked : ∀ {change : DynamicContinuation → DynamicContinuation},
      (∀ continuation, (change continuation).ready = continuation.ready) →
      OnlyTells change fun ready => ready := fun same =>
    ⟨fun continuation => by rw [same, List.map_id'], fun _ => rfl, fun _ => rfl⟩
  refine ensures_via (fun _ => Orderly) ?_ fun continuation => ?_
  · intro process orderly
    unfold continuationOf
    cases process.continuations.lookup taskId with
    | none =>
        exact orderly
    | some continuation =>
        exact orderly
  · split
    · exact persistRun_orderly
    · refine ensures_via (fun _ => Orderly) ?_ fun _ => ?_
      · unfold notify
        split
        · exact ensures_pure fun _ orderly => orderly
        · exact note_orderly (unmarked fun _ => rfl)
      · refine ensures_bind (ensures_each (continueReadyTask_orderly primitives
          environment taskId) _) fun _ => ?_
        exact note_orderly (unmarked fun _ => rfl)

end Continuing

/-! ## The transactions -/

/-- What no transaction touches. -/
structure Untouched (before after : DynamicProcess) : Prop where
  sentTasks : after.sentTasks = before.sentTasks
  retrying : after.retrying = before.retrying

/-- A transaction keeps the order; where it raises, nothing has been sent. -/
def Committed (start after : DynamicProcess) : Prop :=
  Orderly after ∧ Untouched start after

theorem Committed.recorded
    (process after : DynamicProcess)
    (committed : Committed start process)
    (recorded : Recorded process after) :
    Committed start after :=
  ⟨committed.1.recorded recorded,
    recorded.sentTasks.trans committed.2.sentTasks,
    recorded.retrying.trans committed.2.retrying⟩

theorem recordEvent_committed
    (eventType : PyStr)
    (data : PyDict) :
    Ensures (Committed start) (recordEvent eventType data)
      (fun _ => Committed start) (fun _ => Committed start) :=
  Ensures.of_recorded (fun _ => recordEvent_recorded eventType data)
    Committed.recorded

theorem changeRun_committed
    {change : DynamicRun → DynamicRun}
    {raises : PyErr → DynamicProcess → Prop}
    (carries : ∀ run, Carries run (change run)) :
    Ensures (Committed start) (changeRun change) (fun _ => Committed start)
      raises := by
  apply ensures_modify
  rintro process ⟨orderly, untouched⟩
  exact ⟨orderly.carry (carries process.run) rfl rfl, untouched.sentTasks,
    untouched.retrying⟩

/-- Every transaction on a run that goes on keeps the order. -/
theorem commit_committed
    (handling : DynamicHandling)
    (messageType : MessageType)
    (taskId : TaskId)
    (data : PyDict)
    (live : start.run.isTerminal = false) :
    Ensures
      (fun process => Committed start process ∧ process.run = start.run)
      (commit handling messageType taskId data)
      (fun _ => Committed start) (fun _ => Committed start) := by
  cases messageType with
  | startTask =>
      refine ensures_bind ((changeRun_committed fun run =>
        carries_markStarted run taskId handling.now).weaken
        (fun _ here => here.1) (fun _ _ committed => committed)
        fun _ _ committed => committed) fun _ => ?_
      exact recordEvent_committed _ _
  | taskRetry =>
      refine ensures_bind ((returning_ensures handling.observation).weaken
        (fun _ here => here.1) (fun _ _ committed => committed)
        fun _ _ committed => committed) fun observation => ?_
      refine ensures_bind (changeRun_committed fun run =>
        carries_markRetrying run taskId _ _ handling.now) fun _ => ?_
      exact recordEvent_committed _ _
  | taskException =>
      refine ensures_bind ((returning_ensures handling.observation).weaken
        (fun _ here => here.1) (fun _ _ committed => committed)
        fun _ _ committed => committed) fun observation => ?_
      refine ensures_bind (changeRun_committed fun run =>
        carries_markFailed run taskId _ _ handling.now) fun _ => ?_
      exact recordEvent_committed _ _
  | finishTask =>
      refine ensures_bind ((returning_ensures handling.manifest).weaken
        (fun _ here => here) (fun _ _ here => here)
        fun _ _ here => here.1) fun manifest => ?_
      refine ensures_bind ((returning_ensures handling.observation).weaken
        (fun _ here => here) (fun _ _ here => here)
        fun _ _ here => here.1) fun observation => ?_
      refine ensures_via (fun _ => Committed start) ?_ fun _ => ?_
      · apply ensures_modify
        rintro process ⟨⟨orderly, untouched⟩, same⟩
        exact ⟨orderly.finished (same ▸ live), untouched.sentTasks,
          untouched.retrying⟩
      · refine ensures_bind (recordEvent_committed _ _) fun _ => ?_
        exact returning_ensures handling.published

/-- An undone transaction leaves the order as it was. -/
theorem Orderly.rolledBack
    {before after : DynamicProcess}
    (orderly : Orderly before)
    (untouched : Untouched before after) :
    Orderly (rollback before after) :=
  orderly.carry (.refl _) rfl untouched.sentTasks

theorem handleAccepted_orderly
    (primitives : Primitives)
    (handling : DynamicHandling)
    (messageType : MessageType)
    (gate : AttemptGate.Gate)
    (taskId : TaskId)
    (data : PyDict) :
    Ensures
      (fun process => Orderly process ∧ process.run.isTerminal = false)
      (handleAccepted primitives handling messageType gate taskId data)
      (fun _ => Orderly) (fun _ => Orderly) := by
  refine ensures_via (fun _ => Orderly) ?_ fun _ => ?_
  · refine ensures_restoring ?_
    rintro process ⟨orderly, live⟩
    refine ensures_via (fun _ current =>
      Committed process current ∧ current.run = process.run) ?_ fun _ => ?_
    · apply ensures_modify
      rintro current rfl
      exact ⟨⟨orderly.carry (.refl _) rfl rfl, rfl, rfl⟩, rfl⟩
    · exact (commit_committed handling messageType taskId _ live).weaken
        (fun _ here => here) (fun _ _ committed => committed.1)
        fun _ _ committed => orderly.rolledBack committed.2
  · split
    · exact continueDynamicFinish_orderly primitives handling.environment taskId
    · exact ensures_pure fun _ orderly => orderly

theorem resumeFinish_orderly
    (primitives : Primitives)
    (environment : Environment)
    (data : PyDict) :
    Ensures Orderly (resumeFinish primitives environment data)
      (fun _ => Orderly) (fun _ => Orderly) := by
  unfold resumeFinish
  split
  · next taskId _ =>
    refine ensures_get fun process orderly => ?_
    have here : ∀ current, current = process → Orderly current :=
      fun current same => same ▸ orderly
    split
    · split
      · exact (continueDynamicFinish_orderly primitives environment taskId).weaken
          here (fun _ _ after => after) fun _ _ after => after
      · exact ensures_pure here
    · exact ensures_pure here
  · exact ensures_pure fun _ orderly => orderly

/-- Whatever a message comes to, the order is kept. -/
theorem handleAttempt_orderly
    (primitives : Primitives)
    (handling : DynamicHandling)
    (messageType : MessageType)
    (data : PyDict) :
    Ensures Orderly (handleAttempt primitives handling messageType data)
      (fun _ => Orderly) (fun _ => Orderly) := by
  refine ensures_get fun process orderly => ?_
  have here : ∀ current, current = process → Orderly current :=
    fun current same => same ▸ orderly
  refine ensures_bind ((returning_ensures _).weaken (fun _ same => same)
    (fun _ _ same => same) fun _ current same => here current same) fun found => ?_
  split
  · split
    · exact (resumeFinish_orderly primitives handling.environment data).weaken
        here (fun _ _ after => after) fun _ _ after => after
    · exact ensures_pure here
  · next gate =>
    split
    · next taskId _ =>
      cases live : process.run.isTerminal with
      | true =>
          exact ensures_pure here
      | false =>
          exact (handleAccepted_orderly primitives handling messageType gate
            taskId data).weaken
            (fun current same => ⟨here current same, same ▸ live⟩)
            (fun _ _ after => after) fun _ _ after => after
    · exact ensures_throw here

theorem handlePending_orderly (data : PyDict) :
    Ensures Orderly (handlePending data) (fun _ => Orderly)
      (fun _ => Orderly) := by
  refine ensures_get fun process orderly => ?_
  have here : ∀ current, current = process → Orderly current :=
    fun current same => same ▸ orderly
  split
  · exact ensures_pure here
  · exact (Ensures.of_recorded (fun _ => recordEvent_recorded _ _)
      fun _ _ orderly recorded => Orderly.recorded orderly recorded).weaken here
      (fun _ _ after => after) fun _ _ after => after

/-! ## Appends and the calls of clients -/

theorem operate_orderly
    (render : Time → PyStr)
    (handling : DynamicHandling)
    (call : ApiCall) :
    Ensures Orderly (operate render handling call) (fun _ => Orderly)
      (fun _ => Orderly) := by
  refine ensures_get fun process orderly => ?_
  refine ensures_via (fun _ => Orderly) ?_ fun _ => ?_
  · apply ensures_modify
    rintro current rfl
    exact orderly.carry (carries_apply render current.run handling.now call) rfl
      rfl
  · split
    · exact Ensures.of_recorded (fun _ => recordEvent_recorded _ _)
        fun _ _ orderly recorded => Orderly.recorded orderly recorded
    · exact ensures_pure fun _ orderly => orderly

/-- An appended task waits for nothing but to be sent. -/
structure Appended
    (taskId : TaskId)
    (process : DynamicProcess) : Prop where
  orderly : Orderly process
  known : taskId ∈ process.run.tasks.map Prod.fst
  unsent : taskId ∉ process.sentTasks
  free :
    ∀ other continuation,
      process.continuations.lookup other = some continuation →
        ∀ ready ∈ continuation.ready, ready.taskId ≠ taskId
  ready :
    taskId ∈ process.run.submittedTasks →
      process.run.isTaskReady taskId = true ∧ taskId ∉ process.run.pendingTasks

theorem Appended.recorded
    (process after : DynamicProcess)
    (appended : Appended taskId process)
    (recorded : Recorded process after) :
    Appended taskId after where
  orderly := appended.orderly.recorded recorded
  known := by
    rw [recorded.carries.taskIds]
    exact appended.known
  unsent := by
    rw [recorded.sentTasks]
    exact appended.unsent
  free := by
    rw [recorded.continuations]
    exact appended.free
  ready := fun submitted => by
    obtain ⟨isReady, free⟩ :=
      appended.ready (recorded.carries.submitted submitted)
    refine ⟨?_, fun pending => free (recorded.carries.pending pending)⟩
    rw [isTaskReady_congr recorded.carries.parents recorded.carries.completed]
    exact isReady

/-- The bookkeeping of an append, for a task with a new id. -/
theorem Orderly.added
    (orderly : Orderly process)
    (request : DynamicRun.AppendRequest)
    (now : Time)
    (fresh : request.taskId ∉ process.run.tasks.map Prod.fst) :
    Appended request.taskId
      { process with run := process.run.addTask request now } := by
  let added := process.run.addTask request now
  have taskIds : added.tasks.map Prod.fst =
      process.run.tasks.map Prod.fst ++ [request.taskId] := by
    simp only [added, DynamicRun.addTask]
    split <;> simp [DynamicRun.registerTask]
  have parents : added.taskParents =
      (request.taskId, request.parents) :: process.run.taskParents := by
    simp only [added, DynamicRun.addTask]
    split <;> rfl
  have completed : added.completedTasks = process.run.completedTasks := by
    simp only [added, DynamicRun.addTask]
    split <;> rfl
  have unsent : request.taskId ∉ process.sentTasks :=
    fun sent => fresh (orderly.known _ sent)
  have notPending : request.taskId ∉ process.run.pendingTasks :=
    fun pending => fresh (orderly.pending _ pending).1
  have notSubmitted : request.taskId ∉ process.run.submittedTasks :=
    fun submitted => fresh (orderly.submitted _ submitted)
  have pending : ∀ task ∈ added.pendingTasks,
      task ∈ process.run.pendingTasks ∨ task = request.taskId := by
    intro task
    simp only [added, DynamicRun.addTask]
    split
    · exact Or.inl
    · intro member
      simpa [DynamicRun.registerTask] using member
  have submitted : ∀ task ∈ added.submittedTasks,
      task ∈ process.run.submittedTasks ∨ task = request.taskId := by
    intro task
    simp only [added, DynamicRun.addTask]
    split
    · intro member
      exact (List.mem_insert_iff.mp member).symm
    · exact Or.inl
  have oldReady : ∀ task ∈ process.run.tasks.map Prod.fst,
      added.isTaskReady task = process.run.isTaskReady task := by
    intro task known
    have differ : (task == request.taskId) = false := by
      rw [beq_eq_false_iff_ne]
      rintro rfl
      exact fresh known
    simp only [DynamicRun.isTaskReady, parents, completed, List.lookup_cons,
      differ]
  have known : ∀ task ∈ process.run.tasks.map Prod.fst,
      task ∈ added.tasks.map Prod.fst := by
    intro task member
    rw [taskIds]
    exact List.mem_append_left _ member
  have free : ∀ other continuation,
      process.continuations.lookup other = some continuation →
        ∀ ready ∈ continuation.ready, ready.taskId ≠ request.taskId := by
    intro other continuation found ready member same
    exact fresh (same ▸ (orderly.waiting other continuation found ready member).1)
  have isKnown : request.taskId ∈ added.tasks.map Prod.fst := by
    rw [taskIds]
    exact List.mem_append_right _ (List.mem_singleton_self _)
  refine {
    orderly := {
      known := fun task sent => known task (orderly.known task sent)
      distinct := orderly.distinct
      ready := fun task sent => by
        rw [oldReady task (orderly.known task sent)]
        exact orderly.ready task sent
      pending := fun task member => by
        rcases pending task member with before | rfl
        · obtain ⟨wasKnown, wasUnsent⟩ := orderly.pending task before
          exact ⟨known task wasKnown, wasUnsent⟩
        · exact ⟨isKnown, unsent⟩
      submitted := fun task member => by
        rcases submitted task member with before | rfl
        · exact known task (orderly.submitted task before)
        · exact isKnown
      waiting := fun other continuation found ready member => by
        obtain ⟨wasKnown, wasFree, wasReady, wasUnsent⟩ :=
          orderly.waiting other continuation found ready member
        refine ⟨known _ wasKnown, fun isPending => ?_, ?_, wasUnsent⟩
        · rcases pending _ isPending with before | same
          · exact wasFree before
          · exact free other continuation found ready member same
        · rw [oldReady _ wasKnown]
          exact wasReady
      once := orderly.once }
    known := isKnown
    unsent := unsent
    free := free
    ready := ?_ }
  simp only [DynamicRun.addTask]
  split
  · next isReady =>
    intro _
    exact ⟨isReady, notPending⟩
  · intro member
    exact absurd member notSubmitted

/-- A new task of a run, or the run as it was. -/
theorem appendTask_cases
    (render : Time → PyStr)
    (run : DynamicRun)
    (request : DynamicRun.AppendRequest)
    (now : Time) :
    (∃ checked, Carries run checked ∧
        (run.appendTask render request now).state = checked.addTask request now ∧
        (run.appendTask render request now).result =
          .ok (request.taskId, false)) ∨
      (Carries run (run.appendTask render request now).state ∧
        ∀ taskId,
          (run.appendTask render request now).result ≠ .ok (taskId, false)) := by
  have carries := carries_checkCanMutate render run now
  unfold DynamicRun.appendTask
  dsimp only
  generalize run.checkCanMutate render now = checked at carries ⊢
  obtain ⟨state, result⟩ := checked
  cases result with
  | error raised =>
      exact Or.inr ⟨carries, fun _ same => by cases same⟩
  | ok _ =>
      dsimp only at carries ⊢
      cases request.requestKey.bind fun requestId =>
          state.requestIds.lookup requestId with
      | some taskId =>
          exact Or.inr ⟨carries, fun _ same => by cases same⟩
      | none =>
          dsimp only
          split
          · exact Or.inr ⟨carries, fun _ same => by cases same⟩
          · cases request.buildError with
            | some raised =>
                exact Or.inr ⟨carries, fun _ same => by cases same⟩
            | none =>
                dsimp only
                split
                · exact Or.inl ⟨state, carries, rfl, rfl⟩
                · exact Or.inr ⟨carries, fun _ same => by cases same⟩

/-- An appended task may be sent where it is submitted. -/
theorem Appended.sent
    (appended : Appended taskId process)
    (submitted : taskId ∈ process.run.submittedTasks) :
    Orderly { process with sentTasks := process.sentTasks ++ [taskId] } := by
  obtain ⟨isReady, notPending⟩ := appended.ready submitted
  have orderly := appended.orderly
  exact {
    known := fun task sent => by
      rcases List.mem_append.mp sent with earlier | last
      · exact orderly.known task earlier
      · rw [List.mem_singleton.mp last]
        exact appended.known
    distinct := by
      rw [List.nodup_append]
      refine ⟨orderly.distinct, List.nodup_singleton _, ?_⟩
      intro task earlier last inLast same
      rw [same, List.mem_singleton.mp inLast] at earlier
      exact appended.unsent earlier
    ready := fun task sent => by
      rcases List.mem_append.mp sent with earlier | last
      · exact orderly.ready task earlier
      · rw [List.mem_singleton.mp last]
        exact isReady
    pending := fun task pending => by
      refine ⟨(orderly.pending task pending).1, fun sent => ?_⟩
      rcases List.mem_append.mp sent with earlier | last
      · exact (orderly.pending task pending).2 earlier
      · rw [List.mem_singleton.mp last] at pending
        exact notPending pending
    submitted := orderly.submitted
    waiting := fun other continuation found ready member => by
      obtain ⟨known, free, wasReady, unsent⟩ :=
        orderly.waiting other continuation found ready member
      refine ⟨known, free, wasReady, fun undispatched sent => ?_⟩
      rcases List.mem_append.mp sent with earlier | last
      · exact unsent undispatched earlier
      · exact appended.free other continuation found ready member
          (List.mem_singleton.mp last)
    once := orderly.once }

/-- Sending an appended task keeps the order. -/
theorem submitTask_orderly
    (primitives : Primitives)
    (environment : Environment)
    (taskId : TaskId) :
    Ensures
      (fun process => Appended taskId process ∧
        taskId ∈ process.run.submittedTasks)
      (submitTask primitives environment taskId)
      (fun _ => Orderly) (fun _ => Orderly) := by
  rintro process ⟨appended, submitted⟩
  have orderly := appended.orderly
  unfold submitTask
  cases process.payloads.lookup taskId with
  | none =>
      exact orderly
  | some task =>
      dsimp only
      cases TaskPreparation.prepareTaskResources primitives environment task with
      | error raised =>
          exact orderly
      | ok _ =>
          exact appended.sent submitted

theorem appendTask_orderly
    (render : Time → PyStr)
    (primitives : Primitives)
    (handling : DynamicHandling)
    (request : DynamicRun.AppendRequest)
    (payload : WorkflowTask)
    (data : PyDict) :
    Ensures
      (fun process => Orderly process ∧
        request.taskId ∉ process.run.tasks.map Prod.fst)
      (appendTask render primitives handling request payload data)
      (fun _ => Orderly) (fun _ => Orderly) := by
  refine ensures_get ?_
  rintro process ⟨orderly, fresh⟩
  rcases appendTask_cases render process.run request handling.now with
    ⟨checked, carries, state, result⟩ | ⟨carries, others⟩
  · have mutated : Orderly { process with run := checked } :=
      orderly.carry carries rfl rfl
    have appended : Appended request.taskId { process with
        run := checked.addTask request handling.now } :=
      mutated.added request handling.now (carries.taskIds ▸ fresh)
    dsimp only
    rw [state, result]
    refine ensures_via (fun _ => Appended request.taskId) ?_ fun _ => ?_
    · apply ensures_modify
      rintro current rfl
      exact appended
    refine ensures_via (fun _ => Appended request.taskId) ?_ fun _ => ?_
    · apply ensures_modify
      intro current here
      exact ⟨here.orderly.carry (.refl _) rfl rfl, here.known, here.unsent,
        here.free, here.ready⟩
    refine ensures_bind ((Ensures.of_recorded (fun _ =>
      recordEvent_recorded "append_task" data) Appended.recorded).weaken
      (fun _ here => here) (fun _ _ here => here)
      fun _ _ here => here.orderly) fun _ => ?_
    refine ensures_get fun current here => ?_
    split
    · next submitted =>
      exact (submitTask_orderly primitives handling.environment
        request.taskId).weaken (fun _ same => same ▸ ⟨here, submitted⟩)
        (fun _ _ after => after) fun _ _ after => after
    · exact ensures_pure fun _ same => same ▸ here.orderly
  · refine ensures_via (fun _ => Orderly) ?_ fun _ => ?_
    · apply ensures_modify
      rintro current rfl
      exact orderly.carry carries rfl rfl
    · cases outcome : (process.run.appendTask render request
          handling.now).result with
      | error raised =>
          exact ensures_throw fun _ after => after
      | ok result =>
          obtain ⟨taskId, idempotent⟩ := result
          cases idempotent with
          | true =>
              exact ensures_pure fun _ after => after
          | false =>
              exact absurd outcome (others taskId)

/-! ## One step -/

theorem Orderly.changeRetrying
    (orderly : Orderly process)
    (retrying : Option SchedulerMessage) :
    Orderly { process with retrying := retrying } :=
  orderly.carry (.refl _) rfl rfl

theorem Orderly.changeMoments
    (orderly : Orderly process)
    (moments : List Moment) :
    Orderly { process with moments := moments } :=
  orderly.carry (.refl _) rfl rfl

theorem conclude_orderly
    {call : MonitorCall Unit}
    (message : SchedulerMessage)
    (ensures : Ensures Orderly call (fun _ => Orderly) (fun _ => Orderly))
    (orderly : Orderly process) :
    Orderly (conclude message (call process)) := by
  cases outcome : call process with
  | ok _ after =>
      exact (ensures.returned orderly outcome).changeRetrying none
  | error raised after =>
      have ended := ensures.raised orderly outcome
      cases raised <;>
        first
        | exact ended.changeRetrying (some message)
        | exact ended.changeRetrying none

theorem leaving_orderly
    {handling : DynamicHandling}
    {call : MonitorCall Unit}
    {before : DynamicProcess → Prop}
    (ensures : Ensures before call (fun _ => Orderly) (fun _ => Orderly))
    (here : before { process with moments := handling.moments }) :
    Orderly (leaving handling call process) := by
  unfold leaving
  cases outcome : call { process with moments := handling.moments } with
  | ok _ after =>
      exact ensures.returned here outcome
  | error _ after =>
      exact ensures.raised here outcome

theorem handle_orderly
    (primitives : Primitives)
    (handling : DynamicHandling)
    (message : SchedulerMessage)
    (orderly : Orderly process) :
    Orderly (handle primitives handling message process) := by
  have here := orderly.changeMoments handling.moments
  unfold handle
  cases message with
  | pending data =>
      exact conclude_orderly _ (handlePending_orderly data) here
  | attempt messageType data =>
      dsimp only
      split
      · exact here.changeRetrying _
      · exact conclude_orderly _
          (handleAttempt_orderly primitives handling messageType data) here

/-- Every step keeps the order. -/
theorem step_orderly
    {render : Time → PyStr}
    {primitives : Primitives}
    {process after : DynamicProcess}
    {action : Action}
    (orderly : Orderly process)
    (stepped : step? render primitives process action = some after) :
    Orderly after := by
  cases action with
  | receive message handling =>
      simp only [step?, Option.ite_none_right_eq_some, Option.some.injEq] at stepped
      obtain ⟨_, rfl⟩ := stepped
      exact handle_orderly primitives handling message orderly
  | retry handling =>
      simp only [step?, Option.map_eq_some_iff] at stepped
      obtain ⟨message, _, rfl⟩ := stepped
      exact handle_orderly primitives handling message orderly
  | append request payload data handling =>
      simp only [step?, Option.ite_none_left_eq_some, Option.some.injEq] at stepped
      obtain ⟨fresh, rfl⟩ := stepped
      exact leaving_orderly (appendTask_orderly render primitives handling request
        payload data) ⟨orderly.changeMoments _, fresh⟩
  | call call handling =>
      simp only [step?, Option.some.injEq] at stepped
      subst stepped
      exact leaving_orderly (operate_orderly render handling call)
        (orderly.changeMoments _)

theorem created_orderly
    (runId : PyStr)
    (maxTasks : Int)
    (timeoutSeconds : Option Time)
    (fileContext : PyVal)
    (now : Time) :
    Orderly (created runId maxTasks timeoutSeconds fileContext now) where
  known := fun _ sent => absurd sent List.not_mem_nil
  distinct := List.nodup_nil
  ready := fun _ sent => absurd sent List.not_mem_nil
  pending := fun _ pending => absurd pending List.not_mem_nil
  submitted := fun _ submitted => absurd submitted List.not_mem_nil
  waiting := fun _ _ found => by cases found
  once := fun _ _ _ _ _ _ found => by cases found

/--
Each task has been sent at most once, and one that has parents only after all of
them had completed.
-/
structure SentInOrder (process : DynamicProcess) : Prop where
  once : process.sentTasks.Nodup
  ready :
    ∀ taskId ∈ process.sentTasks,
      ∀ parent ∈ (process.run.taskParents.lookup taskId).getD [],
        parent ∈ process.run.completedTasks

theorem Orderly.sentInOrder
    (orderly : Orderly process) :
    SentInOrder process where
  once := orderly.distinct
  ready := fun taskId sent parent precedes => by
    have isReady := orderly.ready taskId sent
    simp only [DynamicRun.isTaskReady, List.all_eq_true,
      decide_eq_true_eq] at isReady
    exact isReady parent precedes

end Maze.Core.DynamicMonitor
