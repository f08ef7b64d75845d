import Maze.Core.StaticCore

namespace Maze.Core.StaticCore

open Maze.Python
open Maze.Library.Fallible
open SchedulerMessage (finishIdentity finishIdentity_set)

/-!
# What the transactions of a static run do

Recording an event leaves the progress of a run as it is, so a transaction
changes the progress only by its mark, and one that is rolled back changes
nothing.
-/

/-- What no transaction touches. -/
structure Untouched (before after : StaticProcess) : Prop where
  workflow : after.workflow = before.workflow
  completedTasks : after.completedTasks = before.completedTasks
  sentTasks : after.sentTasks = before.sentTasks
  retrying : after.retrying = before.retrying

/-- The same tasks have succeeded, with the same continuations. -/
structure Follows (before after : StaticProcess) : Prop
    extends Untouched before after where
  gate :
    ∀ key, before.gate.terminal key = true → after.gate.terminal key = true
  succeeded : StaticRun.SameSucceeded before.run after.run
  continuations :
    ∀ taskId, after.run.continuation? taskId = before.run.continuation? taskId

/-- The progress, the gate and the continuations are as they were. -/
structure SameCore (before after : StaticProcess) : Prop
    extends Untouched before after where
  gate : after.gate = before.gate
  progress : StaticRun.SameProgress before.run after.run
  continuations :
    ∀ taskId, after.run.continuation? taskId = before.run.continuation? taskId

theorem Untouched.refl (process : StaticProcess) : Untouched process process :=
  ⟨rfl, rfl, rfl, rfl⟩

theorem Untouched.trans
    {first second third : StaticProcess}
    (early : Untouched first second)
    (late : Untouched second third) :
    Untouched first third where
  workflow := late.workflow.trans early.workflow
  completedTasks := late.completedTasks.trans early.completedTasks
  sentTasks := late.sentTasks.trans early.sentTasks
  retrying := late.retrying.trans early.retrying

theorem Follows.trans
    {first second third : StaticProcess}
    (early : Follows first second)
    (late : Follows second third) :
    Follows first third where
  toUntouched := early.toUntouched.trans late.toUntouched
  gate := fun key terminal => late.gate key (early.gate key terminal)
  succeeded := early.succeeded.trans late.succeeded
  continuations := fun taskId =>
    (late.continuations taskId).trans (early.continuations taskId)

theorem SameCore.refl (process : StaticProcess) : SameCore process process where
  toUntouched := Untouched.refl process
  gate := rfl
  progress := StaticRun.SameProgress.refl process.run
  continuations := fun _ => rfl

theorem SameCore.trans
    {first second third : StaticProcess}
    (early : SameCore first second)
    (late : SameCore second third) :
    SameCore first third where
  toUntouched := early.toUntouched.trans late.toUntouched
  gate := late.gate.trans early.gate
  progress := early.progress.trans late.progress
  continuations := fun taskId =>
    (late.continuations taskId).trans (early.continuations taskId)

theorem SameCore.follows
    {before after : StaticProcess}
    (same : SameCore before after) :
    Follows before after where
  toUntouched := same.toUntouched
  gate := fun key terminal => by rw [same.gate]; exact terminal
  succeeded := same.progress.toSameSucceeded
  continuations := same.continuations

/-- A change of the run that keeps its progress and its continuations. -/
theorem SameCore.changeRun
    {start process : StaticProcess}
    {run : StaticRun}
    (same : SameCore start process)
    (progress : StaticRun.SameProgress process.run run)
    (continuations :
      ∀ taskId, run.continuation? taskId = process.run.continuation? taskId) :
    SameCore start { process with run := run } where
  workflow := same.workflow
  completedTasks := same.completedTasks
  sentTasks := same.sentTasks
  retrying := same.retrying
  gate := same.gate
  progress := same.progress.trans progress
  continuations := fun taskId =>
    (continuations taskId).trans (same.continuations taskId)

/-- The log and the saves do not matter. -/
theorem SameCore.changeFiles
    {start process : StaticProcess}
    (same : SameCore start process)
    (log : EventLog.Log)
    (saves : List Bool) :
    SameCore start { process with log := log, saves := saves } where
  workflow := same.workflow
  completedTasks := same.completedTasks
  sentTasks := same.sentTasks
  retrying := same.retrying
  gate := same.gate
  progress := same.progress
  continuations := same.continuations

/-- The core is as it was, and these saves are to come. -/
def SameWith
    (start : StaticProcess)
    (saves : List Bool)
    (process : StaticProcess) : Prop :=
  SameCore start process ∧ process.saves = saves

theorem sameProgress_noteMetrics
    (eventType : PyStr)
    (data : PyDict)
    (run : StaticRun) :
    StaticRun.SameProgress run (noteMetrics eventType data run) ∧
      ∀ taskId, (noteMetrics eventType data run).continuation? taskId =
        run.continuation? taskId := by
  unfold noteMetrics
  split
  · constructor
    · apply StaticRun.sameProgress_updateNode
      · intro node
        split
        · rfl
        · split <;> rfl
      · intro node
        split
        · rfl
        · split <;> rfl
    · intro taskId
      rfl
  · exact ⟨StaticRun.SameProgress.refl run, fun _ => rfl⟩

section Recording

variable
  {start : StaticProcess}
  {saves : List Bool}

theorem persistRun_ensures :
    Ensures (SameWith start saves) persistRun
      (fun _ after => SameWith start saves.tail after ∧ saveFails saves = false)
      (fun raised after => raised = .osError ∧ SameCore start after) := by
  rintro process ⟨same, rfl⟩
  unfold persistRun
  cases failing : saveFails process.saves with
  | true =>
      exact ⟨rfl, same.changeFiles process.log process.saves.tail⟩
  | false =>
      cases process.run.isTerminal with
      | true =>
          exact ⟨⟨same.changeFiles { process.log with cache := none }
            process.saves.tail, rfl⟩, rfl⟩
      | false =>
          exact ⟨⟨same.changeFiles process.log process.saves.tail, rfl⟩, rfl⟩

theorem appendEventOnce_ensures
    (event : RunEvent)
    (write : EventLog.Write) :
    Ensures (SameWith start saves) (appendEventOnce event write)
      (fun _ => SameWith start saves) (fun _ => SameCore start) := by
  rintro process ⟨same, rfl⟩
  unfold appendEventOnce
  dsimp only
  cases (EventLog.appendEventOnce .static process.log (eventEntries event)
      write).2 with
  | ok =>
      exact ⟨same.changeFiles _ process.saves, rfl⟩
  | error raised =>
      exact same.changeFiles _ process.saves

theorem appendEvent_ensures
    {raises : PyErr → StaticProcess → Prop}
    (eventType : PyStr)
    (data : PyDict)
    (timestamp : PyStr) :
    Ensures (SameWith start saves) (appendEvent eventType data timestamp)
      (fun _ => SameWith start saves) raises := by
  rintro process ⟨same, rfl⟩
  refine ⟨same.changeRun ?_ fun _ => rfl, rfl⟩
  exact StaticRun.sameProgress_appendEvent process.run eventType data timestamp

/-- Recording an event keeps the progress, also where it raises. -/
theorem recordStaticEvent_ensures
    (eventType : PyStr)
    (data : PyDict)
    (timestamp : PyStr)
    (write : EventLog.Write) :
    Ensures (SameWith start saves)
      (recordStaticEvent eventType data timestamp write)
      (fun _ after => SameWith start saves.tail after ∧ saveFails saves = false)
      (fun _ => SameCore start) := by
  have noted : Ensures (SameWith start saves)
      (changeRun (noteMetrics eventType data))
      (fun _ => SameWith start saves) (fun _ => SameCore start) := by
    apply ensures_modify
    rintro process ⟨same, rfl⟩
    obtain ⟨progress, continuations⟩ :=
      sameProgress_noteMetrics eventType data process.run
    exact ⟨same.changeRun progress continuations, rfl⟩
  have saved : Ensures (SameWith start saves) persistRun
      (fun _ after => SameWith start saves.tail after ∧ saveFails saves = false)
      (fun _ => SameCore start) :=
    persistRun_ensures.weaken (fun _ same => same) (fun _ _ same => same)
      (fun _ _ raised => raised.2)
  refine ensures_bind noted fun _ => ?_
  refine ensures_bind (appendEvent_ensures eventType data timestamp) fun event => ?_
  refine ensures_bind (appendEventOnce_ensures event write) fun _ => ?_
  exact ensures_bind saved fun _ => ensures_pure fun _ same => same

theorem setMetrics_ensures
    (taskId : TaskId)
    (metrics : PyVal) :
    Ensures (SameWith start saves) (setMetrics taskId metrics)
      (fun _ after =>
        SameWith start saves after ∧ (start.run.node? taskId).isSome = true)
      (fun _ => SameCore start) := by
  rintro process ⟨same, rfl⟩
  unfold setMetrics
  cases known : (process.run.node? taskId).isSome with
  | true =>
      refine ⟨⟨same.changeRun ?_ fun _ => rfl, rfl⟩, ?_⟩
      · exact StaticRun.sameProgress_updateNode process.run taskId
          (fun _ => rfl) fun _ => Iff.rfl
      · exact (same.progress.known taskId).symm.trans known
  | false =>
      exact same

theorem observedMetrics_ensures
    {before : StaticProcess → Prop}
    (data : PyDict)
    (observation : PyVal) :
    Ensures before (observedMetrics data observation) (fun _ => before)
      (fun _ => before) := by
  unfold observedMetrics
  split
  · exact ensures_pure fun _ holds => holds
  · exact ensures_throw fun _ holds => holds

end Recording

/-! ## The transactions of unfinished tasks -/

/-- A started task keeps the progress of its run. -/
theorem commitStart_ensures
    {start : StaticProcess}
    {taskId : TaskId}
    (handling : Handling)
    (data : PyDict)
    (unfinished : start.run.hasSucceeded taskId = false) :
    Ensures (SameCore start) (commitStart handling taskId data)
      (fun _ => SameCore start) (fun _ => SameCore start) := by
  intro process same
  have marked : Ensures (SameWith start process.saves)
      (changeRun fun run => run.markTaskStarted taskId data)
      (fun _ => SameWith start process.saves) (fun _ => SameCore start) := by
    apply ensures_modify
    rintro current ⟨here, saves⟩
    refine ⟨here.changeRun ?_ fun _ => rfl, saves⟩
    exact StaticRun.sameProgress_markTaskStarted current.run data
      ((here.progress.succeeded taskId).trans unfinished)
  have committed : Ensures (SameWith start process.saves)
      (commitStart handling taskId data)
      (fun _ => SameCore start) (fun _ => SameCore start) := by
    refine ensures_bind marked fun _ => ?_
    refine ensures_bind (recordStaticEvent_ensures _ _ _ _) fun _ => ?_
    exact ensures_pure fun _ recorded => recorded.1.1
  exact committed process ⟨same, rfl⟩

/-- A retried task keeps the progress of its run. -/
theorem commitRetry_ensures
    {start : StaticProcess}
    {taskId : TaskId}
    (handling : Handling)
    (data : PyDict)
    (unfinished : start.run.hasSucceeded taskId = false) :
    Ensures (SameCore start) (commitRetry handling taskId data)
      (fun _ => SameCore start) (fun _ => SameCore start) := by
  intro process same
  have committed : Ensures (SameWith start process.saves)
      (commitRetry handling taskId data)
      (fun _ => SameCore start) (fun _ => SameCore start) := by
    have observed : Ensures (SameWith start process.saves)
        (returning handling.observation)
        (fun _ => SameWith start process.saves) (fun _ => SameCore start) :=
      (returning_ensures handling.observation).weaken (fun _ same => same)
        (fun _ _ same => same) (fun _ _ same => same.1)
    refine ensures_bind observed fun observation => ?_
    refine ensures_via (fun _ => SameWith start process.saves) ?_ fun _ => ?_
    · apply ensures_modify
      rintro current ⟨here, saves⟩
      refine ⟨here.changeRun ?_ fun _ => rfl, saves⟩
      exact StaticRun.sameProgress_markTaskRetry current.run _ _
        ((here.progress.succeeded taskId).trans unfinished)
    · refine ensures_bind (recordStaticEvent_ensures _ _ _ _) fun _ => ?_
      exact ensures_pure fun _ recorded => recorded.1.1
  exact committed process ⟨same, rfl⟩

/-- The run has ended, and no transaction has touched more. -/
def Ended (start process : StaticProcess) : Prop :=
  Follows start process ∧ process.run.isTerminal = true

theorem Ended.of_sameCore
    {start ended after : StaticProcess}
    (early : Ended start ended)
    (same : SameCore ended after) :
    Ended start after :=
  ⟨early.1.trans same.follows, same.progress.terminal.trans early.2⟩

theorem recordStaticEvent_ended
    (start : StaticProcess)
    (eventType : PyStr)
    (data : PyDict)
    (timestamp : PyStr)
    (write : EventLog.Write) :
    Ensures (Ended start) (recordStaticEvent eventType data timestamp write)
      (fun _ => Ended start) (fun _ => Ended start) := by
  intro process ended
  exact (recordStaticEvent_ensures eventType data timestamp write).weaken
    (fun _ same => same)
    (fun _ _ after => ended.of_sameCore after.1.1)
    (fun _ _ after => ended.of_sameCore after)
    process (⟨SameCore.refl process, rfl⟩ : SameWith process process.saves process)

theorem setMetrics_ended
    (start : StaticProcess)
    (taskId : TaskId)
    (metrics : PyVal) :
    Ensures (Ended start) (setMetrics taskId metrics)
      (fun _ => Ended start) (fun _ => Ended start) := by
  intro process ended
  exact (setMetrics_ensures taskId metrics).weaken (fun _ same => same)
    (fun _ _ after => ended.of_sameCore after.1.1)
    (fun _ _ after => ended.of_sameCore after)
    process (⟨SameCore.refl process, rfl⟩ : SameWith process process.saves process)

/-- The run of a failed task has ended. -/
theorem ended_of_failed
    {start process : StaticProcess}
    {taskId : TaskId}
    (error : PyVal)
    (data : PyDict)
    (follows : Follows start process)
    (unfinished : start.run.hasSucceeded taskId = false) :
    Ended start
      { process with run := process.run.markTaskFailed taskId error data } := by
  have still : process.run.hasSucceeded taskId = false :=
    (follows.succeeded.succeeded taskId).trans unfinished
  refine ⟨⟨⟨follows.workflow, follows.completedTasks, follows.sentTasks,
    follows.retrying⟩, follows.gate, ?_, follows.continuations⟩, ?_⟩
  · exact follows.succeeded.trans
      (StaticRun.sameSucceeded_markTaskFailed process.run error data still)
  · exact StaticRun.isTerminal_markTaskFailed process.run taskId error data

/-- A failed task ends its run. -/
theorem commitException_ensures
    {start : StaticProcess}
    {taskId : TaskId}
    (handling : Handling)
    (data : PyDict)
    (unfinished : start.run.hasSucceeded taskId = false) :
    Ensures (Follows start) (commitException handling taskId data)
      (fun _ => Ended start) (fun _ => Untouched start) := by
  refine ensures_bind ((returning_ensures handling.observation).weaken
    (fun _ follows => follows) (fun _ _ follows => follows)
    fun _ _ follows => follows.toUntouched) fun observation => ?_
  refine ensures_via (fun _ => Ended start) ?_ fun _ => ?_
  · apply ensures_modify
    intro process follows
    exact ended_of_failed _ _ follows unfinished
  · refine ensures_bind ((recordStaticEvent_ended start _ _ _ _).weaken
      (fun _ ended => ended) (fun _ _ ended => ended)
      fun _ _ ended => ended.1.toUntouched) fun _ => ?_
    exact ensures_pure fun _ ended => ended

/-! ## The transaction of a finished task -/

/-- The continuation of a task that has just finished. -/
structure Fresh (identity : PyDict) (continuation : FinishContinuation) : Prop where
  identity : continuation.attemptIdentity = identity
  completed : continuation.completed = false
  taskNotified : continuation.taskNotified = false
  workflowAdvanced : continuation.workflowAdvanced = false
  readyTaskIds : continuation.readyTaskIds = []
  sentTaskIds : continuation.sentTaskIds = []

/-- The continuation of a task has begun, and nothing else has changed. -/
structure Begun
    (start : StaticProcess)
    (taskId : TaskId)
    (identity : PyDict)
    (after : StaticProcess) : Prop
    extends Untouched start after where
  gate : after.gate = start.gate
  progress : StaticRun.SameProgress start.run after.run
  known : (start.run.node? taskId).isSome = true
  begun :
    ∃ continuation, Fresh identity continuation ∧
      ∀ other, after.run.continuation? other =
        if other = taskId then some continuation
        else start.run.continuation? other

/-- A recorded finish takes one save and begins a continuation. -/
theorem commitSuccess_ensures
    {start : StaticProcess}
    {saves : List Bool}
    (handling : Handling)
    (taskId : TaskId)
    (data : PyDict)
    (manifest metrics observation : PyVal) :
    Ensures (SameWith start saves)
      (commitSuccess handling taskId data manifest metrics observation)
      (fun _ after =>
        Begun start taskId (finishIdentity data) after ∧
          after.saves = saves.tail ∧ saveFails saves = false)
      (fun _ => Untouched start) := by
  have identity : ∀ noted : PyDict,
      (noted = (data.set "metrics" metrics).set "resource_observation"
          observation ∨
        noted = ((data.set "metrics" metrics).set "resource_observation"
          observation).set "file_manifest" manifest) →
      finishIdentity noted = finishIdentity data := by
    rintro noted (rfl | rfl)
    · rw [finishIdentity_set _ _ _ (by decide) (by decide) (by decide),
        finishIdentity_set _ _ _ (by decide) (by decide) (by decide)]
    · rw [finishIdentity_set _ _ _ (by decide) (by decide) (by decide),
        finishIdentity_set _ _ _ (by decide) (by decide) (by decide),
        finishIdentity_set _ _ _ (by decide) (by decide) (by decide)]
  unfold commitSuccess
  dsimp only
  have choice : ∀ noted : PyDict,
      (noted = (data.set "metrics" metrics).set "resource_observation"
          observation ∨
        noted = ((data.set "metrics" metrics).set "resource_observation"
          observation).set "file_manifest" manifest) →
      Ensures (SameWith start saves)
        (do
          setMetrics taskId metrics
          let event ← recordStaticEvent "finish_task" noted handling.timestamp
            handling.write
          changeRun fun run =>
            run.setContinuation taskId (newContinuation noted event)
          returning handling.published)
        (fun _ after =>
          Begun start taskId (finishIdentity data) after ∧
            after.saves = saves.tail ∧ saveFails saves = false)
        (fun _ => Untouched start) := by
    intro noted shape
    refine ensures_bind ((setMetrics_ensures taskId metrics).weaken
      (fun _ same => same) (fun _ _ after => after)
      fun _ _ same => same.toUntouched) fun _ => ?_
    by_cases known : (start.run.node? taskId).isSome = true
    · refine ensures_bind ((recordStaticEvent_ensures "finish_task" noted
        handling.timestamp handling.write).weaken (fun _ after => after.1)
        (fun _ _ after => after) fun _ _ same => same.toUntouched)
        fun event => ?_
      refine ensures_via
        (fun _ after =>
          Begun start taskId (finishIdentity data) after ∧
            after.saves = saves.tail ∧ saveFails saves = false) ?_ fun _ => ?_
      · apply ensures_modify
        rintro process ⟨⟨same, here⟩, saved⟩
        refine ⟨{
          workflow := same.workflow
          completedTasks := same.completedTasks
          sentTasks := same.sentTasks
          retrying := same.retrying
          gate := same.gate
          progress := same.progress.trans
            (StaticRun.sameProgress_setContinuation _ _ _)
          known := known
          begun := ⟨newContinuation noted event,
            ⟨identity noted shape, rfl, rfl, rfl, rfl, rfl⟩, ?_⟩ },
          here, saved⟩
        intro other
        rw [StaticRun.continuation?_setContinuation, same.continuations]
      · exact (returning_ensures handling.published).weaken
          (fun _ begun => begun) (fun _ _ begun => begun)
          (fun _ _ begun => begun.1.toUntouched)
    · intro process impossible
      exact absurd impossible.2 known
  split
  · exact choice _ (Or.inr rfl)
  · exact choice _ (Or.inl rfl)

theorem terminal_rememberedFailure
    (gate : AttemptGate.Gate)
    (key other : AttemptGate.TaskKey)
    (error : PyVal)
    (terminal : gate.terminal other = true) :
    (match gate.taskAttempts key with
      | some record =>
          gate.remember key
            { record with eventType := .taskException, error := error }
      | none => gate).terminal other = true := by
  cases remembered : gate.taskAttempts key with
  | none =>
      exact terminal
  | some record =>
      by_cases same : other = key
      · subst same
        simpa [AttemptGate.Gate.terminal, remembered] using terminal
      · simpa [AttemptGate.Gate.terminal, same] using terminal

/-- A finish without the final outputs ends the run. -/
theorem commitFailure_ensures
    {start : StaticProcess}
    {taskId : TaskId}
    (handling : Handling)
    (data : PyDict)
    (outputError metrics observation : PyVal)
    (unfinished : start.run.hasSucceeded taskId = false) :
    Ensures (Follows start)
      (commitFailure handling taskId data outputError metrics observation)
      (fun _ => Ended start) (fun _ => Untouched start) := by
  unfold commitFailure
  refine ensures_via (fun _ => Follows start) ?_ fun _ => ?_
  · apply ensures_modify
    intro process follows
    exact ⟨⟨follows.workflow, follows.completedTasks, follows.sentTasks,
      follows.retrying⟩, fun key terminal => terminal_rememberedFailure _ _ _ _
        (follows.gate key terminal), follows.succeeded, follows.continuations⟩
  refine ensures_via (fun _ => Ended start) ?_ fun _ => ?_
  · apply ensures_modify
    intro process follows
    exact ended_of_failed _ _ follows unfinished
  refine ensures_bind ((setMetrics_ended start taskId metrics).weaken
    (fun _ ended => ended) (fun _ _ ended => ended)
    fun _ _ ended => ended.1.toUntouched) fun _ => ?_
  refine ensures_bind ((recordStaticEvent_ended start _ _ _ _).weaken
    (fun _ ended => ended) (fun _ _ ended => ended)
    fun _ _ ended => ended.1.toUntouched) fun _ => ?_
  exact ensures_pure fun _ ended => ended

/-- A transaction of a finish begins a continuation, or the run has ended. -/
theorem commitFinish_ensures
    {start : StaticProcess}
    {taskId : TaskId}
    (rendering : Rendering)
    (handling : Handling)
    (data : PyDict)
    (unfinished : start.run.hasSucceeded taskId = false) :
    Ensures (fun process => process = start)
      (commitFinish rendering handling taskId data)
      (fun succeeded after =>
        (succeeded = false ∧ Ended start after) ∨
          (succeeded = true ∧ Untouched start after ∧ after.gate = start.gate ∧
            StaticRun.OneMore start.run taskId after.run ∧
            after.saves = start.saves.tail ∧ saveFails start.saves = false ∧
            ∃ continuation, Fresh (finishIdentity data) continuation ∧
              ∀ other, after.run.continuation? other =
                if other = taskId then some continuation
                else start.run.continuation? other))
      (fun _ => Untouched start) := by
  refine ensures_bind ((returning_ensures handling.manifest).weaken
    (fun _ same => same) (fun _ _ same => same) ?_) fun manifest => ?_
  · rintro _ process rfl
    exact Untouched.refl process
  let marked := start.run.markTaskFinished rendering taskId manifest data
  let finished : StaticProcess := { start with run := marked.1 }
  obtain ⟨runId, continuations⟩ := StaticRun.markTaskFinished_kept rendering
    start.run taskId manifest data
  have touched : ∀ after, Untouched finished after → Untouched start after :=
    fun after same => ⟨same.workflow, same.completedTasks, same.sentTasks,
      same.retrying⟩
  refine ensures_via
    (fun outputError process =>
      outputError = marked.2 ∧ SameWith finished start.saves process) ?_
    fun outputError => ?_
  · rintro process rfl
    exact ⟨rfl, SameCore.refl finished, rfl⟩
  refine ensures_bind ((returning_ensures handling.observation).weaken
    (fun _ same => same) (fun _ _ same => same)
    fun _ _ same => touched _ same.2.1.toUntouched) fun observation => ?_
  refine ensures_bind ((observedMetrics_ensures data observation).weaken
    (fun _ same => same) (fun _ _ same => same)
    fun _ _ same => touched _ same.2.1.toUntouched) fun metrics => ?_
  by_cases agreed : outputError = marked.2
  case neg =>
    intro process impossible
    exact absurd impossible.1 agreed
  subst agreed
  cases output : marked.2 with
  | none =>
      refine ensures_bind ((commitSuccess_ensures handling taskId data manifest
        metrics observation).weaken (fun _ same => same.2)
        (fun _ _ begun => begun) fun _ => touched) fun _ => ?_
      apply ensures_pure
      rintro after ⟨begun, saves, saved⟩
      have more := StaticRun.oneMore_markTaskFinished rendering unfinished
        output begun.known
      obtain ⟨continuation, fresh, lookup⟩ := begun.begun
      refine Or.inr ⟨rfl, touched after begun.toUntouched, begun.gate, ?_,
        saves, saved, continuation, fresh, ?_⟩
      · exact {
          runId := begun.progress.runId.trans more.runId
          known := fun other =>
            (begun.progress.known other).trans (more.known other)
          named := more.named
          succeeded := fun other =>
            (begun.progress.succeeded other).trans (more.succeeded other) }
      · intro other
        rw [lookup other, StaticRun.continuation?, StaticRun.continuation?,
          continuations]
  | some error =>
      obtain ⟨succeeded, ended⟩ := StaticRun.markTaskFinished_failed rendering
        unfinished output
      have follows : Follows start finished := by
        refine ⟨⟨rfl, rfl, rfl, rfl⟩, fun _ terminal => terminal, succeeded, ?_⟩
        intro other
        rw [StaticRun.continuation?, StaticRun.continuation?, continuations]
      refine ensures_bind ((commitFailure_ensures handling data error metrics
        observation unfinished).weaken
        (fun _ same => follows.trans same.2.1.follows)
        (fun _ _ ended => ended) fun _ _ untouched => untouched) fun _ => ?_
      exact ensures_pure fun _ ended => Or.inl ⟨rfl, ended⟩

end Maze.Core.StaticCore
