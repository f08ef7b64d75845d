import Maze.Scheduler.StopResumed

namespace Maze.Scheduler.StopRequest

open Maze.Python
open Maze.Library
open Maze.Library.Transition
open Maze.Scheduler.TaskLeases (Status)
open Maze.Scheduler.ModelInstances (LlmInstanceManager ModelKey ModelRoute)

/-!
# After a workflow has been stopped

The receive thread may still put runtimes of a stopped workflow into the ready queues,
and a retry that was on its way may put one back. The submit loop takes them out again
without dispatching them. `_retry_or_fail_task` withdraws the mark of a workflow whose
task is retried, so the mark lasts because no runtime of a stopped workflow reaches it:
the workflow is not registered, and heads and waiters are checked before.
-/

namespace State

/-! ## The steps of the other threads -/

/-- `_retry_or_fail_task`; whether the task is retried is decided elsewhere. -/
def retryOrFailTask
    (strings : Strings)
    (now : ℚ)
    (retried : Bool)
    (x : ℕ)
    (state : State) :
    State :=
  match state.tasks.get? x with
  | none => state
  | some task =>
      let marked := state.releaseModelRoute strings now x
      if retried then
        -- The mark is added and withdrawn again.
        { marked.releaseLease x with
          tasks := marked.tasks.modify x fun task => { task with status := .retrying }
          stoppedWorkflows := marked.stoppedWorkflows.filter (· ≠ task.workflowId) }
      else
        let removed :=
          { marked with
            stoppedWorkflows :=
              marked.stoppedWorkflows.insert task.workflowId }.removeModelWaiters
                task.workflowId
        let running := removed.runningOf task.workflowId
        let released := (releaseModelRoutes strings now none running
          { removed with workflows := removed.workflows.erase task.workflowId }).2
        (releaseTaskResource none running released).2

/-- The runtime is in the runtime tables. -/
def isRegistered
    (state : State)
    (x : ℕ) :
    Bool :=
  (state.tasks.get? x).any fun task =>
    (state.workflows.get? task.workflowId).any fun workflow =>
      (workflow.entries.map Prod.snd).contains x

/-- What the submit loop does with a head whose workflow is not stopped. -/
inductive HeadChoice where
  /-- The head is dispatched with its lease, perhaps through a model route. -/
  | dispatch (taskId leaseId : Identifier) (route : Option ModelRoute)
  /-- `_wait_for_model`. -/
  | waitForModel (key : PyStr × PyStr)
  /-- Another runtime of the task is registered. -/
  | duplicate
  /-- The head exceeds the capacity. -/
  | fail (retried : Bool)

/-- A step of another thread, or a stop of another workflow. -/
inductive Step where
  /-- The receive thread puts a new runtime into its queue. -/
  | runTask (x : ℕ) (task : Task)
  /-- A `task_retry` message has been sent. -/
  | enqueueRetry (x : ℕ)
  | submitHead (x : ℕ) (choice : HeadChoice)
  | wakeModelWaiters (key : PyStr × PyStr)
  /-- `_fail_model_waiters`, with the decision about each of them. -/
  | failModelWaiters (key : PyStr × PyStr) (retried : ℕ → Bool)
  /-- Registered runtimes end with an error, one after the other. -/
  | failTasks (tasks : List (ℕ × Bool))
  /-- The result of a runtime. -/
  | finishTask (x : ℕ)
  | stopWorkflow (fault : Option Fault) (workflowId : Identifier)

/-- `_submit_thread` for the head of a queue. -/
def submitHead
    (strings : Strings)
    (now : ℚ)
    (x : ℕ)
    (task : Task)
    (choice : HeadChoice)
    (state : State) :
    State :=
  let popped := { state with taskQueues := state.taskQueues.erase x }
  if task.workflowId ∈ state.stoppedWorkflows then
    popped.releaseModelRoute strings now x
  else
    match choice with
    | .dispatch taskId leaseId route =>
        { popped with
          tasks := state.tasks.set x
            { task with status := .running, leaseId := some leaseId, modelRoute := route }
          workflows := state.workflows.set task.workflowId
            (((state.workflows.get? task.workflowId).getD .empty).set taskId x)
          dispatched := state.dispatched ++ [x] }
    | .waitForModel key =>
        { popped with
          tasks := state.tasks.set x { task with status := .pending }
          modelWaiting := state.modelWaiting.set key
            ((state.modelWaiting.get? key).getD [] ++ [x]) }
    | .duplicate => popped.releaseModelRoute strings now x
    | .fail retried => popped.retryOrFailTask strings now retried x

/-- `_fail_model_waiters` passes over the tasks of stopped workflows. -/
def failWaiter
    (strings : Strings)
    (now : ℚ)
    (retried : ℕ → Bool)
    (state : State)
    (x : ℕ) :
    State :=
  if (state.tasks.get? x).any fun task => task.workflowId ∈ state.stoppedWorkflows then
    state
  else
    state.retryOrFailTask strings now (retried x) x

end State

/-- One step, if it can be taken. -/
def step?
    (strings : Strings)
    (state : State) :
    ℚ × State.Step → Option State
  | (_, .runTask x task) =>
      if (state.tasks.get? x).isNone then
        some { state with
          tasks := state.tasks.set x task
          taskQueues := state.taskQueues ++ [x] }
      else
        none
  | (_, .enqueueRetry x) => some { state with taskQueues := state.taskQueues ++ [x] }
  | (now, .submitHead x choice) =>
      match state.tasks.get? x with
      | some task =>
          if x ∈ state.taskQueues then some (state.submitHead strings now x task choice)
          else none
      | none => none
  | (_, .wakeModelWaiters key) => some (state.wakeModelWaiters key)
  | (now, .failModelWaiters key retried) =>
      some (((state.modelWaiting.get? key).getD []).foldl
        (State.failWaiter strings now retried)
        { state with modelWaiting := state.modelWaiting.erase key })
  | (now, .failTasks tasks) =>
      if ∀ failed ∈ tasks, state.isRegistered failed.1 = true then
        some (tasks.foldl
          (fun state failed => state.retryOrFailTask strings now failed.2 failed.1) state)
      else
        none
  | (now, .finishTask x) =>
      if state.isRegistered x then
        let released := (state.releaseModelRoute strings now x).releaseLease x
        some { released with
          tasks := released.tasks.modify x fun task => { task with status := .finished } }
      else
        none
  | (now, .stopWorkflow fault workflowId) =>
      some (state.stopWorkflowRequest strings now fault workflowId).2

namespace State

/-! ## What the steps keep -/

/-- The workflow stays marked and unregistered, and none of its runtimes is dispatched. -/
structure Apart
    (workflowId : Identifier)
    (state state' : State) : Prop where
  runtimes : ∀ other x, state.isOf other x = true → state'.isOf other x = true
  marked : workflowId ∈ state.stoppedWorkflows → workflowId ∈ state'.stoppedWorkflows
  removed : state.workflows.get? workflowId = none →
    state'.workflows.get? workflowId = none
  dispatched : ∃ new, state'.dispatched = state.dispatched ++ new ∧
    ∀ x ∈ new, ∃ other, other ≠ workflowId ∧ state'.isOf other x = true

section Apart

variable {workflowId : Identifier} {state next later : State}

theorem Apart.of_same
    (runtimes : ∀ other x, state.isOf other x = true → next.isOf other x = true)
    (marked : workflowId ∈ state.stoppedWorkflows → workflowId ∈ next.stoppedWorkflows)
    (removed : state.workflows.get? workflowId = none →
      next.workflows.get? workflowId = none)
    (dispatched : next.dispatched = state.dispatched) :
    Apart workflowId state next where
  runtimes := runtimes
  marked := marked
  removed := removed
  dispatched := ⟨[], by rw [dispatched, List.append_nil], fun _ member => by cases member⟩

theorem Apart.refl : Apart workflowId state state :=
  .of_same (fun _ _ => id) id id rfl

theorem Apart.trans
    (first : Apart workflowId state next)
    (second : Apart workflowId next later) :
    Apart workflowId state later where
  runtimes := fun other x belongs =>
    second.runtimes other x (first.runtimes other x belongs)
  marked := fun marked => second.marked (first.marked marked)
  removed := fun removed => second.removed (first.removed removed)
  dispatched := by
    obtain ⟨new, appended, apart⟩ := first.dispatched
    obtain ⟨new', appended', apart'⟩ := second.dispatched
    refine ⟨new ++ new', by rw [appended', appended, List.append_assoc], fun x member => ?_⟩
    rcases List.mem_append.mp member with member | member
    · obtain ⟨other, differ, belongs⟩ := apart x member
      exact ⟨other, differ, second.runtimes other x belongs⟩
    · exact apart' x member

/-- A runtime belongs to one workflow. -/
theorem isOf_eq_true_iff
    {x : ℕ} :
    state.isOf workflowId x = true ↔
      ∃ task, state.tasks.get? x = some task ∧ task.workflowId = workflowId := by
  cases found : state.tasks.get? x <;> simp [isOf, found]

theorem Apart.releaseModelRoute
    (strings : Strings)
    (now : ℚ)
    (x : ℕ) :
    Apart workflowId state (state.releaseModelRoute strings now x) := by
  obtain ⟨_, workflows, stopped, _, dispatched, sameOf, _⟩ :=
    state.releaseModelRoute_frame strings now x
  refine .of_same (fun other y belongs => ?_) (fun marked => stopped ▸ marked)
    (fun removed => workflows ▸ removed) dispatched
  rw [sameOf]
  exact belongs

theorem Apart.releaseLease (x : ℕ) :
    Apart workflowId state (state.releaseLease x) := by
  obtain ⟨frame, _⟩ := state.releaseLease_frame x
  rw [← frame]
  exact .of_same (fun _ _ => id) id id rfl

theorem Apart.popLease (x : ℕ) :
    Apart workflowId state (state.popLease x) := by
  obtain ⟨frame, _⟩ := state.popLease_frame x
  rw [← frame]
  exact .of_same (fun _ _ => id) id id rfl

theorem Apart.releaseModelRoutes
    (strings : Strings)
    (now : ℚ)
    (fault : Option ℕ)
    (tasks : List ℕ) :
    Apart workflowId state (State.releaseModelRoutes strings now fault tasks state).2 := by
  induction tasks generalizing fault state with
  | nil =>
      rw [State.releaseModelRoutes]
      exact .refl
  | cons x rest inductionHypothesis =>
      by_cases raises : fault = some 0
      · subst raises
        exact .refl
      · rw [releaseModelRoutes_cons raises]
        exact (Apart.releaseModelRoute strings now x).trans
          (inductionHypothesis (fault.map Nat.pred))

theorem Apart.releaseTaskResource
    (fault : Option (ℕ × Bool))
    (tasks : List ℕ) :
    Apart workflowId state (State.releaseTaskResource fault tasks state).2 := by
  induction tasks generalizing fault state with
  | nil =>
      rw [State.releaseTaskResource]
      exact .refl
  | cons x rest inductionHypothesis =>
      by_cases raises : ∃ popped, fault = some (0, popped)
      · obtain ⟨popped, rfl⟩ := raises
        cases popped with
        | false => exact .refl
        | true => exact .popLease x
      · rw [releaseTaskResource_cons fun popped raised => raises ⟨popped, raised⟩]
        exact (Apart.releaseLease x).trans (inductionHypothesis _)

/-- Marking a workflow and removing its waiters. -/
theorem Apart.mark
    (other : Identifier) :
    Apart workflowId state
      ({ state with
        stoppedWorkflows := state.stoppedWorkflows.insert other }.removeModelWaiters
          other) :=
  .of_same (fun _ _ => id) List.mem_insert_of_mem id rfl

/-- Taking a workflow out of the runtime tables. -/
theorem get?_erase_of_none
    {other : Identifier}
    (removed : state.workflows.get? workflowId = none) :
    (state.workflows.erase other).get? workflowId = none := by
  rw [Table.get?_erase, removed]
  split <;> rfl

/-- A change of a runtime that keeps its workflow. -/
theorem isOf_modify
    (change : Task → Task)
    (keeps : ∀ task, (change task).workflowId = task.workflowId)
    (x : ℕ)
    (other : Identifier)
    (y : ℕ) :
    State.isOf { state with tasks := state.tasks.modify x change } other y =
      state.isOf other y := by
  simp only [isOf, Table.get?_modify]
  split
  · cases state.tasks.get? y <;> simp [keeps]
  · rfl

/-- A runtime that is set anew keeps its workflow. -/
theorem isOf_set
    {x : ℕ}
    {task : Task}
    (task' : Task)
    (found : state.tasks.get? x = some task)
    (keeps : task'.workflowId = task.workflowId)
    (other : Identifier)
    (y : ℕ) :
    State.isOf { state with tasks := state.tasks.set x task' } other y =
      state.isOf other y := by
  simp only [isOf, Table.get?_set]
  split
  · next same =>
    simp [same, found, keeps]
  · rfl

/-- The runtime belongs to another workflow. -/
def IsForeign
    (workflowId : Identifier)
    (state : State)
    (x : ℕ) : Prop :=
  ∃ other, other ≠ workflowId ∧ state.isOf other x = true

theorem IsForeign.of_found
    {x : ℕ}
    {task : Task}
    (found : state.tasks.get? x = some task)
    (differ : task.workflowId ≠ workflowId) :
    IsForeign workflowId state x :=
  ⟨task.workflowId, differ, isOf_eq_true_iff.mpr ⟨task, found, rfl⟩⟩

/-- The failure of a task of another workflow. -/
theorem Apart.retryOrFailTask
    {x : ℕ}
    (strings : Strings)
    (now : ℚ)
    (retried : Bool)
    (foreign : IsForeign workflowId state x) :
    Apart workflowId state (state.retryOrFailTask strings now retried x) := by
  obtain ⟨other, differ, belongs⟩ := foreign
  obtain ⟨task, found, rfl⟩ := isOf_eq_true_iff.mp belongs
  have released : Apart workflowId state (state.releaseModelRoute strings now x) :=
    .releaseModelRoute strings now x
  unfold State.retryOrFailTask
  rw [found]
  dsimp only
  split
  · refine released.trans (.of_same (fun other y here => ?_) (fun marked => ?_) ?_ ?_)
    · exact (isOf_modify (fun task => { task with status := .retrying }) (fun _ => rfl)
        x other y).trans here
    · exact List.mem_filter.mpr ⟨marked, by simpa using Ne.symm differ⟩
    · have leased : Apart workflowId (state.releaseModelRoute strings now x)
          ((state.releaseModelRoute strings now x).releaseLease x) := .releaseLease x
      exact leased.removed
    · rw [← ((state.releaseModelRoute strings now x).releaseLease_frame x).1]
  · refine released.trans ((Apart.mark task.workflowId).trans (.trans ?_
      ((Apart.releaseModelRoutes strings now none _).trans
        (Apart.releaseTaskResource none _))))
    exact .of_same (fun _ _ => id) id get?_erase_of_none rfl

/-- Runtimes of other workflows fail one after the other. -/
theorem Apart.failTasks
    (strings : Strings)
    (now : ℚ)
    (tasks : List (ℕ × Bool))
    (foreign : ∀ failed ∈ tasks, IsForeign workflowId state failed.1) :
    Apart workflowId state (tasks.foldl
      (fun state failed => state.retryOrFailTask strings now failed.2 failed.1) state) := by
  induction tasks generalizing state with
  | nil => exact .refl
  | cons failed rest inductionHypothesis =>
      have first := Apart.retryOrFailTask strings now failed.2
        (foreign failed List.mem_cons_self)
      refine first.trans (inductionHypothesis fun later member => ?_)
      obtain ⟨other, differ, belongs⟩ := foreign later (List.mem_cons_of_mem _ member)
      exact ⟨other, differ, first.runtimes other later.1 belongs⟩

/-- The waiters of a stopped workflow are passed over. -/
theorem Apart.failModelWaiters
    (strings : Strings)
    (now : ℚ)
    (retried : ℕ → Bool)
    (waiting : List ℕ)
    (marked : workflowId ∈ state.stoppedWorkflows) :
    Apart workflowId state
      (waiting.foldl (State.failWaiter strings now retried) state) := by
  induction waiting generalizing state with
  | nil => exact .refl
  | cons x rest inductionHypothesis =>
      have first : Apart workflowId state (state.failWaiter strings now retried x) := by
        unfold State.failWaiter
        split
        · exact .refl
        · next unmarked =>
          cases found : state.tasks.get? x with
          | none =>
              rw [State.retryOrFailTask, found]
              exact .refl
          | some task =>
              have differ : task.workflowId ≠ workflowId := by
                rintro rfl
                simp [found, marked] at unmarked
              exact .retryOrFailTask strings now (retried x) (.of_found found differ)
      exact first.trans (inductionHypothesis (first.marked marked))

theorem Apart.wakeModelWaiters
    (key : PyStr × PyStr) :
    Apart workflowId state (state.wakeModelWaiters key) := by
  obtain ⟨tasks, woken, lookup⟩ := State.foldl_restoreWaiter
    { state with modelWaiting := state.modelWaiting.erase key }
    ((state.modelWaiting.get? key).getD [])
  rw [State.wakeModelWaiters, woken]
  refine .of_same (fun other y belongs => ?_) id id rfl
  obtain ⟨task, found, rfl⟩ := isOf_eq_true_iff.mp belongs
  have found' := lookup y
  rw [found] at found'
  refine isOf_eq_true_iff.mpr ⟨_, found', ?_⟩
  dsimp only
  split <;> rfl

/-- A stage keeps the workflow apart. -/
theorem Apart.thenStage
    {other : Identifier}
    {stage : CleanupState → State → Bool × State}
    {result : Bool × State}
    (keeps : ∀ cleanup state, Apart workflowId state (stage cleanup state).2)
    (before : Apart workflowId state result.2) :
    Apart workflowId state (State.thenStage other stage result).2 := by
  unfold State.thenStage
  split
  · exact before.trans (keeps _ _)
  · exact before

theorem Apart.setCleanup
    (other : Identifier)
    (cleanup : CleanupState) :
    Apart workflowId state (state.setCleanup other cleanup) :=
  .of_same (fun _ _ => id) id id rfl

theorem Apart.stages
    (strings : Strings)
    (now : ℚ)
    (fault : Option Fault)
    (other : Identifier) :
    Apart workflowId state
      ([releaseRoutesStage strings now fault other,
        releaseLeasesStage fault other,
        clearWorkflowStage fault other,
        releaseDagStage fault other].foldl
          (fun result stage => State.thenStage other stage result) (true, state)).2 := by
  have routes (cleanup : CleanupState) (state : State) : Apart workflowId state
      (releaseRoutesStage strings now fault other cleanup state).2 := by
    unfold releaseRoutesStage
    split
    · exact .refl
    · dsimp only
      split
      · exact (Apart.releaseModelRoutes strings now _ _).trans (.setCleanup other _)
      · exact .releaseModelRoutes strings now _ _
  have leases (cleanup : CleanupState) (state : State) : Apart workflowId state
      (releaseLeasesStage fault other cleanup state).2 := by
    unfold releaseLeasesStage
    split
    · exact .refl
    · dsimp only
      split
      · exact (Apart.releaseTaskResource _ _).trans (.setCleanup other _)
      · exact .releaseTaskResource _ _
  have cleared (cleanup : CleanupState) (state : State) : Apart workflowId state
      (clearWorkflowStage fault other cleanup state).2 := by
    unfold clearWorkflowStage
    split
    · exact .refl
    · split
      · exact .refl
      · refine .of_same (fun _ _ => id) id (fun removed => ?_) rfl
        dsimp only [State.setCleanup]
        split
        · exact removed
        · exact get?_erase_of_none removed
  have dag (cleanup : CleanupState) (state : State) : Apart workflowId state
      (releaseDagStage fault other cleanup state).2 := by
    unfold releaseDagStage
    split
    · exact .refl
    · split
      · exact .refl
      · exact .of_same (fun _ _ => id) id id rfl
  exact .thenStage dag (.thenStage cleared (.thenStage leases (.thenStage routes .refl)))

/-- A stop of this or another workflow. -/
theorem Apart.stopWorkflowRequest
    (strings : Strings)
    (now : ℚ)
    (fault : Option Fault)
    (other : Identifier) :
    Apart workflowId state (state.stopWorkflowRequest strings now fault other).2 := by
  let marked :=
    { state with
      stoppedWorkflows := state.stoppedWorkflows.insert other }.removeModelWaiters other
  let cleared :=
    { marked with
      llmInstanceManager := marked.llmInstanceManager.clearWorkflowState other.val }
  have begun : Apart workflowId state cleared :=
    (Apart.mark other).trans (.of_same (fun _ _ => id) id id rfl)
  have cancelled : Apart workflowId cleared
      (if (cleared.workflowCleanupStates.get? other).isNone then
        cleared.cancelWorkflow other
      else
        cleared) := by
    split
    · exact .of_same (fun _ _ => id) id get?_erase_of_none rfl
    · exact .refl
  have staged := begun.trans (cancelled.trans (.stages strings now fault other))
  have finish {result : Bool × State} (reached : Apart workflowId state result.2) :
      Apart workflowId state
        (if result.1 then
          (true, { result.2 with
            workflowCleanupStates := result.2.workflowCleanupStates.erase other })
        else
          result).2 := by
    split
    · exact reached.trans (.of_same (fun _ _ => id) id id rfl)
    · exact reached
  unfold State.stopWorkflowRequest
  dsimp only
  split
  · exact .mark other
  · split
    · exact begun
    · exact finish staged

end Apart

/-! ## Every step after a stop -/

section Steps

variable {workflowId : Identifier} {state next : State}

/-- The submit loop dispatches only heads of workflows that are not stopped. -/
theorem Apart.submitHead
    {strings : Strings}
    {now : ℚ}
    {x : ℕ}
    {task : Task}
    (choice : HeadChoice)
    (marked : workflowId ∈ state.stoppedWorkflows)
    (found : state.tasks.get? x = some task) :
    Apart workflowId state (state.submitHead strings now x task choice) := by
  let popped : State := { state with taskQueues := state.taskQueues.erase x }
  have pop : Apart workflowId state popped := .of_same (fun _ _ => id) id id rfl
  unfold State.submitHead
  dsimp only
  split
  · exact pop.trans (.releaseModelRoute strings now x)
  · next unmarked =>
    have differ : task.workflowId ≠ workflowId := by
      rintro rfl
      exact unmarked marked
    cases choice with
    | dispatch taskId leaseId route =>
        have sameOf (other : Identifier) (y : ℕ) := isOf_set
          { task with status := .running, leaseId := some leaseId, modelRoute := route }
          found rfl other y
        exact
          { runtimes := fun other y belongs => (sameOf other y).trans belongs
            marked := id
            removed := fun removed => by
              dsimp only
              rw [Table.get?_set, if_neg (Ne.symm differ)]
              exact removed
            dispatched := ⟨[x], rfl, fun y member => by
              obtain rfl := List.mem_singleton.mp member
              exact ⟨task.workflowId, differ, (sameOf task.workflowId y).trans
                (isOf_eq_true_iff.mpr ⟨task, found, rfl⟩)⟩⟩ }
    | waitForModel key =>
        exact .of_same (fun other y belongs =>
          (isOf_set { task with status := .pending } found rfl other y).trans belongs)
          id id rfl
    | duplicate => exact pop.trans (.releaseModelRoute strings now x)
    | fail retried =>
        exact pop.trans (.retryOrFailTask strings now retried (.of_found found differ))

/-- A registered runtime is not one of a workflow that is not registered. -/
theorem IsForeign.of_registered
    {x : ℕ}
    (removed : state.workflows.get? workflowId = none)
    (registered : state.isRegistered x = true) :
    IsForeign workflowId state x := by
  cases found : state.tasks.get? x with
  | none => simp [isRegistered, found] at registered
  | some task =>
      refine .of_found found ?_
      rintro rfl
      simp [isRegistered, found, removed] at registered

/-- What one step does once the workflow is stopped. -/
theorem apart_step
    {strings : Strings}
    {step : ℚ × Step}
    (marked : workflowId ∈ state.stoppedWorkflows)
    (removed : state.workflows.get? workflowId = none)
    (taken : step? strings state step = some next) :
    Apart workflowId state next := by
  obtain ⟨now, step⟩ := step
  cases step with
  | runTask x task =>
      simp only [step?, Option.ite_none_right_eq_some, Option.some.injEq] at taken
      obtain ⟨unknown, rfl⟩ := taken
      refine .of_same (fun other y belongs => ?_) id id rfl
      obtain ⟨known, found, rfl⟩ := isOf_eq_true_iff.mp belongs
      refine isOf_eq_true_iff.mpr ⟨known, ?_, rfl⟩
      have differ : y ≠ x := by
        rintro rfl
        rw [found] at unknown
        cases unknown
      simp only [Table.get?_set, differ, if_false]
      exact found
  | enqueueRetry x =>
      obtain rfl := Option.some.inj taken
      exact .of_same (fun _ _ => id) id id rfl
  | submitHead x choice =>
      simp only [step?] at taken
      split at taken
      · next task found =>
        simp only [Option.ite_none_right_eq_some, Option.some.injEq] at taken
        obtain ⟨_, rfl⟩ := taken
        exact .submitHead choice marked found
      · cases taken
  | wakeModelWaiters key =>
      obtain rfl := Option.some.inj taken
      exact .wakeModelWaiters key
  | failModelWaiters key retried =>
      obtain rfl := Option.some.inj taken
      have taken : Apart workflowId state
          { state with modelWaiting := state.modelWaiting.erase key } :=
        .of_same (fun _ _ => id) id id rfl
      exact taken.trans (.failModelWaiters strings now retried _ marked)
  | failTasks tasks =>
      simp only [step?, Option.ite_none_right_eq_some, Option.some.injEq] at taken
      obtain ⟨registered, rfl⟩ := taken
      exact .failTasks strings now tasks fun failed member =>
        .of_registered removed (registered failed member)
  | finishTask x =>
      simp only [step?, Option.ite_none_right_eq_some, Option.some.injEq] at taken
      obtain ⟨_, rfl⟩ := taken
      refine (Apart.releaseModelRoute strings now x).trans ((Apart.releaseLease x).trans
        (.of_same (fun other y belongs => ?_) id id rfl))
      exact (isOf_modify (fun task => { task with status := .finished }) (fun _ => rfl)
        x other y).trans belongs
  | stopWorkflow fault other =>
      obtain rfl := Option.some.inj taken
      exact .stopWorkflowRequest strings now fault other

/-- What any run does once the workflow is stopped. -/
theorem apart_run
    {strings : Strings}
    (steps : List (ℚ × Step))
    (marked : workflowId ∈ state.stoppedWorkflows)
    (removed : state.workflows.get? workflowId = none)
    (run : run? (step? strings) state steps = some next) :
    Apart workflowId state next := by
  induction steps generalizing state with
  | nil =>
      obtain rfl := Option.some.inj run
      exact .refl
  | cons step rest inductionHypothesis =>
      rw [run?_cons, Option.bind_eq_some_iff] at run
      obtain ⟨middle, taken, run⟩ := run
      have first := apart_step marked removed taken
      exact first.trans
        (inductionHypothesis (first.marked marked) (first.removed removed) run)

end Steps

end State

/-! ## Stopping a workflow -/

/-- The waiters of a model for which a route is released are woken. -/
def WokenAtMost
    (before after : State)
    (x : ℕ)
    (task : Task) : Prop :=
  ∃ task', after.tasks.get? x = some task' ∧ task'.workflowId = task.workflowId ∧
    task'.leaseId = task.leaseId ∧
      (task'.status = task.status ∨
        task'.status = .ready ∧ x ∈ after.taskQueues ∧
          ∃ key waiting, before.modelWaiting.get? key = some waiting ∧ x ∈ waiting)

/-- Everything that was running is released once, and nothing else is. -/
structure ReleasedOnce
    (workflowId : Identifier)
    (before after : State) : Prop where
  routes : ∀ x ∈ before.runningOf workflowId, (before.routeOf x).isSome = true →
    after.routeOf x = none ∧
      after.routeReleases.count x = before.routeReleases.count x + 1
  leases : ∀ x ∈ before.runningOf workflowId, ∀ leaseId,
    before.leaseOf x = some leaseId → before.isActive leaseId = true →
      after.isActive leaseId = false ∧
        after.leaseReleases.count leaseId = before.leaseReleases.count leaseId + 1
  otherRoutes : ∀ x, x ∉ before.runningOf workflowId →
    after.routeOf x = before.routeOf x ∧
      after.routeReleases.count x = before.routeReleases.count x
  otherLeases : ∀ leaseId,
    (∀ x ∈ before.runningOf workflowId, before.leaseOf x ≠ some leaseId) →
      after.leaseAt leaseId = before.leaseAt leaseId ∧
        after.leaseReleases.count leaseId = before.leaseReleases.count leaseId

/-- No runtime of the workflow is registered or waits for a model. -/
structure Halted
    (workflowId : Identifier)
    (state : State) : Prop where
  removed : state.workflows.get? workflowId = none
  unwaited : ∀ key waiting x, state.modelWaiting.get? key = some waiting → x ∈ waiting →
    state.isOf workflowId x = false
  marked : workflowId ∈ state.stoppedWorkflows

/-- Other workflows keep what they have; only waiters of a released model are woken. -/
structure OthersKept
    (workflowId : Identifier)
    (before after : State) : Prop where
  tasks : ∀ x task, before.tasks.get? x = some task → WokenAtMost before after x task
  served : State.StillServed workflowId before after
  queues : ∀ x ∈ before.taskQueues, x ∈ after.taskQueues
  workflows : ∀ other, other ≠ workflowId →
    after.workflows.get? other = before.workflows.get? other

section Released

variable {workflowId : Identifier} {before after : State}

theorem State.Stopped.releasedOnce
    (stopped : State.Stopped workflowId before after) :
    ReleasedOnce workflowId before after where
  routes := fun x running held => by
    have gone := stopped.routes x running
    rcases stopped.progress.routes x with ⟨unchanged, _⟩ | ⟨_, _, released, counted⟩
    · rw [← unchanged, gone] at held
      cases held
    · exact ⟨released, counted⟩
  leases := fun x running leaseId held active => by
    have gone := stopped.leases x running leaseId held
    rcases stopped.progress.leases leaseId with ⟨unchanged, _⟩ | ⟨_, _, _, counted⟩
    · have inactive : (after.leaseAt leaseId).isSome = false := gone
      rw [unchanged] at inactive
      have there : (before.leaseAt leaseId).isSome = true := active
      rw [inactive] at there
      cases there
    · exact ⟨gone, counted⟩
  otherRoutes := fun x idle => by
    rcases stopped.progress.routes x with unchanged | ⟨running, _⟩
    · exact unchanged
    · exact absurd running idle
  otherLeases := fun leaseId foreign => by
    rcases stopped.progress.leases leaseId with unchanged | ⟨⟨x, running, held⟩, _⟩
    · exact unchanged
    · exact absurd held (foreign x running)

theorem State.Stopped.halted
    (stopped : State.Stopped workflowId before after) :
    Halted workflowId after where
  removed := stopped.removed
  unwaited := stopped.unwaited
  marked := stopped.marked

theorem State.Stopped.othersKept
    (stopped : State.Stopped workflowId before after) :
    OthersKept workflowId before after where
  tasks := fun x task found => by
    obtain ⟨task', found', workflow, status⟩ := (stopped.progress.tasks x).2 task found
    have lease := (stopped.progress.tasks x).1
    simp only [State.leaseOf, found, found', Option.bind_some] at lease
    exact ⟨task', found', workflow, lease, status⟩
  served := stopped.progress.served
  queues := stopped.progress.queues
  workflows := stopped.progress.workflows

end Released

/-! ## A stop whose first request raises -/

/-- The texts of models and backends, for those that are strings. -/
def plainTexts : Strings where
  str := fun value => match value with
    | .str text => text
    | _ => ""
  lower := id

/-- The workflow that is stopped. -/
def stoppedRun : Identifier := ⟨"run", run_nonempty⟩

/-- Another workflow, with a task that waits for the model. -/
def waitingRun : Identifier := ⟨"other", rfl⟩

/-- A request for one CPU. -/
def oneCpu : ResourceRequest where
  cpu := 1
  cpuMem := 0
  gpu := 0
  gpuMem := 0
  hints := []
  cpu_nonneg := by decide
  cpuMem_nonneg := by decide
  gpuMem_nonneg := by decide
  gpu_le_one := no_gpu_le_one

/-- Task 0 runs through a model route, and task 1 waits for the model. -/
def routedState : State where
  resourceManager :=
    { headNodeId := "head"
      nodes := Table.empty
      activeLeases := Table.empty.set "lease" 
        { reservationKind := .task, nodeId := "worker", gpuId := none, resources := oneCpu }
      runningTaskCounts := Table.empty
      disabledNodeIds := []
      dagContexts := ⟨Table.empty, Table.empty⟩
      schedulingPolicy := .default }
  llmInstanceManager := LlmInstanceManager.initial 1 (.finite 1) 60
  tasks := (Table.empty.set 0 ⟨stoppedRun, .running, some ⟨"lease", lease_nonempty⟩,
    some ⟨"instance", ⟨.str "model", "vllm"⟩, "generation"⟩⟩).set 1
      ⟨waitingRun, .pending, none, none⟩
  workflows := Table.empty.set stoppedRun (Table.empty.set ⟨"task", task_nonempty⟩ 0)
  stoppedWorkflows := []
  modelWaiting := Table.empty.set ("model", "vllm") [1]
  taskQueues := []
  workflowCleanupStates := Table.empty
  routeReleases := []
  leaseReleases := []
  dispatched := []

end Maze.Scheduler.StopRequest
