import Maze.Scheduler.TaskQueues

namespace Maze.Scheduler.TaskQueues

open Maze.Python
open Maze.Library
open Maze.Library.Transition
open Maze.Scheduler.TaskLeases (Status AttemptIdentity maxRecoveries)

/-!
# A task is in one place

A runtime moves between the ready queues, the model-wait set, the threads that have
taken it out of that set, the recoveries and the callbacks that will queue it again.
All entries in these containers together, and one more while it is running, are at most
one. A runtime with an entry may still be retried, which bounds its attempts.
-/

namespace State

/-! ## Counting entries -/

/-- The callbacks that will queue the runtime again. -/
def retries
    (state : State)
    (x : ℕ) :
    ℕ :=
  (state.outboundMessages.countP fun outgoing =>
      outgoing.onSent = some (.enqueueRetry x)) +
    state.callbacks.count (.enqueueRetry x)

/-- The entries of the runtime in all containers. -/
def entries
    (state : State)
    (x : ℕ) :
    ℕ :=
  state.taskQueues.count x + state.modelWaiting.count x + state.takenWaiters.count x +
    (state.recoveries.countP fun recovery => recovery.task = x) + state.retries x

/-- One if the runtime has the status `running`. -/
def running
    (state : State)
    (x : ℕ) :
    ℕ :=
  if (state.tasks.get? x).any fun task => task.status = .running then 1 else 0

/-- The entries of the runtime, and one more if it is running. -/
def holds
    (state : State)
    (x : ℕ) :
    ℕ :=
  state.entries x + state.running x

theorem running_le_one
    (state : State)
    (x : ℕ) :
    state.running x ≤ 1 := by
  unfold running
  split <;> omega

theorem running_eq
    {state : State}
    {x : ℕ}
    {task : Task}
    (found : state.tasks.get? x = some task) :
    state.running x = if task.status = .running then 1 else 0 := by
  simp [running, found]

/-! ## What an operation does to the entries -/

section Operations

variable (state : State) (x y : ℕ)

@[simp] theorem entries_modifyTask (change : Task → Task) :
    (state.modifyTask x change).entries y = state.entries y := rfl

@[simp] theorem entries_setStatus (status : Status) :
    (state.setStatus x status).entries y = state.entries y := rfl

@[simp] theorem holds_markStopped (workflowId : Identifier) :
    (state.markStopped workflowId).holds y = state.holds y := rfl

@[simp] theorem holds_unmarkStopped (workflowId : Identifier) :
    (state.unmarkStopped workflowId).holds y = state.holds y := rfl

@[simp] theorem entries_markStopped (workflowId : Identifier) :
    (state.markStopped workflowId).entries y = state.entries y := rfl

@[simp] theorem entries_unmarkStopped (workflowId : Identifier) :
    (state.unmarkStopped workflowId).entries y = state.entries y := rfl

@[simp] theorem running_take : (state.take x).running y = state.running y := rfl

@[simp] theorem running_put : (state.put x).running y = state.running y := rfl

@[simp] theorem running_defer
    (message : Message)
    (onSent : Option Callback) :
    (state.defer message onSent).running y = state.running y := rfl

/-- The status of another runtime stays, and a status other than running is none. -/
theorem running_setStatus
    {status : Status}
    (other : status ≠ .running) :
    (state.setStatus x status).running y = if y = x then 0 else state.running y := by
  simp only [running, setStatus, modifyTask, Table.get?_modify]
  split
  · cases state.tasks.get? y <;> simp [other]
  · rfl

/-- A change that keeps the status keeps every runtime as running as it is. -/
theorem running_modifyTask
    {change : Task → Task}
    (kept : ∀ task, (change task).status = task.status) :
    (state.modifyTask x change).running y = state.running y := by
  simp only [running, modifyTask, Table.get?_modify]
  split
  · cases state.tasks.get? y <;> simp [kept]
  · rfl

theorem holds_modifyTask
    {change : Task → Task}
    (kept : ∀ task, (change task).status = task.status) :
    (state.modifyTask x change).holds y = state.holds y :=
  congrArg (state.entries y + ·) (state.running_modifyTask x y kept)

theorem entries_put :
    (state.put x).entries y = state.entries y + if x = y then 1 else 0 := by
  simp only [entries, put, retries, List.count_append, List.count_singleton, beq_iff_eq]
  omega

variable {state x} in
theorem entries_take (queued : x ∈ state.taskQueues) :
    state.entries y = (state.take x).entries y + if x = y then 1 else 0 := by
  have split := (List.perm_cons_erase queued).count_eq y
  rw [List.count_cons] at split
  simp only [beq_iff_eq] at split
  simp only [entries, take, retries]
  omega

theorem entries_defer
    (message : Message)
    (onSent : Option Callback) :
    (state.defer message onSent).entries y =
      state.entries y + if onSent = some (.enqueueRetry y) then 1 else 0 := by
  simp only [entries, defer, retries, List.countP_append, List.countP_cons,
    List.countP_nil, decide_eq_true_eq]
  omega

theorem entries_removeModelWaiters_le (workflowId : Identifier) :
    (state.removeModelWaiters workflowId).entries y ≤ state.entries y := by
  have fewer : (state.modelWaiting.filter fun x =>
      !state.isOf workflowId x).count y ≤ state.modelWaiting.count y :=
    (List.filter_sublist).count_le y
  simp only [entries, removeModelWaiters, retries]
  omega

theorem holds_removeModelWaiters_le (workflowId : Identifier) :
    (state.removeModelWaiters workflowId).holds y ≤ state.holds y :=
  Nat.add_le_add_right (state.entries_removeModelWaiters_le y workflowId) _

variable {state x} in
/-- `add_task` changes the registrations only. -/
theorem eq_of_addTask
    {task : Task}
    {next : State}
    (added : state.addTask x task = some next) :
    ∃ workflows, next = { state with workflows := workflows } := by
  unfold addTask at added
  dsimp only at added
  split at added
  · exact ⟨_, (Option.some.inj added).symm⟩
  · split at added
    · exact ⟨state.workflows, (Option.some.inj added).symm⟩
    · cases added

/-- A task that fails for good gets no entry. -/
theorem holds_failFinally_le
    (task : Task)
    (error : PyDict) :
    (state.failFinally task error).holds y ≤ state.holds y := by
  have fewer := state.entries_removeModelWaiters_le y task.workflowId
  have deferred := ((state.removeModelWaiters task.workflowId).clearWorkflow
    task.workflowId).entries_defer y ⟨.taskException, exceptionIdentity? task error⟩ none
  simp only [reduceCtorEq, if_false] at deferred
  have entries : (state.failFinally task error).entries y ≤ state.entries y := by
    rw [failFinally, deferred]
    exact fewer
  exact Nat.add_le_add_right entries _

/-- A retry that is scheduled is one entry, and the runtime is not running. -/
theorem holds_scheduleRetry
    (task : Task) :
    (state.scheduleRetry x task).holds y =
      if y = x then state.entries x + 1 else state.holds y := by
  rw [holds, scheduleRetry, running_defer, entries_defer, entries_modifyTask]
  have status := state.running_setStatus x y (show Status.retrying ≠ .running by decide)
  rw [setStatus] at status
  rw [status]
  by_cases same : y = x
  · simp [same]
  · simp [same, Ne.symm same, holds]

/-- A recovery that is submitted is one entry, and the runtime is not running. -/
theorem holds_submitRecovery
    {task : Task}
    {next : State}
    (submitted : state.submitRecovery x task = some next) :
    next.holds y = if y = x then state.entries x + 1 else state.holds y := by
  simp only [submitRecovery, Option.ite_none_left_eq_some, Option.some.injEq] at submitted
  obtain ⟨_, rfl⟩ := submitted
  have status := state.running_setStatus x y
    (show Status.recovering ≠ .running by decide)
  have entries : ({ state.modifyTask x fun task =>
      { task with status := .recovering } with
        recoveries := state.recoveries ++ [⟨x, task.attemptIdentity⟩] } : State).entries y =
        state.entries y + if x = y then 1 else 0 := by
    simp only [State.entries, retries, modifyTask, List.countP_append, List.countP_cons,
      List.countP_nil, decide_eq_true_eq]
    omega
  rw [holds, entries]
  change state.entries y + _ + (state.setStatus x .recovering).running y = _
  rw [status]
  by_cases same : y = x
  · simp [same]
  · simp [same, Ne.symm same, holds]

/-- A failure leaves at most one entry more, and then the runtime is not running. -/
theorem holds_retryOrFailTask_le (failure : Failure) :
    (state.retryOrFailTask x failure).holds y ≤
      if y = x then state.entries x + 1 else state.holds y := by
  have most : state.holds y ≤ if y = x then state.entries x + 1 else state.holds y := by
    split
    · rename_i same
      subst same
      exact Nat.add_le_add_left (state.running_le_one y) _
    · exact le_refl _
  unfold retryOrFailTask
  split
  · exact most
  · rename_i task found
    dsimp only
    split
    · split
      · exact (holds_failFinally_le _ y _ _).trans most
      · rw [holds_scheduleRetry]
        simp
      · split
        · rename_i submitted given
          split at given
          · rw [holds_submitRecovery _ x y given]
            simp
          · cases given
        · refine (holds_failFinally_le _ y _ _).trans ?_
          have kept (task : Task) : ({ task with maxRetries := 0 } : Task).status =
              task.status := rfl
          exact (holds_modifyTask _ x y kept).le.trans most
    · exact (holds_failFinally_le _ y _ _).trans most

end Operations

/-! ## One place -/

/-- Every runtime has at most one entry, none while it runs, and none if it is unknown. -/
structure Placed (state : State) : Prop where
  once : ∀ x, state.holds x ≤ 1
  known : ∀ x, state.tasks.get? x = none → state.entries x = 0

section Steps

variable {state next : State} {x : ℕ}

theorem readyTask?_spec
    {task : Task}
    (found : state.readyTask? x = some task) :
    x ∈ state.taskQueues ∧ state.tasks.get? x = some task ∧
      task.workflowId ∉ state.stoppedWorkflows := by
  obtain ⟨queued, running⟩ := Option.filter_eq_some_iff.mp found
  unfold queuedTask? at queued
  split at queued
  · rename_i inside
    exact ⟨inside, queued, by simpa using running⟩
  · cases queued

theorem queuedTask?_spec
    {task : Task}
    (found : state.queuedTask? x = some task) :
    x ∈ state.taskQueues ∧ state.tasks.get? x = some task := by
  unfold queuedTask? at found
  split at found
  · rename_i inside
    exact ⟨inside, found⟩
  · cases found

theorem publishedTask?_spec
    {task : Task}
    (found : state.publishedTask? x = some task) :
    state.tasks.get? x = some task ∧ task.dispatchPublished = true ∧
      task.status = .running := by
  obtain ⟨known, both⟩ := Option.filter_eq_some_iff.mp found
  simpa [known] using both

theorem recoveredTask?_spec
    {recovery : PendingRecovery}
    {task : Task}
    (found : state.recoveredTask? recovery = some task) :
    state.tasks.get? recovery.task = some task ∧
      task.attemptIdentity = recovery.identity := by
  obtain ⟨known, both⟩ := Option.filter_eq_some_iff.mp found
  simp only [Bool.and_eq_true, decide_eq_true_eq] at both
  exact ⟨known, both.2⟩

/--
What a step does to the state, under what it has found there. A head that exceeds the
capacity may be registered first, which changes the registrations only.
-/
inductive Becomes (state : State) : State → Prop
  | received (x : ℕ) (task : Task)
      (absent : state.tasks.get? x = none)
      (attempt : task.attempt = 0)
      (dispatchId : task.dispatchId = none)
      (previous : task.previousAttemptIdentity = none)
      (status : task.status = .ready) :
      state.Becomes ({ state with
        tasks := state.tasks.set x task
        received := state.received.set x task.maxRetries }.put x)
  | stopped (workflowId : Identifier) :
      state.Becomes ((state.markStopped workflowId).removeModelWaiters workflowId)
  | cleared (workflowId : Identifier) :
      state.Becomes (((state.markStopped workflowId).removeModelWaiters
        workflowId).clearWorkflow workflowId)
  | discarded (x : ℕ) (task : Task)
      (queued : state.queuedTask? x = some task)
      (stopped : task.workflowId ∈ state.stoppedWorkflows) :
      state.Becomes (state.take x)
  | exceeded (x : ℕ) (task : Task) (workflows) (failure : Failure)
      (ready : state.readyTask? x = some task) :
      state.Becomes ((({ state.setStatus x .ready with
        workflows := workflows } : State).take x).retryOrFailTask x failure)
  | requeued (x : ℕ) (task : Task)
      (ready : state.readyTask? x = some task) :
      state.Becomes (((state.setStatus x .ready).take x).put x)
  | waits (x : ℕ) (task : Task)
      (ready : state.readyTask? x = some task) :
      state.Becomes { (state.setStatus x .pending).take x with
        modelWaiting := state.modelWaiting ++ [x] }
  | superseded (x : ℕ) (task : Task)
      (ready : state.readyTask? x = some task) :
      state.Becomes ((state.setStatus x .ready).take x)
  | postponed (x : ℕ) (task : Task) (workflows)
      (ready : state.readyTask? x = some task) :
      state.Becomes (({ state with workflows := workflows } : State).setStatus x .pending)
  | launched (x : ℕ) (task : Task) (workflows) (dispatchId leaseId : Identifier)
      (outcome : LaunchOutcome)
      (ready : state.readyTask? x = some task) :
      state.Becomes ((({ state.setStatus x .ready with
        workflows := workflows } : State).take x).runTask x task dispatchId leaseId outcome)
  | waiterTaken (x : ℕ)
      (waiting : x ∈ state.modelWaiting) :
      state.Becomes { state with
        modelWaiting := state.modelWaiting.erase x
        takenWaiters := state.takenWaiters ++ [x] }
  | waiterLeft (x : ℕ)
      (taken : x ∈ state.takenWaiters) :
      state.Becomes { state with takenWaiters := state.takenWaiters.erase x }
  | waiterWoken (x : ℕ) (task : Task)
      (taken : x ∈ state.takenWaiters)
      (found : state.tasks.get? x = some task) :
      state.Becomes ((({ state with
        takenWaiters := state.takenWaiters.erase x } : State).setStatus x .ready).put x)
  | waiterFailed (x : ℕ) (task : Task) (failure : Failure)
      (taken : x ∈ state.takenWaiters)
      (found : state.tasks.get? x = some task) :
      state.Becomes (({ state with
        takenWaiters := state.takenWaiters.erase x } : State).retryOrFailTask x failure)
  | finished (x : ℕ) (task : Task)
      (published : state.publishedTask? x = some task) :
      state.Becomes ((state.setStatus x .finished).defer ⟨.finishTask, task.identity?⟩ none)
  | finishRaised (x : ℕ) (task : Task) (failure : Failure)
      (published : state.publishedTask? x = some task) :
      state.Becomes ((state.setStatus x .finished).retryOrFailTask x failure)
  | failed (x : ℕ) (task : Task) (failure : Failure)
      (published : state.publishedTask? x = some task) :
      state.Becomes (state.retryOrFailTask x failure)
  | drained (recovery : PendingRecovery)
      (pending : recovery ∈ state.recoveries) :
      state.Becomes { state with recoveries := state.recoveries.erase recovery }
  | recovered (recovery : PendingRecovery) (task : Task)
      (pending : recovery ∈ state.recoveries)
      (valid : state.recoveredTask? recovery = some task) :
      state.Becomes (({ state with
        recoveries := state.recoveries.erase recovery } : State).scheduleRetry
          recovery.task task)
  | recoveryFailed (recovery : PendingRecovery) (task : Task) (failure : Failure)
      (pending : recovery ∈ state.recoveries)
      (valid : state.recoveredTask? recovery = some task) :
      state.Becomes (({ state with
        recoveries := state.recoveries.erase recovery } : State).retryOrFailTask
          recovery.task failure)
  | sends (outgoing : Outgoing)
      (waiting : outgoing ∈ state.outboundMessages) :
      state.Becomes { state with
        outboundMessages := state.outboundMessages.erase outgoing
        callbacks := state.callbacks ++ outgoing.onSent.toList
        sent := state.sent ++ [outgoing.message] }
  | calledBack (callback : Callback)
      (waiting : callback ∈ state.callbacks) :
      state.Becomes ({ state with
        callbacks := state.callbacks.erase callback }.runCallback callback)

/-- A step does one of these things. -/
theorem becomes_of_step
    {action : Action}
    (stepped : step? state action = some next) :
    state.Becomes next := by
  cases action with
  | receiveTask x task =>
      simp only [step?, isNew, Table.contains, Bool.and_eq_true, decide_eq_true_eq,
        Option.isSome_eq_false_iff, Option.isNone_iff_eq_none,
        Option.ite_none_right_eq_some, Option.some.injEq] at stepped
      obtain ⟨⟨⟨⟨⟨attempt, dispatchId⟩, previous⟩, status⟩, absent⟩, rfl⟩ := stepped
      exact .received x task absent attempt dispatchId previous status
  | clearWorkflow workflowId =>
      cases stepped
      exact .cleared workflowId
  | stopWorkflow workflowId cancelled =>
      cases stepped
      cases cancelled with
      | false => exact .stopped workflowId
      | true => exact .cleared workflowId
  | discardStopped x =>
      simp only [step?, Option.bind_eq_some_iff, Option.ite_none_right_eq_some,
        Option.some.injEq] at stepped
      obtain ⟨task, queued, stopped, rfl⟩ := stepped
      exact .discarded x task queued stopped
  | exceedCapacity x registering failure =>
      simp only [step?, Option.bind_eq_some_iff, Option.map_eq_some_iff] at stepped
      obtain ⟨task, ready, middle, registered, rfl⟩ := stepped
      cases registering with
      | false =>
          cases registered
          exact .exceeded x task _ failure ready
      | true =>
          obtain ⟨workflows, rfl⟩ := eq_of_addTask registered
          exact .exceeded x task workflows failure ready
  | waitForModel x routed =>
      simp only [step?, Option.map_eq_some_iff] at stepped
      obtain ⟨task, ready, rfl⟩ := stepped
      cases routed with
      | false => exact .waits x task ready
      | true => exact .requeued x task ready
  | supersede x =>
      simp only [step?, Option.bind_eq_some_iff, Option.ite_none_left_eq_some,
        Option.some.injEq] at stepped
      obtain ⟨task, ready, _, rfl⟩ := stepped
      exact .superseded x task ready
  | postpone x =>
      simp only [step?, Option.bind_eq_some_iff, Option.map_eq_some_iff] at stepped
      obtain ⟨task, ready, middle, added, rfl⟩ := stepped
      obtain ⟨workflows, rfl⟩ := eq_of_addTask added
      exact .postponed x task workflows ready
  | launch x dispatchId leaseId outcome =>
      simp only [step?, Option.bind_eq_some_iff, Option.map_eq_some_iff] at stepped
      obtain ⟨task, ready, middle, added, rfl⟩ := stepped
      obtain ⟨workflows, rfl⟩ := eq_of_addTask added
      exact .launched x task workflows dispatchId leaseId outcome ready
  | takeWaiter x =>
      simp only [step?, Option.ite_none_right_eq_some, Option.some.injEq] at stepped
      obtain ⟨waiting, rfl⟩ := stepped
      exact .waiterTaken x waiting
  | wakeWaiter x =>
      simp only [step?, Option.ite_none_right_eq_some, Option.map_eq_some_iff] at stepped
      obtain ⟨taken, task, found, rfl⟩ := stepped
      split
      · exact .waiterLeft x taken
      · exact .waiterWoken x task taken found
  | failWaiter x error =>
      simp only [step?, Option.ite_none_right_eq_some, Option.map_eq_some_iff] at stepped
      obtain ⟨taken, task, found, rfl⟩ := stepped
      split
      · exact .waiterLeft x taken
      · exact .waiterFailed x task _ taken found
  | finishTask x outcome =>
      simp only [step?, Option.bind_eq_some_iff, Option.ite_none_right_eq_some] at stepped
      obtain ⟨task, published, _, stepped⟩ := stepped
      cases outcome with
      | finished =>
          cases stepped
          exact .finished x task published
      | raises failure =>
          cases stepped
          exact .finishRaised x task failure published
  | failAttempt x failure =>
      simp only [step?, Option.bind_eq_some_iff, Option.ite_none_right_eq_some,
        Option.some.injEq] at stepped
      obtain ⟨task, published, _, rfl⟩ := stepped
      exact .failed x task failure published
  | timeOut x failure =>
      simp only [step?, Option.map_eq_some_iff] at stepped
      obtain ⟨task, published, rfl⟩ := stepped
      exact .failed x task failure published
  | recover recovery =>
      simp only [step?, Option.ite_none_right_eq_some] at stepped
      obtain ⟨pending, stepped⟩ := stepped
      split at stepped
      · cases stepped
        exact .drained recovery pending
      · rename_i task valid
        split at stepped
        · cases stepped
          exact .drained recovery pending
        · cases stepped
          exact .recovered recovery task pending valid
  | failRecovery recovery failure =>
      simp only [step?, Option.ite_none_right_eq_some] at stepped
      obtain ⟨pending, stepped⟩ := stepped
      split at stepped
      · cases stepped
        exact .drained recovery pending
      · rename_i task valid
        cases stepped
        exact .recoveryFailed recovery task failure pending valid
  | send outgoing =>
      simp only [step?, Option.ite_none_right_eq_some, Option.some.injEq] at stepped
      obtain ⟨waiting, rfl⟩ := stepped
      exact .sends outgoing waiting
  | callBack callback =>
      simp only [step?, Option.ite_none_right_eq_some, Option.some.injEq] at stepped
      obtain ⟨waiting, rfl⟩ := stepped
      exact .calledBack callback waiting

/-- What leaves the runtimes alone and adds no entry keeps them in one place. -/
theorem Placed.of_le
    (placed : state.Placed)
    (fewer : ∀ y, next.holds y ≤ state.holds y)
    (known : ∀ y, next.tasks.get? y = none → state.tasks.get? y = none) :
    next.Placed := by
  refine ⟨fun y => (fewer y).trans (placed.once y), fun y absent => ?_⟩
  have none_ := placed.known y (known y absent)
  have notRunning : state.running y = 0 := by
    simp [running, known y absent]
  have less := fewer y
  simp only [holds] at less
  omega

/-- A runtime that is there stays there when a runtime is changed. -/
theorem get?_modifyTask_eq_none
    {change : Task → Task}
    {y : ℕ} :
    (state.modifyTask x change).tasks.get? y = none ↔ state.tasks.get? y = none := by
  simp only [modifyTask, Table.get?_modify]
  split <;> simp

theorem get?_retryOrFailTask_eq_none
    {failure : Failure}
    {y : ℕ} :
    (state.retryOrFailTask x failure).tasks.get? y = none ↔
      state.tasks.get? y = none := by
  unfold retryOrFailTask
  split
  · rfl
  · dsimp only
    split
    · split
      · rfl
      · exact get?_modifyTask_eq_none
      · split
        · rename_i submitted given
          split at given
          · simp only [submitRecovery, Option.ite_none_left_eq_some,
              Option.some.injEq] at given
            obtain ⟨_, rfl⟩ := given
            exact get?_modifyTask_eq_none
          · cases given
        · exact get?_modifyTask_eq_none
    · rfl

/-- A failure of a runtime without entries keeps every runtime in one place. -/
theorem Placed.retryOrFailTask
    (placed : state.Placed)
    (idle : state.entries x = 0)
    (present : state.tasks.get? x ≠ none)
    (failure : Failure) :
    (state.retryOrFailTask x failure).Placed := by
  constructor
  · intro y
    refine (holds_retryOrFailTask_le state x y failure).trans ?_
    split
    · omega
    · exact placed.once y
  · intro y absent
    rw [get?_retryOrFailTask_eq_none] at absent
    have differ : y ≠ x := by
      rintro rfl
      exact present absent
    have less := holds_retryOrFailTask_le state x y failure
    rw [if_neg differ] at less
    have none_ := placed.known y absent
    have notRunning : state.running y = 0 := by simp [running, absent]
    simp only [holds] at less
    omega

/-- Taking a runtime out of its queue leaves it without entries. -/
theorem Placed.take
    (placed : state.Placed)
    (queued : x ∈ state.taskQueues) :
    (state.take x).Placed ∧ (state.take x).entries x = 0 ∧ state.running x = 0 := by
  have here := entries_take x queued
  rw [if_pos rfl] at here
  have once := placed.once x
  simp only [holds] at once
  refine ⟨placed.of_le (fun y => ?_) fun _ => id, by omega, by omega⟩
  have other := entries_take y queued
  simp only [holds, running_take]
  omega

/-- A runtime that has no entry and does not run is queued. -/
theorem Placed.put
    (placed : state.Placed)
    (idle : state.holds x = 0)
    (present : state.tasks.get? x ≠ none) :
    (state.put x).Placed := by
  constructor
  · intro y
    have once := placed.once y
    rw [holds, entries_put, running_put]
    by_cases same : x = y
    · subst same
      simp only [holds, if_true] at idle ⊢
      omega
    · rw [if_neg same]
      exact once
  · intro y absent
    rw [entries_put, placed.known y absent, if_neg, add_zero]
    rintro rfl
    exact present absent

/-- A status other than running takes no place. -/
theorem Placed.setStatus
    (placed : state.Placed)
    {status : Status}
    (other : status ≠ .running) :
    (state.setStatus x status).Placed := by
  refine placed.of_le (fun y => ?_) fun y => get?_modifyTask_eq_none.mp
  rw [holds, running_setStatus _ _ _ other, entries_setStatus, holds]
  split <;> omega

/-- An entry moves from one container to another. -/
theorem Placed.of_move
    (placed : state.Placed)
    (tasks : next.tasks = state.tasks)
    (moved : ∀ y, next.entries y = state.entries y) :
    next.Placed := by
  refine placed.of_le (fun y => ?_) fun y absent => by rwa [tasks] at absent
  rw [holds, moved, running, tasks, holds, running]

/-- Every outcome of a launch keeps every runtime in one place. -/
theorem Placed.runTask
    {task : Task}
    (placed : state.Placed)
    (idle : state.entries x = 0)
    (present : state.tasks.get? x ≠ none)
    (dispatchId leaseId : Identifier)
    (outcome : LaunchOutcome) :
    (state.runTask x task dispatchId leaseId outcome).Placed := by
  have begun : (state.beginAttempt x dispatchId leaseId).Placed := by
    refine placed.of_le (fun y => ?_) fun y => get?_modifyTask_eq_none.mp
    have kept (task : Task) :
        ({ task with toTaskRuntime :=
          task.toTaskRuntime.beginAttempt dispatchId leaseId } : Task).status =
          task.status := rfl
    exact (holds_modifyTask state x y kept).le
  cases outcome with
  | started =>
      constructor
      · intro y
        have once := placed.once y
        have atMost := running_le_one (state.runTask x task dispatchId leaseId .started) y
        have entries : (state.runTask x task dispatchId leaseId .started).entries y =
            state.entries y := by
          rw [State.runTask, entries_defer]
          rfl
        rw [holds, entries]
        by_cases same : y = x
        · subst same
          omega
        · have running : (state.runTask x task dispatchId leaseId .started).running y =
              state.running y := by
            simp [State.runTask, State.running, State.defer, State.beginAttempt, modifyTask,
              same]
          rw [running]
          exact once
      · intro y absent
        have before : state.tasks.get? y = none :=
          get?_modifyTask_eq_none.mp (get?_modifyTask_eq_none.mp absent)
        rw [State.runTask, entries_defer, if_neg (by simp)]
        exact placed.known y before
  | observerRaises failure =>
      exact placed.retryOrFailTask idle present failure
  | runTaskRaises failure =>
      have failed : ({ state.beginAttempt x dispatchId leaseId with
          failedLaunches := task.nextIdentity dispatchId ::
            state.failedLaunches } : State).Placed :=
        begun.of_move rfl fun _ => rfl
      exact failed.retryOrFailTask idle
        (fun absent => present (get?_modifyTask_eq_none.mp absent)) failure

/-- A head that waits for its model moves from its queue to the waiters. -/
theorem entries_waits
    (queued : x ∈ state.taskQueues)
    (y : ℕ) :
    ({ state.take x with
      modelWaiting := state.modelWaiting ++ [x] } : State).entries y = state.entries y := by
  rw [entries_take y queued]
  simp only [entries, State.take, retries, List.count_append, List.count_singleton,
    beq_iff_eq]
  omega

/-- A thread that takes a waiter holds its entry. -/
theorem entries_waiterTaken
    (waiting : x ∈ state.modelWaiting)
    (y : ℕ) :
    ({ state with
      modelWaiting := state.modelWaiting.erase x
      takenWaiters := state.takenWaiters ++ [x] } : State).entries y = state.entries y := by
  have split := (List.perm_cons_erase waiting).count_eq y
  rw [List.count_cons] at split
  simp only [beq_iff_eq] at split
  simp only [entries, retries, List.count_append, List.count_singleton, beq_iff_eq]
  omega

/-- Taking a waiter from those that a thread holds takes its entry. -/
theorem entries_takeWaiter
    (taken : x ∈ state.takenWaiters)
    (y : ℕ) :
    state.entries y =
      ({ state with takenWaiters := state.takenWaiters.erase x } : State).entries y +
        if x = y then 1 else 0 := by
  have split := (List.perm_cons_erase taken).count_eq y
  rw [List.count_cons] at split
  simp only [beq_iff_eq] at split
  simp only [State.entries, retries]
  omega

/-- Taking a waiter from those that a thread holds leaves it without entries. -/
theorem Placed.takeWaiter
    (placed : state.Placed)
    (taken : x ∈ state.takenWaiters) :
    ({ state with takenWaiters := state.takenWaiters.erase x } : State).Placed ∧
      ({ state with takenWaiters := state.takenWaiters.erase x } : State).entries x = 0 ∧
      state.running x = 0 := by
  have entries := entries_takeWaiter taken
  have here := entries x
  have once := placed.once x
  simp only [holds, if_true] at once here
  refine ⟨placed.of_le (fun y => ?_) fun _ => id, by omega, by omega⟩
  have other := entries y
  simp only [holds, running]
  omega

/-- Draining a recovery takes its entry. -/
theorem entries_drained
    {recovery : PendingRecovery}
    (pending : recovery ∈ state.recoveries)
    (y : ℕ) :
    state.entries y =
      ({ state with recoveries := state.recoveries.erase recovery } : State).entries y +
        if recovery.task = y then 1 else 0 := by
  have split := (List.perm_cons_erase pending).countP_eq fun recovery =>
    recovery.task = y
  rw [List.countP_cons] at split
  simp only [decide_eq_true_eq] at split
  simp only [State.entries, retries]
  omega

/-- A recovery that is drained leaves its runtime without entries. -/
theorem Placed.drained
    {recovery : PendingRecovery}
    (placed : state.Placed)
    (pending : recovery ∈ state.recoveries) :
    ({ state with recoveries := state.recoveries.erase recovery } : State).Placed ∧
      ({ state with recoveries :=
        state.recoveries.erase recovery } : State).entries recovery.task = 0 ∧
      state.running recovery.task = 0 := by
  have entries := entries_drained pending
  have here := entries recovery.task
  have once := placed.once recovery.task
  simp only [holds, if_true] at once here
  refine ⟨placed.of_le (fun y => ?_) fun _ => id, by omega, by omega⟩
  have other := entries y
  simp only [holds, running]
  omega

/-- A message that is sent leaves its callback as the entry that it was. -/
theorem entries_send
    {outgoing : Outgoing}
    (waiting : outgoing ∈ state.outboundMessages)
    (y : ℕ) :
    ({ state with
      outboundMessages := state.outboundMessages.erase outgoing
      callbacks := state.callbacks ++ outgoing.onSent.toList
      sent := state.sent ++ [outgoing.message] } : State).entries y = state.entries y := by
  have split := (List.perm_cons_erase waiting).countP_eq fun outgoing =>
    outgoing.onSent = some (.enqueueRetry y)
  rw [List.countP_cons] at split
  have sent : outgoing.onSent.toList.count (.enqueueRetry y) =
      if outgoing.onSent = some (.enqueueRetry y) then 1 else 0 := by
    cases outgoing.onSent <;> simp [List.count_singleton]
  simp only [decide_eq_true_eq] at split
  simp only [entries, retries, List.count_append, sent]
  omega

/-- A callback that is run leaves every runtime with as many entries. -/
theorem entries_callBack
    {callback : Callback}
    (waiting : callback ∈ state.callbacks)
    (y : ℕ) :
    (State.runCallback
      { state with callbacks := state.callbacks.erase callback } callback).entries y =
        state.entries y := by
  have split := (List.perm_cons_erase waiting).count_eq (.enqueueRetry y)
  simp only [List.count_cons, beq_iff_eq] at split
  cases callback with
  | publishDispatch x =>
      simp only [reduceCtorEq, if_false] at split
      simp only [runCallback, modifyTask, entries, retries]
      omega
  | enqueueRetry x =>
      simp only [Callback.enqueueRetry.injEq] at split
      rw [runCallback, entries_put, entries_modifyTask]
      simp only [entries, retries]
      omega

/-- A running task has no entry. -/
theorem Placed.published
    {task : Task}
    (placed : state.Placed)
    (published : state.publishedTask? x = some task) :
    state.tasks.get? x = some task ∧ state.entries x = 0 := by
  obtain ⟨found, _, running⟩ := publishedTask?_spec published
  refine ⟨found, ?_⟩
  have once := placed.once x
  rw [holds, running_eq found, if_pos running] at once
  omega

/-- A runtime that is received has no entry, and it does not run. -/
theorem Placed.received
    {task : Task}
    (placed : state.Placed)
    (absent : state.tasks.get? x = none)
    (status : task.status = .ready) :
    ({ state with
      tasks := state.tasks.set x task
      received := state.received.set x task.maxRetries }.put x).Placed := by
  have received : ({ state with
      tasks := state.tasks.set x task
      received := state.received.set x task.maxRetries } : State).Placed := by
    refine placed.of_le (fun y => ?_) fun y => ?_
    · refine Nat.add_le_add_left ?_ _
      simp only [running, Table.get?_set]
      split
      · simp [status]
      · exact le_refl _
    · simp only [Table.get?_set]
      split
      · simp
      · exact id
  refine received.put ?_ (by simp)
  have notRunning : ({ state with
      tasks := state.tasks.set x task
      received := state.received.set x task.maxRetries } : State).running x = 0 := by
    simp [running, status]
  rw [holds, notRunning]
  exact placed.known x absent

/-- A runtime of which a recovery is drained is retried. -/
theorem Placed.recovered
    {recovery : PendingRecovery}
    {task : Task}
    (placed : state.Placed)
    (pending : recovery ∈ state.recoveries)
    (present : state.tasks.get? recovery.task ≠ none) :
    (({ state with
      recoveries := state.recoveries.erase recovery } : State).scheduleRetry
        recovery.task task).Placed := by
  obtain ⟨drained, idle, _⟩ := placed.drained pending
  constructor
  · intro y
    rw [holds_scheduleRetry]
    split
    · omega
    · exact drained.once y
  · intro y absent
    have before : state.tasks.get? y = none := get?_modifyTask_eq_none.mp absent
    have differ : recovery.task ≠ y := by
      rintro rfl
      exact present before
    rw [scheduleRetry, entries_defer, entries_modifyTask, drained.known y before]
    simp [differ]

/-- A callback that is run keeps every runtime in one place. -/
theorem Placed.calledBack
    {callback : Callback}
    (placed : state.Placed)
    (waiting : callback ∈ state.callbacks) :
    (State.runCallback
      { state with callbacks := state.callbacks.erase callback } callback).Placed := by
  cases callback with
  | publishDispatch x =>
      have entries := entries_callBack waiting
      have kept (task : Task) :
          ({ task with dispatchPublished := true } : Task).status = task.status := rfl
      refine placed.of_le (fun y => ?_) fun y => get?_modifyTask_eq_none.mp
      rw [holds, entries]
      exact Nat.add_le_add_left (running_modifyTask _ x y kept).le _
  | enqueueRetry x =>
      have kept (task : Task) : ({ task with
          toTaskRuntime := task.toTaskRuntime.clearAttemptIdentity } : Task).status =
          task.status := rfl
      let removed : State :=
        { state with callbacks := state.callbacks.erase (.enqueueRetry x) }
      have entries (y : ℕ) :
          state.entries y = removed.entries y + if x = y then 1 else 0 := by
        have split := (List.perm_cons_erase waiting).count_eq (.enqueueRetry y)
        simp only [List.count_cons, beq_iff_eq, Callback.enqueueRetry.injEq] at split
        simp only [State.entries, retries, removed]
        omega
      have left : removed.Placed := by
        refine placed.of_le (fun y => ?_) fun _ => id
        rw [holds, holds, entries y]
        exact Nat.add_le_add_right (Nat.le_add_right _ _) _
      have cleared : (removed.modifyTask x fun task =>
          { task with
            toTaskRuntime := task.toTaskRuntime.clearAttemptIdentity }).Placed :=
        left.of_le (fun y => (holds_modifyTask _ x y kept).le)
          fun y => get?_modifyTask_eq_none.mp
      have once := placed.once x
      have here := entries x
      simp only [holds, if_true] at once here
      refine cleared.put ?_ fun absent => ?_
      · rw [holds_modifyTask _ x x kept, holds]
        change _ + state.running x = 0
        omega
      · have none_ := placed.known x (get?_modifyTask_eq_none.mp absent)
        omega

/-- A head that is taken is still known. -/
theorem present_of_found
    {task : Task}
    {status : Status}
    (found : state.tasks.get? x = some task) :
    (state.setStatus x status).tasks.get? x ≠ none := by
  intro absent
  rw [get?_modifyTask_eq_none.mp absent] at found
  cases found

/-- Every step keeps every runtime in one place. -/
theorem Placed.step
    {action : Action}
    (placed : state.Placed)
    (stepped : step? state action = some next) :
    next.Placed := by
  have removed (workflowId : Identifier) :
      ((state.markStopped workflowId).removeModelWaiters workflowId).Placed :=
    placed.of_le (fun y => holds_removeModelWaiters_le (state.markStopped _) y _)
      fun _ => id
  have readied (x : ℕ) (workflows) :
      ({ state.setStatus x .ready with workflows := workflows } : State).Placed :=
    (placed.setStatus (by decide)).of_move rfl fun _ => rfl
  cases becomes_of_step stepped with
  | received x task absent _ _ _ status => exact placed.received absent status
  | stopped workflowId => exact removed workflowId
  | cleared workflowId => exact (removed workflowId).of_move rfl fun _ => rfl
  | discarded x task queued => exact (placed.take (queuedTask?_spec queued).1).1
  | exceeded x task workflows failure ready =>
      obtain ⟨queued, found, _⟩ := readyTask?_spec ready
      obtain ⟨taken, idle, _⟩ := (readied x workflows).take queued
      exact taken.retryOrFailTask idle (present_of_found found) failure
  | requeued x task ready =>
      obtain ⟨queued, found, _⟩ := readyTask?_spec ready
      obtain ⟨taken, idle, notRunning⟩ :=
        (placed.setStatus (x := x) (show Status.ready ≠ .running by decide)).take queued
      refine taken.put ?_ (present_of_found found)
      rw [holds, idle, running_take, notRunning]
  | waits x task ready =>
      obtain ⟨queued, _, _⟩ := readyTask?_spec ready
      have status : (state.setStatus x .pending).Placed := placed.setStatus (by decide)
      exact status.of_move rfl (entries_waits queued)
  | superseded x task ready =>
      have status : (state.setStatus x .ready).Placed := placed.setStatus (by decide)
      exact (status.take (readyTask?_spec ready).1).1
  | postponed x task workflows ready =>
      have registered : ({ state with workflows := workflows } : State).Placed :=
        placed.of_move rfl fun _ => rfl
      exact registered.setStatus (by decide)
  | launched x task workflows dispatchId leaseId outcome ready =>
      obtain ⟨queued, found, _⟩ := readyTask?_spec ready
      obtain ⟨taken, idle, _⟩ := (readied x workflows).take queued
      exact taken.runTask idle (present_of_found found) dispatchId leaseId outcome
  | waiterTaken x waiting => exact placed.of_move rfl (entries_waiterTaken waiting)
  | waiterLeft x taken => exact (placed.takeWaiter taken).1
  | waiterWoken x task taken found =>
      obtain ⟨left, idle, _⟩ := placed.takeWaiter taken
      refine (left.setStatus (by decide)).put ?_ (present_of_found found)
      rw [holds, entries_setStatus, idle, running_setStatus _ _ _ (by decide), if_pos rfl]
  | waiterFailed x task failure taken found =>
      obtain ⟨left, idle, _⟩ := placed.takeWaiter taken
      refine left.retryOrFailTask idle (fun absent => ?_) failure
      rw [found] at absent
      cases absent
  | finished x task published =>
      have status : (state.setStatus x .finished).Placed := placed.setStatus (by decide)
      exact status.of_move rfl fun y => by rw [entries_defer]; simp
  | finishRaised x task failure published =>
      obtain ⟨found, idle⟩ := placed.published published
      have status : (state.setStatus x .finished).Placed := placed.setStatus (by decide)
      exact status.retryOrFailTask idle (present_of_found found) failure
  | failed x task failure published =>
      obtain ⟨found, idle⟩ := placed.published published
      refine placed.retryOrFailTask idle (fun absent => ?_) failure
      rw [found] at absent
      cases absent
  | drained recovery pending => exact (placed.drained pending).1
  | recovered recovery task pending valid =>
      refine placed.recovered pending fun absent => ?_
      rw [(recoveredTask?_spec valid).1] at absent
      cases absent
  | recoveryFailed recovery task failure pending valid =>
      obtain ⟨drained, idle, _⟩ := placed.drained pending
      refine drained.retryOrFailTask idle (fun absent => ?_) failure
      rw [(recoveredTask?_spec valid).1] at absent
      cases absent
  | sends outgoing waiting => exact placed.of_move rfl (entries_send waiting)
  | calledBack callback waiting => exact placed.calledBack waiting

/-! ## The number of attempts -/

/--
The attempts of the runtime are counted, they are one more than its retries at most, and
while it has an entry it may still be retried or has not begun.
-/
def Within
    (state : State)
    (x maxRetries : ℕ) : Prop :=
  ∃ task, state.tasks.get? x = some task ∧ task.maxRetries ≤ maxRetries ∧
    state.begun.count x = task.attempt ∧ task.attempt ≤ maxRetries + 1 ∧
    (0 < state.entries x → task.attempt ≤ maxRetries)

/-- The attempts of every runtime are within its retries. -/
structure Bounded (state : State) : Prop where
  within : ∀ x maxRetries, state.received.get? x = some maxRetries →
    state.Within x maxRetries
  unknown : ∀ x, state.tasks.get? x = none → state.begun.count x = 0

/-- The runtime keeps its attempt, and it may have lost retries. -/
def SameAttempt (state next : State) (x : ℕ) : Prop :=
  (state.tasks.get? x = none ∧ next.tasks.get? x = none) ∨
    ∃ task task', state.tasks.get? x = some task ∧ next.tasks.get? x = some task' ∧
      task'.maxRetries ≤ task.maxRetries ∧ task'.attempt = task.attempt

/-- The runtime has no entry more, or it may be retried. -/
def EntersRetryable (state next : State) (x : ℕ) : Prop :=
  next.entries x ≤ state.entries x ∨
    ∃ task, state.tasks.get? x = some task ∧ task.attempt ≤ task.maxRetries

theorem SameAttempt.refl
    (tasks : next.tasks = state.tasks) :
    SameAttempt state next x := by
  cases found : state.tasks.get? x with
  | none => exact .inl ⟨found, by rw [tasks, found]⟩
  | some task => exact .inr ⟨task, task, found, by rw [tasks, found], le_refl _, rfl⟩

theorem SameAttempt.trans
    {middle : State}
    (first : SameAttempt state middle x)
    (second : SameAttempt middle next x) :
    SameAttempt state next x := by
  rcases first with ⟨absent, gone⟩ | ⟨task, task', found, found', fewer, attempt⟩
  · rcases second with ⟨_, gone'⟩ | ⟨_, _, present, _⟩
    · exact .inl ⟨absent, gone'⟩
    · rw [gone] at present
      cases present
  · rcases second with ⟨gone, _⟩ | ⟨other, task'', same, found'', fewer', attempt'⟩
    · rw [found'] at gone
      cases gone
    · obtain rfl := Option.some.inj (found'.symm.trans same)
      exact .inr ⟨task, task'', found, found'', fewer'.trans fewer, attempt'.trans attempt⟩

/-- A change of a runtime that keeps its attempt and gives it no retries. -/
theorem SameAttempt.modifyTask
    {change : Task → Task}
    (attempt : ∀ task, (change task).attempt = task.attempt)
    (fewer : ∀ task, (change task).maxRetries ≤ task.maxRetries)
    (y : ℕ) :
    SameAttempt state (state.modifyTask x change) y := by
  cases found : state.tasks.get? y with
  | none => exact .inl ⟨found, get?_modifyTask_eq_none.mpr found⟩
  | some task =>
      by_cases same : y = x
      · subst same
        exact .inr ⟨task, change task, found, by simp [State.modifyTask, found],
          fewer task, attempt task⟩
      · exact .inr ⟨task, task, found, by simp [State.modifyTask, same, found],
          le_refl _, rfl⟩

theorem SameAttempt.setStatus
    (status : Status)
    (y : ℕ) :
    SameAttempt state (state.setStatus x status) y := by
  refine SameAttempt.modifyTask ?_ ?_ y
  · exact fun _ => rfl
  · exact fun _ => le_refl _

theorem Bounded.of_same
    (bounded : state.Bounded)
    (received : next.received = state.received)
    (begun : next.begun = state.begun)
    (attempts : ∀ x, SameAttempt state next x)
    (entered : ∀ x, EntersRetryable state next x) :
    next.Bounded := by
  constructor
  · intro x maxRetries known
    rw [received] at known
    obtain ⟨task, found, fewer, counted, most, waiting⟩ :=
      bounded.within x maxRetries known
    rcases attempts x with ⟨absent, _⟩ | ⟨other, task', same, found', fewer', attempt⟩
    · rw [found] at absent
      cases absent
    · obtain rfl := Option.some.inj (found.symm.trans same)
      refine ⟨task', found', fewer'.trans fewer, ?_, by omega, fun positive => ?_⟩
      · rw [begun, counted, attempt]
      · rw [attempt]
        rcases entered x with less | ⟨other, same, may⟩
        · exact waiting (by omega)
        · obtain rfl := Option.some.inj (found.symm.trans same)
          omega
  · intro x absent
    rw [begun]
    apply bounded.unknown
    rcases attempts x with ⟨before, _⟩ | ⟨_, _, _, present, _⟩
    · exact before
    · rw [absent] at present
      cases present

/-- Only a runtime that may still be retried gets an entry when it fails. -/
theorem retryOrFailTask_attempts
    (state : State)
    (x : ℕ)
    (failure : Failure) :
    (state.retryOrFailTask x failure).received = state.received ∧
      (state.retryOrFailTask x failure).begun = state.begun ∧
      (∀ y, SameAttempt state (state.retryOrFailTask x failure) y) ∧
      ∀ y, EntersRetryable state (state.retryOrFailTask x failure) y := by
  have final (middle : State) (task : Task) (error : PyDict)
      (entries : ∀ y, middle.entries y = state.entries y) (y : ℕ) :
      EntersRetryable state (middle.failFinally task error) y := by
    have fewer := middle.entries_removeModelWaiters_le y task.workflowId
    left
    rw [failFinally, entries_defer, if_neg (by simp), ← entries y]
    exact fewer
  unfold retryOrFailTask
  split
  · exact ⟨rfl, rfl, fun _ => .refl rfl, fun _ => .inl (le_refl _)⟩
  · rename_i task found
    dsimp only
    split
    · rename_i allowed
      have may : task.attempt ≤ task.maxRetries := by
        simp only [TaskRuntime.shouldRetry, Bool.and_eq_true, decide_eq_true_eq] at allowed
        exact allowed.1.2
      have others (y : ℕ) (next : State)
          (same : y ≠ x → next.entries y = state.entries y) :
          EntersRetryable state next y := by
        by_cases here : y = x
        · subst here
          exact .inr ⟨task, found, may⟩
        · exact .inl (same here).le
      split
      · exact ⟨rfl, rfl, fun _ => .refl rfl, final _ task _ fun _ => rfl⟩
      · refine ⟨rfl, rfl, fun y => .setStatus .retrying y,
          fun y => others y _ fun differ => ?_⟩
        rw [scheduleRetry, entries_defer, if_neg (by simp [Ne.symm differ])]
        rfl
      · split
        · rename_i submitted given
          split at given
          · simp only [submitRecovery, Option.ite_none_left_eq_some,
              Option.some.injEq] at given
            obtain ⟨_, rfl⟩ := given
            refine ⟨rfl, rfl, fun y => .setStatus .recovering y,
              fun y => others y _ fun differ => ?_⟩
            simp [entries, retries, modifyTask, markStopped, unmarkStopped,
              Ne.symm differ]
          · cases given
        · have lost (y : ℕ) : SameAttempt state ((state.markStopped
              task.workflowId).modifyTask x fun task => { task with maxRetries := 0 }) y := by
            refine (SameAttempt.refl rfl).trans (SameAttempt.modifyTask ?_ ?_ y)
            · exact fun _ => rfl
            · exact fun _ => Nat.zero_le _
          exact ⟨rfl, rfl, fun y => (lost y).trans (.refl rfl), final _ task _ fun _ => rfl⟩
    · exact ⟨rfl, rfl, fun _ => .refl rfl, final _ task _ fun _ => rfl⟩

theorem Bounded.retryOrFailTask
    (bounded : state.Bounded)
    (x : ℕ)
    (failure : Failure) :
    (state.retryOrFailTask x failure).Bounded := by
  obtain ⟨received, begun, attempts, entered⟩ := retryOrFailTask_attempts state x failure
  exact bounded.of_same received begun attempts entered

/-- A step that adds no entry and begins no attempt keeps the attempts bounded. -/
theorem Bounded.of_le
    (bounded : state.Bounded)
    (received : next.received = state.received)
    (begun : next.begun = state.begun)
    (attempts : ∀ y, SameAttempt state next y)
    (fewer : ∀ y, next.entries y ≤ state.entries y) :
    next.Bounded :=
  bounded.of_same received begun attempts fun y => .inl (fewer y)

/-- A head that is ready leaves its queue. -/
theorem Bounded.takeReady
    (bounded : state.Bounded)
    (queued : x ∈ state.taskQueues)
    (workflows : Table Identifier (Table Identifier ℕ)) :
    (({ state.setStatus x .ready with
      workflows := workflows } : State).take x).Bounded := by
  refine bounded.of_le rfl rfl
    (fun y => (SameAttempt.setStatus .ready y).trans (.refl rfl)) fun y => ?_
  rw [entries_take y queued]
  exact Nat.le_add_right _ _

/-- An attempt begins for a runtime that may be retried and has no entry any more. -/
theorem Bounded.beginAttempt
    (bounded : state.Bounded)
    {task : Task}
    (found : state.tasks.get? x = some task)
    (idle : state.entries x = 0)
    (may : ∀ maxRetries, state.received.get? x = some maxRetries →
      task.attempt ≤ maxRetries)
    (dispatchId leaseId : Identifier) :
    (state.beginAttempt x dispatchId leaseId).Bounded := by
  constructor
  · intro y maxRetries known
    obtain ⟨other, here, fewer, counted, most, waiting⟩ :=
      bounded.within y maxRetries known
    by_cases same : y = x
    · subst same
      obtain rfl := Option.some.inj (found.symm.trans here)
      refine ⟨{ task with toTaskRuntime :=
        task.toTaskRuntime.beginAttempt dispatchId leaseId }, ?_, fewer, ?_, ?_, ?_⟩
      · simp [State.beginAttempt, State.modifyTask, found]
      · simp [State.beginAttempt, TaskRuntime.beginAttempt, counted]
      · exact Nat.succ_le_succ (may maxRetries known)
      · intro positive
        have none_ : (state.beginAttempt y dispatchId leaseId).entries y = 0 := idle
        omega
    · refine ⟨other, ?_, fewer, ?_, most, waiting⟩
      · simp [State.beginAttempt, State.modifyTask, same, here]
      · simp [State.beginAttempt, Ne.symm same, counted]
  · intro y absent
    have before : state.tasks.get? y = none := get?_modifyTask_eq_none.mp absent
    have differ : x ≠ y := by
      rintro rfl
      rw [before] at found
      cases found
    simp [State.beginAttempt, differ, bounded.unknown y before]

/-- Every outcome of a launch keeps the attempts bounded. -/
theorem Bounded.launch
    {task : Task}
    (bounded : state.Bounded)
    (placed : state.Placed)
    (queued : x ∈ state.taskQueues)
    (found : state.tasks.get? x = some task)
    (workflows : Table Identifier (Table Identifier ℕ))
    (named : Task)
    (dispatchId leaseId : Identifier)
    (outcome : LaunchOutcome) :
    ((({ state.setStatus x .ready with workflows := workflows } : State).take x).runTask x
      named dispatchId leaseId outcome).Bounded := by
  let ready : State := { state.setStatus x .ready with workflows := workflows }
  have entries (y : ℕ) : state.entries y = (ready.take x).entries y + if x = y then 1 else 0 :=
    entries_take y queued
  have once := placed.once x
  have here := entries x
  simp only [holds, if_true] at once here
  have taken : (ready.take x).Bounded := bounded.takeReady queued workflows
  have readied : (ready.take x).tasks.get? x = some { task with status := .ready } := by
    simp [ready, State.take, setStatus, modifyTask, found]
  have may (maxRetries : ℕ) (known : (ready.take x).received.get? x = some maxRetries) :
      ({ task with status := .ready } : Task).attempt ≤ maxRetries := by
    obtain ⟨other, same, _, _, _, waiting⟩ := bounded.within x maxRetries known
    obtain rfl := Option.some.inj (found.symm.trans same)
    exact waiting (by omega)
  have begun := taken.beginAttempt readied (by omega) may dispatchId leaseId
  cases outcome with
  | started =>
      refine begun.of_le rfl rfl (fun y => ?_) fun y => ?_
      · refine SameAttempt.trans (SameAttempt.modifyTask ?_ ?_ y) (.refl rfl)
        · exact fun _ => rfl
        · exact fun _ => le_refl _
      · rw [runTask, entries_defer, if_neg (by simp)]
        exact le_refl _
  | observerRaises failure =>
      exact taken.retryOrFailTask x failure
  | runTaskRaises failure =>
      have failed : ({ (ready.take x).beginAttempt x dispatchId leaseId with
          failedLaunches := named.nextIdentity dispatchId ::
            (ready.take x).failedLaunches } : State).Bounded :=
        begun.of_le rfl rfl (fun _ => .refl rfl) fun _ => le_refl _
      exact failed.retryOrFailTask x failure

/-- A runtime that is received has begun no attempt. -/
theorem Bounded.received
    {task : Task}
    (bounded : state.Bounded)
    (absent : state.tasks.get? x = none)
    (attempt : task.attempt = 0) :
    ({ state with
      tasks := state.tasks.set x task
      received := state.received.set x task.maxRetries }.put x).Bounded := by
  constructor
  · intro y maxRetries known
    by_cases same : y = x
    · subst same
      simp only [State.put, Table.get?_set, if_true, Option.some.injEq] at known
      subst known
      refine ⟨task, by simp [State.put], le_refl _, ?_, ?_, fun _ => ?_⟩
      · rw [attempt]
        exact bounded.unknown y absent
      · rw [attempt]
        exact Nat.zero_le _
      · rw [attempt]
        exact Nat.zero_le _
    · simp only [State.put, Table.get?_set, if_neg same] at known
      obtain ⟨other, here, fewer, counted, most, waiting⟩ :=
        bounded.within y maxRetries known
      refine ⟨other, by simp [State.put, same, here], fewer, counted, most,
        fun positive => waiting ?_⟩
      rw [entries_put, if_neg (Ne.symm same)] at positive
      exact positive
  · intro y gone
    refine bounded.unknown y ?_
    by_contra present
    simp only [State.put, Table.get?_set] at gone
    split at gone
    · cases gone
    · exact present gone

/-- Every step keeps the attempts bounded. -/
theorem Bounded.step
    {action : Action}
    (placed : state.Placed)
    (bounded : state.Bounded)
    (stepped : step? state action = some next) :
    next.Bounded := by
  have left (x : ℕ) (held : x ∈ state.takenWaiters) :
      ({ state with takenWaiters := state.takenWaiters.erase x } : State).Bounded := by
    refine bounded.of_le rfl rfl (fun _ => .refl rfl) fun y => ?_
    rw [entries_takeWaiter held y]
    exact Nat.le_add_right _ _
  have drained (recovery : PendingRecovery) (pending : recovery ∈ state.recoveries) :
      ({ state with recoveries := state.recoveries.erase recovery } : State).Bounded := by
    refine bounded.of_le rfl rfl (fun _ => .refl rfl) fun y => ?_
    rw [entries_drained pending y]
    exact Nat.le_add_right _ _
  have finished (x : ℕ) : (state.setStatus x .finished).Bounded :=
    bounded.of_le rfl rfl (fun y => .setStatus .finished y) fun y => le_refl _
  cases becomes_of_step stepped with
  | received x task absent attempt => exact bounded.received absent attempt
  | stopped workflowId =>
      exact bounded.of_le rfl rfl (fun _ => .refl rfl)
        fun y => entries_removeModelWaiters_le (state.markStopped _) y _
  | cleared workflowId =>
      exact bounded.of_le rfl rfl (fun _ => .refl rfl)
        fun y => entries_removeModelWaiters_le (state.markStopped _) y _
  | discarded x task queued =>
      refine bounded.of_le rfl rfl (fun _ => .refl rfl) fun y => ?_
      rw [entries_take y (queuedTask?_spec queued).1]
      exact Nat.le_add_right _ _
  | exceeded x task workflows failure ready =>
      exact (bounded.takeReady (readyTask?_spec ready).1 workflows).retryOrFailTask x failure
  | requeued x task ready =>
      refine bounded.of_le rfl rfl
        (fun y => (SameAttempt.setStatus .ready y).trans (.refl rfl)) fun y => ?_
      rw [entries_put, entries_take y (readyTask?_spec ready).1]
      exact le_refl _
  | waits x task ready =>
      refine bounded.of_le rfl rfl
        (fun y => (SameAttempt.setStatus .pending y).trans (.refl rfl)) fun y => ?_
      exact (entries_waits (readyTask?_spec ready).1 y).le
  | superseded x task ready => exact bounded.takeReady (readyTask?_spec ready).1 _
  | postponed x task workflows ready =>
      exact bounded.of_le rfl rfl
        (fun y => (SameAttempt.refl rfl).trans (SameAttempt.setStatus .pending y))
        fun y => le_refl _
  | launched x task workflows dispatchId leaseId outcome ready =>
      obtain ⟨queued, found, _⟩ := readyTask?_spec ready
      exact bounded.launch placed queued found workflows task dispatchId leaseId outcome
  | waiterTaken x waiting =>
      exact bounded.of_le rfl rfl (fun _ => .refl rfl)
        fun y => (entries_waiterTaken waiting y).le
  | waiterLeft x held => exact left x held
  | waiterWoken x task held found =>
      refine bounded.of_le rfl rfl
        (fun y => (SameAttempt.setStatus .ready y).trans (.refl rfl)) fun y => ?_
      rw [entries_put, entries_setStatus, entries_takeWaiter held y]
  | waiterFailed x task failure held => exact (left x held).retryOrFailTask x failure
  | finished x task published =>
      refine (finished x).of_le rfl rfl (fun _ => .refl rfl) fun y => ?_
      rw [entries_defer, if_neg (by simp)]
      exact le_refl _
  | finishRaised x task failure => exact (finished x).retryOrFailTask x failure
  | failed x task failure => exact bounded.retryOrFailTask x failure
  | drained recovery pending => exact drained recovery pending
  | recovered recovery task pending =>
      refine bounded.of_le rfl rfl (fun y => ?_) fun y => ?_
      · exact ((SameAttempt.refl rfl).trans
          (SameAttempt.setStatus .retrying y)).trans (.refl rfl)
      · rw [scheduleRetry, entries_defer, entries_modifyTask, entries_drained pending y]
        simp
  | recoveryFailed recovery task failure pending =>
      exact (drained recovery pending).retryOrFailTask recovery.task failure
  | sends outgoing waiting =>
      exact bounded.of_le rfl rfl (fun _ => .refl rfl) fun y => (entries_send waiting y).le
  | calledBack callback waiting =>
      have entries := entries_callBack waiting
      cases callback with
      | publishDispatch x =>
          refine bounded.of_le rfl rfl (fun y => ?_) fun y => (entries y).le
          refine (SameAttempt.refl rfl).trans (SameAttempt.modifyTask ?_ ?_ y)
          · exact fun _ => rfl
          · exact fun _ => le_refl _
      | enqueueRetry x =>
          refine bounded.of_le rfl rfl (fun y => ?_) fun y => (entries y).le
          refine ((SameAttempt.refl rfl).trans (SameAttempt.modifyTask ?_ ?_ y)).trans
            (.refl rfl)
          · exact fun _ => rfl
          · exact fun _ => le_refl _

end Steps

/-! ## Runs -/

/-- In every state that is reached runtimes are in one place and their attempts bounded. -/
theorem of_run
    {actions : List Action}
    {state : State}
    (reached : run? step? initial actions = some state) :
    state.Placed ∧ state.Bounded := by
  have placedInitially : initial.Placed :=
    ⟨fun _ => Nat.zero_le _, fun _ _ => rfl⟩
  have boundedInitially : initial.Bounded :=
    ⟨fun _ _ known => by simp [initial] at known, fun _ _ => rfl⟩
  have preserved (state : State) (action : Action) (next : State)
      (kept : state.Placed ∧ state.Bounded)
      (stepped : step? state action = some next) :
      next.Placed ∧ next.Bounded :=
    ⟨kept.1.step stepped, kept.2.step kept.1 stepped⟩
  exact run?_invariant preserved ⟨placedInitially, boundedInitially⟩ reached

end State

/--
In every state that any interleaving reaches, a task that was received with so many
retries has begun at most one attempt more, and every task has, in the ready queues, the
model-wait set and the recoveries together, one entry at most and none while it runs.
-/
theorem attempts_bounded_in_one_place
    {actions : List Action}
    {state : State}
    (reached : run? step? initial actions = some state) :
    (∀ x maxRetries, state.received.get? x = some maxRetries →
      state.begun.count x ≤ maxRetries + 1) ∧
    ∀ x, state.taskQueues.count x + state.modelWaiting.count x +
      (state.recoveries.countP fun recovery => recovery.task = x) + state.running x ≤ 1 := by
  obtain ⟨placed, bounded⟩ := State.of_run reached
  constructor
  · intro x maxRetries known
    obtain ⟨task, _, _, counted, most, _⟩ := bounded.within x maxRetries known
    rw [counted]
    exact most
  · intro x
    have once := placed.once x
    simp only [State.holds, State.entries] at once
    omega

/-! ## A run -/

/-- A task that may be retried once. -/
def someTask : Task where
  workflowId := ⟨"run", run_nonempty⟩
  taskId := ⟨"task", task_nonempty⟩
  taskKind := "cpu"
  queueName := .str "cpu"
  resources := .dict []
  maxRetries := 1
  retryOn := ["node_lost"]
  retryBackoffSeconds := .int 0
  schedulingMetadata := .dict []
  faultTolerance := .dict []
  fileManifest := .null
  lastMetrics := .null
  lastAttemptTiming := none
  lastScheduleDecision := none
  selectedNode := none
  attempt := 0
  dispatchId := none
  leaseId := none
  previousAttemptIdentity := none
  status := .ready
  dispatchPublished := true

/-- The id of a dispatch of the task. -/
def someDispatch : Identifier := ⟨"dispatch", dispatch_nonempty⟩

/-- The lease of the dispatch. -/
def someLease : Identifier := ⟨"lease", lease_nonempty⟩

/-- The identity of the dispatch. -/
def someIdentity : DispatchIdentity :=
  ⟨⟨"run", run_nonempty⟩, ⟨"task", task_nonempty⟩, 1, someDispatch⟩

/-- The task is received and launched. -/
def launched : List Action :=
  [.receiveTask 0 someTask, .launch 0 someDispatch someLease .started]

theorem launched_in_one_place :
    ∃ state, run? step? initial launched = some state ∧
      state.received.get? 0 = some 1 ∧ state.begun.count 0 = 1 ∧ state.running 0 = 1 ∧
      (∀ x maxRetries, state.received.get? x = some maxRetries →
        state.begun.count x ≤ maxRetries + 1) ∧
      ∀ x, state.taskQueues.count x + state.modelWaiting.count x +
        (state.recoveries.countP fun recovery => recovery.task = x) +
          state.running x ≤ 1 := by
  have ran : ((run? step? initial launched).any fun state =>
      decide (state.received.get? 0 = some 1 ∧ state.begun.count 0 = 1 ∧
        state.running 0 = 1)) = true := by
    decide +kernel
  obtain ⟨state, reached, decided⟩ := (Option.any_eq_true _ _).mp ran
  obtain ⟨received, begun, running⟩ := of_decide_eq_true decided
  exact ⟨state, reached, received, begun, running, attempts_bounded_in_one_place reached⟩

end Maze.Scheduler.TaskQueues
