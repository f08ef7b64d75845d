import Maze.Library.Transition
import Maze.Python.Value

namespace Maze.Scheduler.StoppedMarks

open Maze.Python
open Maze.Library.Transition

/-!
# The stopped-workflow set and the tasks that wait

The scheduler's threads share the ready queues, the model-wait set and
`stopped_workflow_ids`. A mark in that set is permanent once a workflow has been
stopped, cleared, rejected or finally failed; `_retry_or_fail_task` also adds one
before it decides, and withdraws it when the task is to be retried. The model
interleaves the steps of the threads; a step is what a thread does under one of
the locks it takes, or one unlocked read of the set together with its effect.
-/

/-- A `TaskRuntime`; `object` tells two runtimes of one task apart. -/
structure Task where
  workflowId : PyStr
  taskId : PyStr
  object : Nat
  deriving DecidableEq

/-- `(model, backend)`, the key of the model-wait set. -/
abbrev ModelKey := PyStr × PyStr

/-- The threads that touch the waiting tasks. -/
inductive Thread where
  | receive
  | supervisor
  | submit
  | llmInstance
  deriving DecidableEq

/-- Where a task is. -/
inductive Place where
  /-- Core has not sent it yet. -/
  | unknown
  /-- In a ready queue. -/
  | queued
  /-- In the model-wait set. -/
  | modelWaiting (key : ModelKey)
  /-- Taken out of the model-wait set by a wake-up that will restore it. -/
  | woken (waker : Thread)
  /-- Taken out of the model-wait set by `_fail_model_waiters`. -/
  | failingWaiter
  /-- In the hands of the failure handling. -/
  | failing
  /-- Its `task_retry` message is on its way; it is queued once that is sent. -/
  | retrying
  /-- Its resources are being recovered. -/
  | recovering
  /-- Dispatched to a node. -/
  | running
  /-- Cancelled with its workflow while it was dispatched. -/
  | cancelled
  /-- A second runtime of a task that is registered already. -/
  | superseded
  /-- Finally failed: its `task_exception` has been sent. -/
  | failed
  /-- Removed without any message. -/
  | discarded
  deriving DecidableEq

/--
The shared state. `current` is the submit loop's `cur_ready_task` and whether
the task has passed the unlocked stop check; `marked` is the task for which
`_retry_or_fail_task` has added its mark and not decided yet. `ended` records the
workflows that have really been stopped, cleared, rejected or finally failed.
-/
structure State where
  place : Task → Place
  current : Option (Task × Bool)
  registered : List Task
  stopped : List PyStr
  ended : List PyStr
  lock : Option Thread
  marked : Option Task

/-- A scheduler without tasks. -/
def State.initial : State where
  place := fun _ => .unknown
  current := none
  registered := []
  stopped := []
  ended := []
  lock := none
  marked := none

/-- The task is moved. -/
def State.move
    (state : State)
    (task : Task)
    (place : Place) :
    State :=
  { state with
    place := fun other => if other = task then place else state.place other }

/-- Where the end of a workflow leaves one of its tasks. -/
def placeAfterEnd : Place → Place
  | .modelWaiting _ => .discarded
  | .running | .recovering => .cancelled
  | place => place

/--
The workflow ends: `_remove_model_waiters_for_workflow`, `cancel_workflow` and
`clear_workflow`.
-/
def State.endWorkflow
    (state : State)
    (workflowId : PyStr) :
    State :=
  { state with
    place := fun task =>
      if task.workflowId = workflowId then placeAfterEnd (state.place task)
      else state.place task
    registered :=
      state.registered.filter fun task => task.workflowId ≠ workflowId
    stopped := workflowId :: state.stopped
    ended := workflowId :: state.ended }

/-- The steps of the threads. -/
inductive Action where
  /-- `_receive_thread`: `run_task`. -/
  | receiveTask (task : Task)
  /-- `_receive_thread`: a stopped, cleared or rejected workflow. -/
  | stopWorkflow (workflowId : PyStr)
  /-- `_submit_thread`: `peek`. -/
  | peek (task : Task)
  /-- `_submit_thread`: the stop check before the lock is taken. -/
  | headCheck
  /-- `_submit_thread`: the head is not eligible yet. -/
  | skipHead
  /-- The scheduler lock is taken. -/
  | acquire (thread : Thread)
  /-- The scheduler lock is released. -/
  | release (thread : Thread)
  /-- `_submit_thread`: the stop check under the lock finds a mark. -/
  | discardStopped
  /-- `_submit_thread`: the head exceeds the capacity or cannot be started. -/
  | failHead
  /-- `_submit_thread`: `_wait_for_model`. -/
  | waitForModel (key : ModelKey)
  /-- `_submit_thread`: `add_task` knows another runtime of the task. -/
  | supersede (other : Task)
  /-- `_submit_thread`: no node can run the head. -/
  | pend
  /-- `_submit_thread`: the head is dispatched. -/
  | dispatch
  /-- `_wake_model_waiters`: the waiters of a model are taken. -/
  | takeWaiters (waker : Thread) (key : ModelKey)
  /-- `_wake_model_waiters`: one of them is checked and restored. -/
  | wakeCheck (waker : Thread) (task : Task)
  /-- `_fail_model_waiters`: the waiters of a model are taken. -/
  | takeFailedWaiters (key : ModelKey)
  /-- `_fail_model_waiters`: one of them is checked under the lock. -/
  | failWaiterCheck (task : Task)
  /-- `_retry_or_fail_task` adds its mark. -/
  | addMark (thread : Thread) (task : Task)
  /-- `_retry_or_fail_task` withdraws its mark and sends `task_retry`. -/
  | scheduleRetry
  /-- `_retry_or_fail_task` withdraws its mark and starts the recovery. -/
  | startRecovery
  /-- The recovery could not be started; the task is failed by a nested call. -/
  | recoveryRefused
  /-- `_retry_or_fail_task` fails the workflow and sends `task_exception`. -/
  | failFinally
  /-- `_drain_resource_recoveries` schedules the retry. -/
  | recovered (task : Task)
  /-- The `task_retry` message is sent: `enqueue_retry`. -/
  | enqueueRetry (task : Task)

/-- The submit loop holds the lock and a head that passed the unlocked check. -/
def State.lockedHead?
    (state : State) :
    Option Task :=
  match state.current, state.lock, state.marked with
  | some (task, true), some .submit, none => some task
  | _, _, _ => none

/-- Another runtime of the same task. -/
def Task.duplicates
    (first second : Task) :
    Bool :=
  first ≠ second && first.workflowId = second.workflowId &&
    first.taskId = second.taskId

/-- Whether `_retry_or_fail_task` may be called for a task in this place. -/
def Place.mayFail : Place → Bool
  | .failing | .running | .recovering | .cancelled => true
  | _ => false

/-- Withdraw the mark of the task that is being handled. -/
def State.withdrawMark
    (state : State)
    (task : Task)
    (place : Place) :
    State :=
  { state.move task place with
    stopped := state.stopped.filter fun other => other ≠ task.workflowId
    marked := none }

/-- One step of one thread. -/
def step?
    (state : State) :
    Action → Option State
  | .receiveTask task =>
      if state.lock = none ∧ state.place task = .unknown ∧
          task.workflowId ∉ state.stopped then
        some (state.move task .queued)
      else
        none
  | .stopWorkflow workflowId =>
      if state.lock = none then
        some (state.endWorkflow workflowId)
      else
        none
  | .peek task =>
      if state.current = none ∧ state.lock ≠ some .submit ∧
          state.place task = .queued then
        some { state with current := some (task, false) }
      else
        none
  | .headCheck =>
      match state.current with
      | some (task, false) =>
          if task.workflowId ∈ state.stopped then
            some { state.move task .discarded with current := none }
          else
            some { state with current := some (task, true) }
      | _ => none
  | .skipHead =>
      match state.current with
      | some (_, true) =>
          if state.lock = some .submit then
            none
          else
            some { state with current := none }
      | _ => none
  | .acquire thread =>
      if state.lock = none ∧
          (thread = .submit → ∃ task ∈ state.current, task.2 = true) then
        some { state with lock := some thread }
      else
        none
  | .release thread =>
      if state.lock = some thread ∧ state.marked = none then
        some { state with
          lock := none
          current := if thread = .submit then none else state.current }
      else
        none
  | .discardStopped =>
      match state.lockedHead? with
      | some task =>
          if task.workflowId ∈ state.stopped then
            some { state.move task .discarded with current := none }
          else
            none
      | none => none
  | .failHead =>
      match state.lockedHead? with
      | some task =>
          if task.workflowId ∈ state.stopped then
            none
          else
            some { state.move task .failing with current := none }
      | none => none
  | .waitForModel key =>
      match state.lockedHead? with
      | some task =>
          if task.workflowId ∈ state.stopped then
            none
          else
            some { state.move task (.modelWaiting key) with current := none }
      | none => none
  | .supersede other =>
      match state.lockedHead? with
      | some task =>
          if task.duplicates other ∧ other ∈ state.registered then
            some { state.move task .superseded with current := none }
          else
            none
      | none => none
  | .pend =>
      match state.lockedHead? with
      | some task =>
          if task.workflowId ∈ state.stopped then
            none
          else
            some { state with
              registered := task :: state.registered
              current := none }
      | none => none
  | .dispatch =>
      match state.lockedHead? with
      | some task =>
          if task.workflowId ∈ state.stopped then
            none
          else
            some { state.move task .running with
              registered := task :: state.registered
              current := none }
      | none => none
  | .takeWaiters waker key =>
      if state.lock = some waker → state.marked = none then
        some { state with
          place := fun task =>
            if state.place task = .modelWaiting key then .woken waker
            else state.place task }
      else
        none
  | .wakeCheck waker task =>
      if state.place task = .woken waker ∧
          (state.lock = some waker → state.marked = none) then
        if task.workflowId ∈ state.stopped then
          some (state.move task .discarded)
        else
          some (state.move task .queued)
      else
        none
  | .takeFailedWaiters key =>
      if state.lock ≠ some .llmInstance then
        some { state with
          place := fun task =>
            if state.place task = .modelWaiting key then .failingWaiter
            else state.place task }
      else
        none
  | .failWaiterCheck task =>
      if state.lock = some .llmInstance ∧ state.marked = none ∧
          state.place task = .failingWaiter then
        if task.workflowId ∈ state.stopped then
          some (state.move task .discarded)
        else
          some (state.move task .failing)
      else
        none
  | .addMark thread task =>
      if state.lock = some thread ∧ state.marked = none ∧
          (state.place task).mayFail then
        some { state.move task .failing with
          stopped := task.workflowId :: state.stopped
          marked := some task }
      else
        none
  | .scheduleRetry =>
      state.marked.map fun task => state.withdrawMark task .retrying
  | .startRecovery =>
      state.marked.map fun task => state.withdrawMark task .recovering
  | .recoveryRefused =>
      state.marked.map fun task => state.withdrawMark task .failing
  | .failFinally =>
      state.marked.map fun task =>
        { (state.move task .failed).endWorkflow task.workflowId with
          marked := none }
  | .recovered task =>
      if state.lock = some .supervisor ∧ state.marked = none ∧
          state.place task = .recovering ∧
          task.workflowId ∉ state.stopped then
        some (state.move task .retrying)
      else
        none
  | .enqueueRetry task =>
      if state.place task = .retrying then
        some (state.move task .queued)
      else
        none

/-! ## The properties -/

/-- The task waits, or a thread holds it between two waiting places. -/
def Place.isWaiting : Place → Bool
  | .queued | .modelWaiting _ | .woken _ | .failingWaiter => true
  | _ => false

/-- The scheduler still answers for the task. -/
def Place.isHandled : Place → Bool
  | .unknown | .cancelled | .discarded => false
  | _ => true

/-- A waiting task leaves its place only into good hands or with its workflow. -/
def KeepsWaiting
    (state : State)
    (action : Action) : Prop :=
  ∀ next, step? state action = some next →
    ∀ task, (state.place task).isWaiting = true →
      (next.place task).isHandled = true ∨ task.workflowId ∈ next.ended

/-- No undecided mark stands for the workflow of the task, unless it has ended. -/
def Unmarked
    (state : State)
    (task : Task) : Prop :=
  ∀ other, state.marked = some other →
    other.workflowId = task.workflowId →
      task.workflowId ∈ state.ended

/--
The step does not read the stopped set without the lock while an undecided mark
stands for the workflow of the task that it checks.
-/
def ReadsSettledMarks
    (state : State) :
    Action → Prop
  | .headCheck => ∀ task, state.current = some (task, false) → Unmarked state task
  | .wakeCheck _ task => Unmarked state task
  | _ => True

/-! ## The invariant -/

/-- Every mark is permanent or the one that is being decided. -/
structure Invariant
    (state : State) : Prop where
  settled :
    ∀ workflowId ∈ state.stopped,
      workflowId ∈ state.ended ∨
        ∃ task, state.marked = some task ∧ task.workflowId = workflowId
  marked :
    ∀ task, state.marked = some task →
      task.workflowId ∈ state.stopped ∧
        state.lock ≠ none ∧
        state.place task = .failing
  head :
    ∀ task passed, state.current = some (task, passed) →
      state.place task = .queued

theorem invariant_initial :
    Invariant .initial := by
  constructor <;> simp [State.initial]

theorem lockedHead?_eq_some
    {state : State}
    {task : Task}
    (found : state.lockedHead? = some task) :
    state.current = some (task, true) ∧
      state.lock = some .submit ∧
      state.marked = none := by
  unfold State.lockedHead? at found
  split at found
  · cases found
    exact ⟨‹_›, ‹_›, ‹_›⟩
  · cases found

@[simp] theorem move_place
    (state : State)
    (task other : Task)
    (place : Place) :
    (state.move task place).place other =
      if other = task then place else state.place other := rfl

@[simp] theorem move_current
    (state : State)
    (task : Task)
    (place : Place) :
    (state.move task place).current = state.current := rfl

/-- With no mark under decision, every mark is permanent. -/
theorem Invariant.ended_of_stopped
    {state : State}
    (holds : Invariant state)
    (undecided : state.marked = none)
    {workflowId : PyStr}
    (stopped : workflowId ∈ state.stopped) :
    workflowId ∈ state.ended := by
  rcases holds.settled workflowId stopped with ended | ⟨task, marked, _⟩
  · exact ended
  · rw [undecided] at marked
    cases marked

/-- Moving a task that is neither the head nor being decided. -/
theorem Invariant.move
    {state : State}
    (holds : Invariant state)
    {task : Task}
    (place : Place)
    (notHead : place = .queued ∨ state.place task ≠ .queued)
    (notMarked : state.marked = none ∨ state.place task ≠ .failing) :
    Invariant (state.move task place) where
  settled := holds.settled
  marked := by
    intro other marked
    obtain ⟨stopped, locked, failing⟩ := holds.marked other marked
    refine ⟨stopped, locked, ?_⟩
    by_cases same : other = task
    · subst same
      rcases notMarked with undecided | moved
      · cases undecided.symm.trans marked
      · exact absurd failing moved
    · simpa [same] using failing
  head := by
    intro other passed current
    have queued := holds.head other passed current
    by_cases same : other = task
    · subst same
      rcases notHead with rfl | moved
      · simp
      · exact absurd queued moved
    · simpa [same] using queued

/-- Taking the head out of its queue keeps the invariant. -/
theorem Invariant.moveHead
    {state : State}
    (holds : Invariant state)
    {task : Task}
    {passed : Bool}
    (current : state.current = some (task, passed))
    (place : Place) :
    Invariant { state.move task place with current := none } where
  settled := holds.settled
  marked := by
    intro other marked
    obtain ⟨stopped, locked, failing⟩ := holds.marked other marked
    have queued := holds.head task passed current
    have differ : other ≠ task := by
      rintro rfl
      rw [failing] at queued
      cases queued
    exact ⟨stopped, locked, by simpa [differ] using failing⟩
  head := by simp

/-- Withdrawing the mark of the task that is being decided. -/
theorem Invariant.withdrawMark
    {state : State}
    (holds : Invariant state)
    {task : Task}
    (marked : state.marked = some task)
    (place : Place) :
    Invariant (state.withdrawMark task place) where
  settled := by
    intro workflowId stopped
    simp only [State.withdrawMark, State.move, List.mem_filter,
      decide_eq_true_eq] at stopped
    obtain ⟨stopped, differ⟩ := stopped
    rcases holds.settled workflowId stopped with ended | ⟨other, same, rfl⟩
    · exact .inl ended
    · rw [marked] at same
      cases same
      exact absurd rfl differ
  marked := by simp [State.withdrawMark]
  head := by
    intro other passed current
    have queued := holds.head other passed current
    have failing := (holds.marked task marked).2.2
    have differ : other ≠ task := by
      rintro rfl
      rw [failing] at queued
      cases queued
    simpa [State.withdrawMark, differ] using queued

/-- The end of a workflow leaves the heads of the queues where they are. -/
theorem endWorkflow_place_of_queued
    {state : State}
    {task : Task}
    (workflowId : PyStr)
    (queued : state.place task = .queued) :
    (state.endWorkflow workflowId).place task = .queued := by
  simp [State.endWorkflow, queued, placeAfterEnd]

/-- The end of a workflow keeps the invariant. -/
theorem Invariant.endWorkflow
    {state : State}
    (holds : Invariant state)
    (undecided : state.marked = none)
    (workflowId : PyStr) :
    Invariant (state.endWorkflow workflowId) where
  settled := by
    intro other stopped
    simp only [State.endWorkflow, List.mem_cons] at stopped ⊢
    rcases stopped with same | stopped
    · exact .inl (.inl same)
    · exact .inl (.inr (holds.ended_of_stopped undecided stopped))
  marked := by simp [State.endWorkflow, undecided]
  head := by
    intro task passed current
    exact endWorkflow_place_of_queued workflowId
      (holds.head task passed current)

/-- Deciding that a task has finally failed makes its mark permanent. -/
theorem Invariant.failFinally
    {state : State}
    (holds : Invariant state)
    {task : Task}
    (marked : state.marked = some task) :
    Invariant
      { (state.move task .failed).endWorkflow task.workflowId with
        marked := none } where
  settled := by
    intro other stopped
    simp only [State.endWorkflow, State.move, List.mem_cons] at stopped ⊢
    rcases stopped with same | stopped
    · exact .inl (.inl same)
    · rcases holds.settled other stopped with ended | ⟨failed, decided, rfl⟩
      · exact .inl (.inr ended)
      · rw [marked] at decided
        cases decided
        exact .inl (.inl rfl)
  marked := by simp
  head := by
    intro other passed current
    have queued := holds.head other passed current
    have failing := (holds.marked task marked).2.2
    have differ : other ≠ task := by
      rintro rfl
      rw [failing] at queued
      cases queued
    exact endWorkflow_place_of_queued task.workflowId
      (by simpa [differ] using queued)

/-- Adding the mark of a task whose failure is about to be decided. -/
theorem Invariant.addMark
    {state : State}
    (holds : Invariant state)
    {task : Task}
    {thread : Thread}
    (locked : state.lock = some thread)
    (undecided : state.marked = none)
    (mayFail : (state.place task).mayFail = true) :
    Invariant
      { state.move task .failing with
        stopped := task.workflowId :: state.stopped
        marked := some task } where
  settled := by
    intro other stopped
    simp only [List.mem_cons] at stopped
    rcases stopped with rfl | stopped
    · exact .inr ⟨task, rfl, rfl⟩
    · exact .inl (holds.ended_of_stopped undecided stopped)
  marked := by
    rintro _ ⟨⟩
    simp [State.move, locked]
  head := by
    intro other passed current
    have queued := holds.head other passed current
    have differ : other ≠ task := by
      rintro rfl
      simp [queued, Place.mayFail] at mayFail
    simpa [differ] using queued

/-- Taking waiters out of the model-wait set keeps the invariant. -/
theorem Invariant.takeWaiters
    {state : State}
    (holds : Invariant state)
    (key : ModelKey)
    (place : Place) :
    Invariant
      { state with
        place := fun task =>
          if state.place task = .modelWaiting key then place
          else state.place task } where
  settled := holds.settled
  marked := by
    intro task marked
    obtain ⟨stopped, locked, failing⟩ := holds.marked task marked
    exact ⟨stopped, locked, by simp [failing]⟩
  head := by
    intro task passed current
    simp [holds.head task passed current]

/-- Registering the head and letting go of it keeps the invariant. -/
theorem Invariant.letGo
    {state : State}
    (holds : Invariant state)
    (registered : List Task)
    (lock : Option Thread)
    (sameLock : state.marked = none ∨ lock = state.lock) :
    Invariant
      { state with
        registered := registered
        lock := lock
        current := none } where
  settled := holds.settled
  marked := by
    intro task marked
    obtain ⟨stopped, locked, failing⟩ := holds.marked task marked
    rcases sameLock with undecided | same
    · cases undecided.symm.trans marked
    · exact ⟨stopped, same ▸ locked, failing⟩
  head := by simp

/-- Every step of every thread keeps the invariant. -/
theorem invariant_step
    {state next : State}
    {action : Action}
    (holds : Invariant state)
    (stepped : step? state action = some next) :
    Invariant next := by
  cases action with
  | receiveTask task =>
      simp only [step?, Option.ite_none_right_eq_some,
        Option.some.injEq] at stepped
      obtain ⟨⟨_, unknown, _⟩, rfl⟩ := stepped
      exact holds.move .queued (.inl rfl) (.inr (by simp [unknown]))
  | stopWorkflow workflowId =>
      simp only [step?, Option.ite_none_right_eq_some,
        Option.some.injEq] at stepped
      obtain ⟨unlocked, rfl⟩ := stepped
      have undecided : state.marked = none := by
        cases decided : state.marked with
        | none =>
            rfl
        | some task =>
            exact absurd unlocked (holds.marked task decided).2.1
      exact holds.endWorkflow undecided workflowId
  | peek task =>
      simp only [step?, Option.ite_none_right_eq_some,
        Option.some.injEq] at stepped
      obtain ⟨⟨_, _, queued⟩, rfl⟩ := stepped
      refine ⟨holds.settled, holds.marked, ?_⟩
      rintro _ _ ⟨⟩
      exact queued
  | headCheck =>
      simp only [step?] at stepped
      split at stepped
      · rename_i task current
        split at stepped
        · cases stepped
          exact holds.moveHead current .discarded
        · cases stepped
          refine ⟨holds.settled, holds.marked, ?_⟩
          rintro _ _ ⟨⟩
          exact holds.head task false current
      · cases stepped
  | skipHead =>
      simp only [step?] at stepped
      split at stepped
      · split at stepped
        · cases stepped
        · cases stepped
          exact holds.letGo state.registered state.lock (.inr rfl)
      · cases stepped
  | acquire thread =>
      simp only [step?, Option.ite_none_right_eq_some,
        Option.some.injEq] at stepped
      obtain ⟨⟨unlocked, _⟩, rfl⟩ := stepped
      refine ⟨holds.settled, ?_, holds.head⟩
      intro task marked
      exact absurd unlocked (holds.marked task marked).2.1
  | release thread =>
      simp only [step?, Option.ite_none_right_eq_some,
        Option.some.injEq] at stepped
      obtain ⟨⟨_, undecided⟩, rfl⟩ := stepped
      refine ⟨holds.settled, ?_, ?_⟩
      · intro task marked
        cases undecided.symm.trans marked
      · intro task passed current
        split at current
        · cases current
        · exact holds.head task passed current
  | discardStopped =>
      simp only [step?] at stepped
      split at stepped
      · rename_i task found
        simp only [Option.ite_none_right_eq_some,
          Option.some.injEq] at stepped
        obtain ⟨_, rfl⟩ := stepped
        exact holds.moveHead (lockedHead?_eq_some found).1 .discarded
      · cases stepped
  | failHead | waitForModel key | supersede other =>
      simp only [step?] at stepped
      split at stepped
      · rename_i task found
        split at stepped <;> cases stepped
        exact holds.moveHead (lockedHead?_eq_some found).1 _
      · cases stepped
  | pend =>
      simp only [step?] at stepped
      split at stepped
      · split at stepped <;> cases stepped
        exact holds.letGo _ state.lock (.inr rfl)
      · cases stepped
  | dispatch =>
      simp only [step?] at stepped
      split at stepped
      · rename_i task found
        split at stepped <;> cases stepped
        have moved := holds.moveHead (lockedHead?_eq_some found).1 .running
        exact moved.letGo (task :: state.registered) state.lock (.inr rfl)
      · cases stepped
  | takeWaiters waker key | takeFailedWaiters key =>
      simp only [step?, Option.ite_none_right_eq_some,
        Option.some.injEq] at stepped
      obtain ⟨_, rfl⟩ := stepped
      exact holds.takeWaiters key _
  | wakeCheck waker task =>
      simp only [step?, Option.ite_none_right_eq_some] at stepped
      obtain ⟨⟨woken, _⟩, stepped⟩ := stepped
      split at stepped <;> cases stepped
      · exact holds.move _ (.inr (by simp [woken])) (.inr (by simp [woken]))
      · exact holds.move _ (.inl rfl) (.inr (by simp [woken]))
  | failWaiterCheck task =>
      simp only [step?, Option.ite_none_right_eq_some] at stepped
      obtain ⟨⟨_, _, taken⟩, stepped⟩ := stepped
      split at stepped <;> cases stepped
      · exact holds.move _ (.inr (by simp [taken])) (.inr (by simp [taken]))
      · exact holds.move _ (.inr (by simp [taken])) (.inr (by simp [taken]))
  | addMark thread task =>
      simp only [step?, Option.ite_none_right_eq_some,
        Option.some.injEq] at stepped
      obtain ⟨⟨locked, undecided, mayFail⟩, rfl⟩ := stepped
      exact holds.addMark locked undecided mayFail
  | scheduleRetry | startRecovery | recoveryRefused =>
      simp only [step?, Option.map_eq_some_iff] at stepped
      obtain ⟨task, marked, rfl⟩ := stepped
      exact holds.withdrawMark marked _
  | failFinally =>
      simp only [step?, Option.map_eq_some_iff] at stepped
      obtain ⟨task, marked, rfl⟩ := stepped
      exact holds.failFinally marked
  | recovered task =>
      simp only [step?, Option.ite_none_right_eq_some,
        Option.some.injEq] at stepped
      obtain ⟨⟨_, undecided, recovering, _⟩, rfl⟩ := stepped
      exact holds.move _ (.inr (by simp [recovering])) (.inl undecided)
  | enqueueRetry task =>
      simp only [step?, Option.ite_none_right_eq_some,
        Option.some.injEq] at stepped
      obtain ⟨retrying, rfl⟩ := stepped
      exact holds.move _ (.inl rfl) (.inr (by simp [retrying]))

/-! ## One step -/

theorem Place.isHandled_of_isWaiting
    {place : Place}
    (waiting : place.isWaiting = true) :
    place.isHandled = true := by
  cases place <;> simp_all [Place.isWaiting, Place.isHandled]

/-- Moving one task keeps the others where they are. -/
theorem keepsWaiting_move
    {state : State}
    {task : Task}
    {place : Place}
    {ended : List PyStr}
    (kept : place.isHandled = true ∨ task.workflowId ∈ ended)
    (other : Task)
    (waiting : (state.place other).isWaiting = true) :
    ((state.move task place).place other).isHandled = true ∨
      other.workflowId ∈ ended := by
  by_cases same : other = task
  · subst same
    simpa using kept
  · left
    simpa [same] using Place.isHandled_of_isWaiting waiting

/-- The end of a workflow only affects its own tasks. -/
theorem keepsWaiting_endWorkflow
    {state : State}
    (workflowId : PyStr)
    (other : Task)
    (handled : (state.place other).isHandled = true) :
    ((state.endWorkflow workflowId).place other).isHandled = true ∨
      other.workflowId ∈ (state.endWorkflow workflowId).ended := by
  by_cases same : other.workflowId = workflowId
  · right
    simp [State.endWorkflow, same]
  · left
    simpa [State.endWorkflow, same] using handled

/-- Taking waiters out of the model-wait set keeps every task in hand. -/
theorem keepsWaiting_takeWaiters
    {state : State}
    {key : ModelKey}
    {place : Place}
    (good : place.isHandled = true)
    (other : Task)
    (waiting : (state.place other).isWaiting = true) :
    (if state.place other = .modelWaiting key then place
      else state.place other).isHandled = true := by
  split
  · exact good
  · exact Place.isHandled_of_isWaiting waiting

/-- A check that finds a mark under the lock finds a permanent one. -/
theorem Invariant.ended_of_lockedHead
    {state : State}
    (holds : Invariant state)
    {task : Task}
    (found : state.lockedHead? = some task)
    (stopped : task.workflowId ∈ state.stopped) :
    task.workflowId ∈ state.ended :=
  holds.ended_of_stopped (lockedHead?_eq_some found).2.2 stopped

/-- A settled mark is permanent. -/
theorem Invariant.ended_of_unmarked
    {state : State}
    (holds : Invariant state)
    {task : Task}
    (unmarked : Unmarked state task)
    (stopped : task.workflowId ∈ state.stopped) :
    task.workflowId ∈ state.ended := by
  rcases holds.settled _ stopped with ended | ⟨other, marked, same⟩
  · exact ended
  · exact unmarked other marked same

/-- A step that reads settled marks keeps the waiting tasks. -/
theorem keepsWaiting_of_readsSettledMarks
    {state : State}
    {action : Action}
    (holds : Invariant state)
    (settled : ReadsSettledMarks state action) :
    KeepsWaiting state action := by
  intro next stepped task waiting
  have handled := Place.isHandled_of_isWaiting waiting
  cases action with
  | receiveTask other =>
      simp only [step?, Option.ite_none_right_eq_some,
        Option.some.injEq] at stepped
      obtain ⟨_, rfl⟩ := stepped
      exact keepsWaiting_move (.inl rfl) task waiting
  | stopWorkflow workflowId =>
      simp only [step?, Option.ite_none_right_eq_some,
        Option.some.injEq] at stepped
      obtain ⟨_, rfl⟩ := stepped
      exact keepsWaiting_endWorkflow workflowId task handled
  | peek | acquire | release =>
      simp only [step?, Option.ite_none_right_eq_some,
        Option.some.injEq] at stepped
      obtain ⟨_, rfl⟩ := stepped
      exact .inl handled
  | headCheck =>
      simp only [step?] at stepped
      split at stepped
      · rename_i head current
        split at stepped
        · rename_i stopped
          cases stepped
          exact keepsWaiting_move
            (.inr (holds.ended_of_unmarked (settled head current) stopped))
            task waiting
        · cases stepped
          exact .inl handled
      · cases stepped
  | skipHead =>
      simp only [step?] at stepped
      split at stepped
      · split at stepped <;> cases stepped
        exact .inl handled
      · cases stepped
  | discardStopped =>
      simp only [step?] at stepped
      split at stepped
      · rename_i head found
        simp only [Option.ite_none_right_eq_some,
          Option.some.injEq] at stepped
        obtain ⟨stopped, rfl⟩ := stepped
        exact keepsWaiting_move
          (.inr (holds.ended_of_lockedHead found stopped)) task waiting
      · cases stepped
  | failHead | waitForModel | supersede | dispatch =>
      simp only [step?] at stepped
      split at stepped
      · split at stepped <;> cases stepped
        exact keepsWaiting_move (.inl rfl) task waiting
      · cases stepped
  | pend =>
      simp only [step?] at stepped
      split at stepped
      · split at stepped <;> cases stepped
        exact .inl handled
      · cases stepped
  | takeWaiters | takeFailedWaiters =>
      simp only [step?, Option.ite_none_right_eq_some,
        Option.some.injEq] at stepped
      obtain ⟨_, rfl⟩ := stepped
      exact .inl (keepsWaiting_takeWaiters rfl task waiting)
  | wakeCheck waker woken =>
      simp only [step?, Option.ite_none_right_eq_some] at stepped
      obtain ⟨_, stepped⟩ := stepped
      split at stepped
      · rename_i stopped
        cases stepped
        exact keepsWaiting_move
          (.inr (holds.ended_of_unmarked settled stopped)) task waiting
      · cases stepped
        exact keepsWaiting_move (.inl rfl) task waiting
  | failWaiterCheck waiter =>
      simp only [step?, Option.ite_none_right_eq_some] at stepped
      obtain ⟨⟨_, undecided, _⟩, stepped⟩ := stepped
      split at stepped
      · rename_i stopped
        cases stepped
        exact keepsWaiting_move
          (.inr (holds.ended_of_stopped undecided stopped)) task waiting
      · cases stepped
        exact keepsWaiting_move (.inl rfl) task waiting
  | addMark | recovered | enqueueRetry =>
      simp only [step?, Option.ite_none_right_eq_some,
        Option.some.injEq] at stepped
      obtain ⟨_, rfl⟩ := stepped
      exact keepsWaiting_move (.inl rfl) task waiting
  | scheduleRetry | startRecovery | recoveryRefused =>
      simp only [step?, Option.map_eq_some_iff] at stepped
      obtain ⟨failed, _, rfl⟩ := stepped
      exact keepsWaiting_move (.inl rfl) task waiting
  | failFinally =>
      simp only [step?, Option.map_eq_some_iff] at stepped
      obtain ⟨failed, _, rfl⟩ := stepped
      have moved :
          (((state.move failed .failed).place task).isHandled = true) := by
        by_cases same : task = failed
        · simp [same, Place.isHandled]
        · simpa [same] using handled
      exact keepsWaiting_endWorkflow failed.workflowId task moved

/-- An unlocked read of an undecided mark discards a task of a live workflow. -/
theorem not_keepsWaiting_of_discard
    {state next : State}
    {action : Action}
    {task : Task}
    (stepped : step? state action = some next)
    (waiting : (state.place task).isWaiting = true)
    (discarded : next.place task = .discarded)
    (live : task.workflowId ∉ next.ended) :
    ¬ KeepsWaiting state action := by
  intro keeps
  rcases keeps next stepped task waiting with handled | ended
  · rw [discarded] at handled
    cases handled
  · exact live ended

/--
At an enabled step, waiting tasks are kept if and only if the step does not read
an undecided mark without the lock.
-/
theorem keepsWaiting_iff_readsSettledMarks
    {state next : State}
    {action : Action}
    (holds : Invariant state)
    (stepped : step? state action = some next) :
    KeepsWaiting state action ↔ ReadsSettledMarks state action := by
  refine ⟨?_, keepsWaiting_of_readsSettledMarks holds⟩
  intro keeps
  cases action with
  | headCheck =>
      intro task current other marked same
      by_contra live
      have stopped : task.workflowId ∈ state.stopped :=
        same ▸ (holds.marked other marked).1
      have discards :
          step? state .headCheck =
            some { state.move task .discarded with current := none } := by
        simp [step?, current, stopped]
      have queued := holds.head task false current
      exact not_keepsWaiting_of_discard discards
        (by rw [queued]; rfl) (by simp) live keeps
  | wakeCheck waker task =>
      intro other marked same
      by_contra live
      have stopped : task.workflowId ∈ state.stopped :=
        same ▸ (holds.marked other marked).1
      have enabled : state.place task = .woken waker ∧
          (state.lock = some waker → state.marked = none) := by
        simp only [step?, Option.ite_none_right_eq_some] at stepped
        exact stepped.1
      have discards :
          step? state (.wakeCheck waker task) =
            some (state.move task .discarded) := by
        simp only [step?, if_pos enabled, if_pos stopped]
      exact not_keepsWaiting_of_discard discards
        (by rw [enabled.1]; rfl) (by simp) live keeps
  | _ =>
      trivial

/-! ## Whole runs -/

/--
In every interleaving of the scheduler's threads, waiting tasks are kept at every
step if and only if no unlocked stop check reads the mark that
`_retry_or_fail_task` has added and not decided yet for the workflow it checks.
-/
theorem waitingTasks_kept_iff
    (actions : List Action) :
    EveryStep step? KeepsWaiting .initial actions ↔
      EveryStep step? ReadsSettledMarks .initial actions :=
  everyStep_iff_of_invariant
    (fun _ _ _ holds _ stepped => invariant_step holds stepped)
    (fun _ _ _ holds stepped => keepsWaiting_iff_readsSettledMarks holds stepped)
    invariant_initial actions

/-- Two tasks of one workflow. -/
def firstTask : Task := ⟨"run", "first", 0⟩

@[inherit_doc firstTask]
def secondTask : Task := ⟨"run", "second", 1⟩

/--
The first task fails on its node while the submit loop checks the second one;
the first task is then retried.
-/
def retryDuringHeadCheck : List Action :=
  [.receiveTask firstTask, .receiveTask secondTask,
    .peek firstTask, .headCheck, .acquire .submit, .dispatch, .release .submit,
    .peek secondTask,
    .acquire .supervisor, .addMark .supervisor firstTask,
    .headCheck,
    .scheduleRetry, .release .supervisor]

/-- The second task is discarded although its workflow lives on. -/
theorem retryDuringHeadCheck_discards :
    ¬ ∀ actions, EveryStep step? KeepsWaiting .initial actions := by
  intro claim
  have kept := claim retryDuringHeadCheck
  obtain ⟨_, kept⟩ := kept _ rfl
  obtain ⟨_, kept⟩ := kept _ rfl
  obtain ⟨_, kept⟩ := kept _ rfl
  obtain ⟨_, kept⟩ := kept _ rfl
  obtain ⟨_, kept⟩ := kept _ rfl
  obtain ⟨_, kept⟩ := kept _ rfl
  obtain ⟨_, kept⟩ := kept _ rfl
  obtain ⟨_, kept⟩ := kept _ rfl
  obtain ⟨_, kept⟩ := kept _ rfl
  obtain ⟨_, kept⟩ := kept _ rfl
  obtain ⟨keeps, _⟩ := kept _ rfl
  exact absurd (keeps _ rfl secondTask (by decide)) (by decide)

end Maze.Scheduler.StoppedMarks
