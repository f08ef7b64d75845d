import Maze.Scheduler.TaskLifecycle

namespace Maze.Scheduler.TaskLifecycle

open Maze.Python
open Maze.Core.AttemptGate
open Maze.Library.Transition

/-!
# Agreement of scheduler and Core on attempts

The invariant `Agrees` relates where the scheduler holds a task to what Core's
gate remembers about it. From it follows which final failures Core accepts: all
but those of a task that waits for its next attempt and fails for a reason other
than lack of capacity, because such a task has no dispatch any more.
-/

/-- The key under which Core remembers the task. -/
def taskKey
    (task : TaskRuntime) :
    TaskKey :=
  (task.workflowId.val, task.taskId.val)

/-- The message is accepted and leaves the task terminal at Core. -/
def AcceptedAsTerminal
    (task : TaskRuntime)
    (core : Gate)
    (message : TaskMessage) : Prop :=
  ∃ accepted,
    acceptTaskAttemptEvent message.messageType message.data core =
      .ok (some accepted) ∧
    accepted.terminal (taskKey task) = true

/-- Every `task_exception` that the step sends makes the task terminal at Core. -/
def ExceptionAccepted
    (system : System)
    (action : Action) : Prop :=
  ∀ effect message,
    perform? system.task system.phase action = some effect →
    effect.message = some message →
    message.messageType = .taskException →
    AcceptedAsTerminal system.task system.core message

/--
The step does not give up a task that waits for its next attempt, except for
lack of capacity.
-/
def KeepsIdentity
    (system : System) :
    Action → Prop
  | .failModelWaiter errorType _ _ =>
      system.task.attempt = 0 ∨ errorType = "resource_capacity_exceeded"
  | .observerFails _ _ _ => system.task.attempt = 0
  | _ => True

/-! ## The invariant -/

/-- The task has no dispatch; Core knows its last attempt as retrying. -/
structure Idle
    (task : TaskRuntime)
    (core : Gate) : Prop where
  unrejected : core.preDispatchRejections (taskKey task) = false
  undispatched : task.dispatchId = none
  unleased : task.leaseId = none
  fresh : task.attempt = 0 → core.taskAttempts (taskKey task) = none
  retrying :
    task.attempt ≠ 0 →
      ∃ dispatchId leaseId record,
        task.previousAttemptIdentity =
          some ⟨task.attempt, dispatchId, some leaseId⟩ ∧
        core.taskAttempts (taskKey task) = some record ∧
        record.identity = ⟨task.attempt, dispatchId.val, leaseId.val⟩ ∧
        record.state = .retrying

/-- The task has a dispatch that Core knows in the given state. -/
structure Attempting
    (state : AttemptState)
    (task : TaskRuntime)
    (core : Gate) : Prop where
  unrejected : core.preDispatchRejections (taskKey task) = false
  begun : 1 ≤ task.attempt
  known :
    ∃ dispatchId leaseId record,
      task.dispatchId = some dispatchId ∧
      task.leaseId = some leaseId ∧
      core.taskAttempts (taskKey task) = some record ∧
      record.identity = ⟨task.attempt, dispatchId.val, leaseId.val⟩ ∧
      record.state = state

/-- What the two sides know about the task fits together. -/
def Agrees
    (system : System) : Prop :=
  match system.phase with
  | .arriving => system.task.attempt = 0 ∧ Idle system.task system.core
  | .queued | .modelWaiting => Idle system.task system.core
  | .running | .recovering => Attempting .running system.task system.core
  | .retrySent => Attempting .retrying system.task system.core
  | .ended => True

/-! ## What the messages say -/

/-- A decision that the scheduler sends has a `selected_node` Core can read. -/
theorem selectedNode_of_decision
    (decision : Option ScheduleDecision) :
    ∃ selected fields,
      ((ScheduleDecision.toVal decision).orElse (.dict [])).get
        "selected_node" = .ok selected ∧
      selected.orElse (.dict []) = .dict fields := by
  rcases decision with _ | ⟨selected, reason, _ | node⟩
  · exact ⟨.null, [], rfl, rfl⟩
  · exact ⟨.null, [], rfl, rfl⟩
  · exact ⟨node.toVal, _, rfl, rfl⟩

theorem taskAttemptNode_of_decision
    {data : PyDict}
    {decision : Option ScheduleDecision}
    (decided :
      data.get "schedule_decision" = ScheduleDecision.toVal decision) :
    ∃ node, taskAttemptNode data = .ok node := by
  obtain ⟨selected, fields, chosen, readable⟩ :=
    selectedNode_of_decision decision
  have reads : ∀ key, PyVal.get (.dict fields) key = .ok (PyDict.get fields key) :=
    fun key => rfl
  simp only [taskAttemptNode, decided, chosen, readable, reads,
    bind, Except.bind, pure, Except.pure]
  split_ifs <;> exact ⟨_, rfl⟩

/-- What Core reads off a message about an attempt of the task. -/
structure Describes
    (task : TaskRuntime)
    (data : PyDict) : Prop where
  workflowEntry : data.get "workflow_id" = .str task.workflowId.val
  taskEntry : data.get "task_id" = .str task.taskId.val
  attemptEntry : data.get "attempt" = .int task.attempt
  dispatchEntry : data.get "dispatch_id" = optionalId task.dispatchId
  leaseEntry : data.get "lease_id" = optionalId task.leaseId
  decisionEntry :
    data.get "schedule_decision" =
      ScheduleDecision.toVal task.lastScheduleDecision

variable
  {core : Gate}
  {task : TaskRuntime}
  {error : PyDict}

theorem Describes.names
    {data : PyDict}
    {dispatchId leaseId : Identifier}
    (describes : Describes task data)
    (begun : 1 ≤ task.attempt)
    (dispatched : task.dispatchId = some dispatchId)
    (leased : task.leaseId = some leaseId) :
    Names data task.workflowId task.taskId task.attempt dispatchId leaseId where
  begun := begun
  workflow := describes.workflowEntry
  task := describes.taskEntry
  attempt := describes.attemptEntry
  dispatch := by rw [describes.dispatchEntry, dispatched]; rfl
  lease := by rw [describes.leaseEntry, leased]; rfl

theorem describes_taskExceptionData
    (task : TaskRuntime)
    (error : PyDict) :
    Describes task (taskExceptionData task error) := by
  constructor <;>
    rw [get_taskExceptionData _ _ (by simp [optionalKeys, timingKeys])] <;>
    simp [taskExceptionFields, PyDict.get]

theorem taskExceptionData_preDispatch
    (task : TaskRuntime)
    (error : PyDict) :
    (taskExceptionData task error).get "pre_dispatch" = .null := by
  rw [get_taskExceptionData _ _ (by simp [optionalKeys, timingKeys])]
  simp [taskExceptionFields, PyDict.get]

theorem taskExceptionData_error
    (task : TaskRuntime)
    (error : PyDict) :
    (taskExceptionData task error).get "error" = .dict error := by
  rw [get_taskExceptionData _ _ (by simp [optionalKeys, timingKeys])]
  simp [taskExceptionFields, PyDict.get]

theorem describes_startTaskMessage
    (task : TaskRuntime)
    (queueName : PyVal)
    (node : SelectedNode)
    (startedAt : PyVal) :
    Describes task (startTaskMessage task queueName node startedAt).data := by
  constructor <;> simp [startTaskMessage, PyDict.get]

theorem describes_sendTaskRetry
    (task : TaskRuntime)
    (error : PyDict) :
    Describes task (sendTaskRetry task error).data := by
  constructor <;>
    simp only [sendTaskRetry, PyDict.get] <;>
    rw [get?_withTiming _ _ (by simp [timingKeys]),
      get?_setIfTruthy _ _ (by simp)] <;>
    simp

/-! ## Which final failures Core accepts -/

theorem terminal_of_remember
    {gate : Gate}
    {key : TaskKey}
    {record : TaskAttempt}
    (terminal : record.state = .terminal) :
    (gate.remember key record).terminal key = true := by
  simp [Gate.terminal, terminal]

/-- A failure of a dispatched attempt that Core can place is accepted. -/
theorem exceptionAccepted_of_dispatched
    {dispatchId leaseId : Identifier}
    (error : PyDict)
    (unrejected : core.preDispatchRejections (taskKey task) = false)
    (begun : 1 ≤ task.attempt)
    (dispatched : task.dispatchId = some dispatchId)
    (leased : task.leaseId = some leaseId)
    (admissible :
      Admissible .taskException (taskExceptionData task error)
        ⟨task.attempt, dispatchId.val, leaseId.val⟩
        (core.taskAttempts (taskKey task))) :
    AcceptedAsTerminal task core (sendTaskException task error) := by
  have notFresh : task.attempt ≠ 0 := by omega
  have plain :
      sendTaskException task error =
        ⟨.taskException, taskExceptionData task error⟩ := by
    simp [sendTaskException, notFresh, dispatched]
  have describes := describes_taskExceptionData task error
  obtain ⟨node, located⟩ := taskAttemptNode_of_decision describes.decisionEntry
  obtain ⟨record, _, ended, accepted⟩ :=
    accept_of_names (describes.names begun dispatched leased)
      (fun _ => by simp [taskExceptionData_preDispatch]) (by simp)
      unrejected located admissible
  rw [plain]
  exact ⟨_, accepted, terminal_of_remember ended⟩

/-- A failure of a running attempt is accepted. -/
theorem exceptionAccepted_of_running
    (error : PyDict)
    (attempting : Attempting .running task core) :
    AcceptedAsTerminal task core (sendTaskException task error) := by
  obtain ⟨dispatchId, leaseId, record, dispatched, leased, known, same, running⟩ :=
    attempting.known
  refine exceptionAccepted_of_dispatched error attempting.unrejected
    attempting.begun dispatched leased ?_
  rw [known, ← same]
  exact ⟨by simp [running], admits_of_running _ running (by simp)⟩

/-- A failure of an attempt that Core has not heard of is accepted. -/
theorem exceptionAccepted_of_begun
    (dispatchId leaseId : Identifier)
    (error : PyDict)
    (idle : Idle task core)
    {failed : TaskRuntime}
    (sameKey : taskKey failed = taskKey task)
    (next : failed.attempt = task.attempt + 1)
    (dispatched : failed.dispatchId = some dispatchId)
    (leased : failed.leaseId = some leaseId) :
    AcceptedAsTerminal failed core (sendTaskException failed error) := by
  refine exceptionAccepted_of_dispatched error (sameKey ▸ idle.unrejected)
    (by omega) dispatched leased ?_
  rw [sameKey]
  by_cases fresh : task.attempt = 0
  · rw [idle.fresh fresh]
    trivial
  · obtain ⟨_, _, record, _, known, same, retrying⟩ := idle.retrying fresh
    rw [known]
    refine ⟨by simp [retrying], admits_of_later _ _ ?_⟩
    simp [same, next]

/-- A failure before the first attempt is accepted. -/
theorem exceptionAccepted_of_fresh
    (error : PyDict)
    (idle : Idle task core)
    (fresh : task.attempt = 0) :
    AcceptedAsTerminal task core (sendTaskException task error) := by
  have describes := describes_taskExceptionData task error
  have message :
      sendTaskException task error =
        ⟨.taskException,
          (taskExceptionData task error).set "pre_dispatch" (.bool true)⟩ := by
    simp [sendTaskException, fresh]
  have kept : ∀ key : PyStr, key ≠ "pre_dispatch" →
      ((taskExceptionData task error).set "pre_dispatch" (.bool true)).get key =
        (taskExceptionData task error).get key := by
    intro key differ
    simp [PyDict.get, differ]
  rw [message]
  refine ⟨core.reject (taskKey task), ?_, by simp [Gate.terminal]⟩
  apply accept_of_preDispatch
  · rw [kept _ (by simp), describes.workflowEntry]
  · rw [kept _ (by simp), describes.taskEntry]
  · simp [PyDict.get]
  · rw [kept _ (by simp), describes.attemptEntry, fresh]
    rfl
  · rw [kept _ (by simp), describes.dispatchEntry, idle.undispatched]
    rfl
  · rw [kept _ (by simp), describes.leaseEntry, idle.unleased]
    rfl
  · exact idle.fresh fresh
  · exact idle.unrejected

/--
A waiting task that fails for lack of capacity is reported under its previous
attempt, which Core still holds as retrying.
-/
theorem exceptionAccepted_of_capacity
    (idle : Idle task core)
    (notFresh : task.attempt ≠ 0)
    (capacity :
      (error.get "error_type").pyEq (.str "resource_capacity_exceeded") = true) :
    AcceptedAsTerminal task core (sendTaskException task error) := by
  obtain ⟨dispatchId, leaseId, record, previous, known, same, retrying⟩ :=
    idle.retrying notFresh
  let last : PreviousAttempt := ⟨task.attempt, dispatchId, some leaseId⟩
  have message :
      sendTaskException task error =
        ⟨.taskException,
          (taskExceptionData task error).update (capacityRejectionFields last)⟩ := by
    simp [sendTaskException, notFresh, capacity, idle.undispatched, previous, last]
  have describes := describes_taskExceptionData task error
  have kept : ∀ key : PyStr,
      (∀ value, (key, value) ∉ capacityRejectionFields last) →
      ((taskExceptionData task error).update
          (capacityRejectionFields last)).get key =
        (taskExceptionData task error).get key := by
    intro key absent
    simp only [PyDict.get, PyDict.get?_update_of_notMem _ _ absent]
  have names :
      Names
        ((taskExceptionData task error).update (capacityRejectionFields last))
        task.workflowId task.taskId task.attempt dispatchId leaseId := by
    constructor
    · omega
    · rw [kept _ (by simp [capacityRejectionFields]), describes.workflowEntry]
    · rw [kept _ (by simp [capacityRejectionFields]), describes.taskEntry]
    all_goals
      simp [PyDict.get, PyDict.update, capacityRejectionFields, last, optionalId]
  have decided :
      ((taskExceptionData task error).update
          (capacityRejectionFields last)).get "schedule_decision" =
        ScheduleDecision.toVal task.lastScheduleDecision := by
    rw [kept _ (by simp [capacityRejectionFields]), describes.decisionEntry]
  have dispatched :
      ((taskExceptionData task error).update
          (capacityRejectionFields last)).get "pre_dispatch" = .null := by
    rw [kept _ (by simp [capacityRejectionFields]), taskExceptionData_preDispatch]
  have reported :
      ((taskExceptionData task error).update
          (capacityRejectionFields last)).get "error" = .dict error := by
    rw [kept _ (by simp [capacityRejectionFields]), taskExceptionData_error]
  have marked :
      ((taskExceptionData task error).update
          (capacityRejectionFields last)).get "capacity_rejection" =
        .bool true := by
    simp [PyDict.get, PyDict.update, capacityRejectionFields]
  obtain ⟨node, located⟩ := taskAttemptNode_of_decision decided
  have admissible :
      Admissible .taskException
        ((taskExceptionData task error).update (capacityRejectionFields last))
        ⟨task.attempt, dispatchId.val, leaseId.val⟩
        (core.taskAttempts (taskKey task)) := by
    rw [known, ← same]
    exact ⟨by simp [retrying],
      admits_of_capacityRejection retrying marked reported capacity⟩
  obtain ⟨accepted, _, ended, delivered⟩ :=
    accept_of_names names (by simp [dispatched]) (by simp)
      idle.unrejected located admissible
  rw [message]
  exact ⟨_, delivered, terminal_of_remember ended⟩

/-- Any other failure of a waiting task carries no dispatch and is rejected. -/
theorem exceptionRejected_of_waiting
    (idle : Idle task core)
    (notFresh : task.attempt ≠ 0)
    (other :
      ¬ (error.get "error_type").pyEq (.str "resource_capacity_exceeded") = true) :
    ¬ AcceptedAsTerminal task core (sendTaskException task error) := by
  have plain :
      sendTaskException task error =
        ⟨.taskException, taskExceptionData task error⟩ := by
    simp [sendTaskException, notFresh, other]
  have describes := describes_taskExceptionData task error
  have rejected :
      acceptTaskAttemptEvent .taskException (taskExceptionData task error) core =
        .ok none :=
    accept_of_no_dispatch describes.workflowEntry describes.taskEntry
      (by simp [taskExceptionData_preDispatch])
      (by rw [describes.dispatchEntry, idle.undispatched]; rfl)
  rw [plain]
  rintro ⟨accepted, delivered, _⟩
  simp [rejected] at delivered

/-- The failures of a task without dispatch that Core accepts. -/
theorem exceptionAccepted_iff_of_idle
    (error : PyDict)
    (idle : Idle task core) :
    AcceptedAsTerminal task core (sendTaskException task error) ↔
      task.attempt = 0 ∨
        (error.get "error_type").pyEq (.str "resource_capacity_exceeded") = true := by
  by_cases fresh : task.attempt = 0
  · simp only [fresh, true_or, iff_true]
    exact exceptionAccepted_of_fresh error idle fresh
  · by_cases capacity :
        (error.get "error_type").pyEq (.str "resource_capacity_exceeded") = true
    · simp only [capacity, or_true, iff_true]
      exact exceptionAccepted_of_capacity idle fresh capacity
    · simp only [fresh, capacity, Bool.false_eq_true, or_self, iff_false]
      exact exceptionRejected_of_waiting idle fresh capacity

/-! ## Failing and retrying -/

/-- An error that is not retryable ends the task. -/
theorem retryOrFailTask_of_not_retryable
    (task : TaskRuntime)
    (assessment : Assessment)
    (final : error.get "retryable" = .bool false) :
    ∃ reported,
      retryOrFailTask task error assessment =
        failTask (recordOutcome task assessment) reported ∧
      reported.get "error_type" = error.get "error_type" := by
  refine ⟨_, ?_, enrichErrorForTask_get error task assessment.memoryFailure
    assessment.timestamp (by simp [enrichedKeys])⟩
  have kept :
      (enrichErrorForTask error task assessment.memoryFailure
          assessment.timestamp).get "retryable" =
        error.get "retryable" :=
    enrichErrorForTask_get _ _ _ _ (by simp [enrichedKeys])
  have noRetry :
      (recordOutcome task assessment).shouldRetry
          (enrichErrorForTask error task assessment.memoryFailure
            assessment.timestamp) =
        false := by
    simp [TaskRuntime.shouldRetry, kept, final, PyVal.truthy]
  simp [retryOrFailTask, noRetry]

/-- The two runtimes are about the same attempt of the same task. -/
structure SameAttempt
    (first second : TaskRuntime) : Prop where
  workflowId : first.workflowId = second.workflowId
  taskId : first.taskId = second.taskId
  attempt : first.attempt = second.attempt
  dispatchId : first.dispatchId = second.dispatchId
  leaseId : first.leaseId = second.leaseId
  previous : first.previousAttemptIdentity = second.previousAttemptIdentity

theorem SameAttempt.taskKey
    {first second : TaskRuntime}
    (same : SameAttempt first second) :
    taskKey first = taskKey second := by
  simp [TaskLifecycle.taskKey, same.workflowId, same.taskId]

theorem Idle.congr
    {first second : TaskRuntime}
    (same : SameAttempt first second)
    (idle : Idle second core) :
    Idle first core := by
  constructor
  · rw [same.taskKey]
    exact idle.unrejected
  · rw [same.dispatchId]
    exact idle.undispatched
  · rw [same.leaseId]
    exact idle.unleased
  · rw [same.taskKey, same.attempt]
    exact idle.fresh
  · rw [same.taskKey, same.attempt, same.previous]
    exact idle.retrying

theorem Attempting.congr
    {first second : TaskRuntime}
    {state : AttemptState}
    (same : SameAttempt first second)
    (attempting : Attempting state second core) :
    Attempting state first core := by
  constructor
  · rw [same.taskKey]
    exact attempting.unrejected
  · rw [same.attempt]
    exact attempting.begun
  · rw [same.taskKey, same.attempt, same.dispatchId, same.leaseId]
    exact attempting.known

/-- `_retry_or_fail_task` fails the attempt, retries it or starts its recovery. -/
theorem retryOrFailTask_cases
    (task : TaskRuntime)
    (error : PyDict)
    (assessment : Assessment) :
    ∃ after reported,
      SameAttempt after task ∧
      (retryOrFailTask task error assessment = failTask after reported ∨
        retryOrFailTask task error assessment =
          ⟨after, .retrySent, some (sendTaskRetry after reported)⟩ ∨
        retryOrFailTask task error assessment = ⟨after, .recovering, none⟩) := by
  unfold retryOrFailTask
  simp only
  split
  · cases assessment.repairAction with
    | notApplied =>
        exact ⟨recordOutcome task assessment, _, ⟨rfl, rfl, rfl, rfl, rfl, rfl⟩,
          .inl rfl⟩
    | applied resources =>
        exact ⟨{ recordOutcome task assessment with resources := resources }, _,
          ⟨rfl, rfl, rfl, rfl, rfl, rfl⟩, .inr (.inl rfl)⟩
    | resourceReanchor cleanupSubmitted cleanupError =>
        cases cleanupSubmitted with
        | true =>
            exact ⟨recordOutcome task assessment, [],
              ⟨rfl, rfl, rfl, rfl, rfl, rfl⟩, .inr (.inr rfl)⟩
        | false =>
            exact ⟨{ recordOutcome task assessment with
                maxRetries := 0
                lastMetrics := .null },
              _, ⟨rfl, rfl, rfl, rfl, rfl, rfl⟩, .inl rfl⟩
  · exact ⟨recordOutcome task assessment, _, ⟨rfl, rfl, rfl, rfl, rfl, rfl⟩,
      .inl rfl⟩

theorem SameAttempt.recordOutcome
    (task : TaskRuntime)
    (assessment : Assessment) :
    SameAttempt (recordOutcome task assessment) task :=
  ⟨rfl, rfl, rfl, rfl, rfl, rfl⟩

theorem SameAttempt.decided
    (task : TaskRuntime)
    (decision : ScheduleDecision) :
    SameAttempt { task with lastScheduleDecision := some decision } task :=
  ⟨rfl, rfl, rfl, rfl, rfl, rfl⟩

theorem SameAttempt.resized
    (task : TaskRuntime)
    (resources : PyVal) :
    SameAttempt { task with resources := resources } task :=
  ⟨rfl, rfl, rfl, rfl, rfl, rfl⟩

theorem acceptedAsTerminal_congr
    {first second : TaskRuntime}
    {message : TaskMessage}
    (same : taskKey first = taskKey second) :
    AcceptedAsTerminal first core message ↔
      AcceptedAsTerminal second core message := by
  simp [AcceptedAsTerminal, same]

/-- Giving up a task without dispatch for an error that is not retryable. -/
theorem accepted_of_queued_failure
    (assessment : Assessment)
    (idle : Idle task core)
    (final : error.get "retryable" = .bool false) :
    (∀ message,
      (retryOrFailTask task error assessment).message = some message →
      message.messageType = .taskException →
      AcceptedAsTerminal task core message) ↔
      task.attempt = 0 ∨
        (error.get "error_type").pyEq (.str "resource_capacity_exceeded") = true := by
  obtain ⟨reported, failed, sameType⟩ :=
    retryOrFailTask_of_not_retryable task assessment final
  have same := SameAttempt.recordOutcome task assessment
  have accepted := exceptionAccepted_iff_of_idle reported (idle.congr same)
  rw [acceptedAsTerminal_congr same.taskKey, same.attempt, sameType] at accepted
  rw [failed, ← accepted]
  constructor
  · intro holds
    refine holds _ rfl ?_
    unfold sendTaskException
    simp only
    split_ifs <;> (try split) <;> rfl
  · rintro holds message sent _
    obtain rfl : sendTaskException _ reported = message :=
      Option.some.inj sent
    exact holds

/-- Every final failure of a running attempt is accepted. -/
theorem accepted_of_running_failure
    (error : PyDict)
    (assessment : Assessment)
    (attempting : Attempting .running task core) :
    ∀ message,
      (retryOrFailTask task error assessment).message = some message →
      message.messageType = .taskException →
      AcceptedAsTerminal task core message := by
  intro message sent isException
  obtain ⟨after, reported, same, outcome⟩ :=
    retryOrFailTask_cases task error assessment
  rcases outcome with failed | retried | recovering
  · rw [failed] at sent
    obtain rfl : sendTaskException after reported = message :=
      Option.some.inj sent
    rw [← acceptedAsTerminal_congr same.taskKey]
    exact exceptionAccepted_of_running reported (attempting.congr same)
  · rw [retried] at sent
    obtain rfl : sendTaskRetry after reported = message :=
      Option.some.inj sent
    cases isException
  · rw [recovering] at sent
    cases sent

theorem schedulerError_retryable
    (info : ExceptionInfo)
    (attempt : PyVal)
    (timestamp : PyStr) :
    (exceptionToErrorEnvelope "scheduler_error" info attempt timestamp).get
      "retryable" = .bool false := by
  rw [exceptionToErrorEnvelope_get _ _ _ _ (by simp) (by simp) (by simp),
    makeErrorEnvelope_retryable]
  simp [retryableDefault]

theorem capacityError_retryable
    (message timestamp : PyStr) :
    (makeErrorEnvelope "resource_capacity_exceeded" message none .null
      timestamp).get "retryable" = .bool false := by
  rw [makeErrorEnvelope_retryable]
  simp [retryableDefault]

theorem schedulerError_errorType
    (info : ExceptionInfo)
    (attempt : PyVal)
    (timestamp : PyStr) :
    (exceptionToErrorEnvelope "scheduler_error" info attempt timestamp).get
      "error_type" = .str "scheduler_error" := by
  rw [exceptionToErrorEnvelope_get _ _ _ _ (by simp) (by simp) (by simp),
    makeErrorEnvelope_errorType]

theorem pyEq_str
    (first second : PyStr) :
    (PyVal.str first).pyEq (.str second) = decide (first = second) := by
  simp [PyVal.pyEq]

/-! ## One step -/

theorem exceptionAccepted_iff_of_performed
    {system : System}
    {action : Action}
    {effect : Effect}
    (performed : perform? system.task system.phase action = some effect) :
    ExceptionAccepted system action ↔
      ∀ message, effect.message = some message →
        message.messageType = .taskException →
        AcceptedAsTerminal system.task system.core message := by
  constructor
  · intro holds message sent isException
    exact holds effect message performed sent isException
  · intro holds other message same sent isException
    obtain rfl : effect = other := Option.some.inj (performed.symm.trans same)
    exact holds message sent isException

/-- A rejection at construction reaches a Core that knows nothing of the task. -/
theorem accepted_of_rejection
    (taskKind resources : PyVal)
    (info : ExceptionInfo)
    (timestamp : PyStr)
    (idle : Idle task core)
    (fresh : task.attempt = 0) :
    AcceptedAsTerminal task core
      (sendTaskRejected (.str task.workflowId.val) (.str task.taskId.val)
        taskKind resources info timestamp) := by
  refine ⟨core.reject (taskKey task), ?_, by simp [Gate.terminal]⟩
  apply accept_of_preDispatch
  case unknown =>
    exact idle.fresh fresh
  case unrejected =>
    exact idle.unrejected
  all_goals
    simp [sendTaskRejected, PyDict.get]

/--
At an enabled step of an agreeing system, Core accepts the final failure that
the step may send exactly if the step keeps the identity of a waiting task.
-/
theorem exceptionAccepted_iff_keepsIdentity
    {system next : System}
    {action : Action}
    (agrees : Agrees system)
    (stepped : step? system action = some next) :
    ExceptionAccepted system action ↔ KeepsIdentity system action := by
  simp only [step?, Option.map_eq_some_iff] at stepped
  obtain ⟨effect, performed, _⟩ := stepped
  rw [exceptionAccepted_iff_of_performed performed]
  obtain ⟨task, phase, core⟩ := system
  cases action with
  | construct | pend | waitForModel | wakeModelWaiter | enqueueRetry =>
      simp only [perform?, Option.ite_none_right_eq_some,
        Option.some.injEq] at performed
      obtain ⟨_, rfl⟩ := performed
      simp [KeepsIdentity]
  | stop =>
      simp only [perform?, Option.some.injEq] at performed
      subst performed
      simp [KeepsIdentity]
  | dispatch | finish | recoveryCompleted =>
      simp only [perform?, Option.ite_none_right_eq_some,
        Option.some.injEq] at performed
      obtain ⟨_, rfl⟩ := performed
      simp only [KeepsIdentity, iff_true]
      rintro message sent isException
      obtain rfl := Option.some.inj sent
      cases isException
  | rejectAtConstruction info timestamp =>
      simp only [perform?, Option.ite_none_right_eq_some,
        Option.some.injEq] at performed
      obtain ⟨rfl, rfl⟩ := performed
      obtain ⟨fresh, idle⟩ := agrees
      simp only [KeepsIdentity, iff_true]
      rintro message sent _
      obtain rfl := Option.some.inj sent
      exact accepted_of_rejection _ _ info timestamp idle fresh
  | failModelWaiter errorType message assessment =>
      simp only [perform?, Option.ite_none_right_eq_some,
        Option.some.injEq] at performed
      obtain ⟨rfl, rfl⟩ := performed
      rw [accepted_of_queued_failure assessment agrees
        (makeErrorEnvelope_retryable _ _ _ _ _)]
      simp [KeepsIdentity, makeErrorEnvelope_errorType, pyEq_str]
  | exceedCapacity message assessment =>
      simp only [perform?, Option.ite_none_right_eq_some,
        Option.some.injEq] at performed
      obtain ⟨rfl, rfl⟩ := performed
      rw [accepted_of_queued_failure assessment agrees
        (capacityError_retryable _ _)]
      simp [KeepsIdentity, makeErrorEnvelope_errorType, pyEq_str]
  | observerFails decision info assessment =>
      simp only [perform?, Option.ite_none_right_eq_some,
        Option.some.injEq] at performed
      obtain ⟨rfl, rfl⟩ := performed
      have same := SameAttempt.decided task decision
      have idle : Idle task core := agrees
      refine Iff.trans
        (accepted_of_queued_failure assessment (idle.congr same)
          (schedulerError_retryable _ _ _)) ?_
      simp [KeepsIdentity, schedulerError_errorType, pyEq_str]
  | runTaskFails dispatchId leaseId decision info assessment =>
      simp only [perform?, Option.ite_none_right_eq_some,
        Option.some.injEq] at performed
      obtain ⟨rfl, rfl⟩ := performed
      have idle : Idle task core := agrees
      obtain ⟨reported, failed, _⟩ :=
        retryOrFailTask_of_not_retryable
          { task.beginAttempt dispatchId leaseId with
            lastScheduleDecision := some decision }
          assessment
          (schedulerError_retryable info
            (.int (task.beginAttempt dispatchId leaseId).attempt)
            assessment.timestamp)
      simp only [KeepsIdentity, iff_true]
      rintro message sent _
      rw [failed] at sent
      obtain rfl := Option.some.inj sent
      exact exceptionAccepted_of_begun dispatchId leaseId reported idle
        rfl rfl rfl rfl
  | failAttempt error assessment =>
      simp only [perform?, Option.ite_none_right_eq_some,
        Option.some.injEq] at performed
      obtain ⟨rfl, rfl⟩ := performed
      simp only [KeepsIdentity, iff_true]
      exact accepted_of_running_failure error assessment agrees
  | recoveryFailed info assessment =>
      simp only [perform?, Option.ite_none_right_eq_some,
        Option.some.injEq] at performed
      obtain ⟨rfl, rfl⟩ := performed
      simp only [KeepsIdentity, iff_true]
      exact accepted_of_running_failure _ assessment agrees

/-- A message about a dispatched attempt that is not the end of the task. -/
theorem attempting_of_delivered
    {message : TaskMessage}
    {dispatchId leaseId : Identifier}
    (describes : Describes task message.data)
    (ongoing :
      message.messageType = .startTask ∨ message.messageType = .taskRetry)
    (unrejected : core.preDispatchRejections (taskKey task) = false)
    (begun : 1 ≤ task.attempt)
    (dispatched : task.dispatchId = some dispatchId)
    (leased : task.leaseId = some leaseId)
    (admissible :
      Admissible message.messageType message.data
        ⟨task.attempt, dispatchId.val, leaseId.val⟩
        (core.taskAttempts (taskKey task))) :
    Attempting (nextState message.messageType) task (deliver core message) := by
  obtain ⟨node, located⟩ := taskAttemptNode_of_decision describes.decisionEntry
  obtain ⟨record, same, state, accepted⟩ :=
    accept_of_names (describes.names begun dispatched leased)
      (fun isException => by simp [isException] at ongoing)
      (fun isFinish => by simp [isFinish] at ongoing)
      unrejected located admissible
  have after : deliver core message = core.remember (taskKey task) record := by
    simp [deliver, accepted, taskKey]
  rw [after]
  exact ⟨unrejected, begun, dispatchId, leaseId, record, dispatched, leased,
    by simp, same, state⟩

/-- A retry of a running attempt reaches Core. -/
theorem attempting_of_retry
    (error : PyDict)
    (attempting : Attempting .running task core) :
    Attempting .retrying task (deliver core (sendTaskRetry task error)) := by
  obtain ⟨dispatchId, leaseId, record, dispatched, leased, known, same, running⟩ :=
    attempting.known
  refine attempting_of_delivered (describes_sendTaskRetry task error)
    (.inr rfl) attempting.unrejected attempting.begun dispatched leased ?_
  rw [known, ← same]
  exact ⟨by simp [running], admits_of_running _ running (by simp [sendTaskRetry])⟩

/-- The start of a waiting task's next attempt reaches Core. -/
theorem attempting_of_start
    {task started : TaskRuntime}
    {dispatchId leaseId : Identifier}
    (queueName : PyVal)
    (node : SelectedNode)
    (startedAt : PyVal)
    (idle : Idle task core)
    (sameKey : taskKey started = taskKey task)
    (next : started.attempt = task.attempt + 1)
    (dispatched : started.dispatchId = some dispatchId)
    (leased : started.leaseId = some leaseId) :
    Attempting .running started
      (deliver core (startTaskMessage started queueName node startedAt)) := by
  refine attempting_of_delivered
    (describes_startTaskMessage started queueName node startedAt)
    (.inl rfl) (sameKey ▸ idle.unrejected) (by omega) dispatched leased ?_
  rw [sameKey]
  by_cases fresh : task.attempt = 0
  · rw [idle.fresh fresh]
    trivial
  · obtain ⟨_, _, record, _, known, same, retrying⟩ := idle.retrying fresh
    rw [known]
    refine ⟨by simp [retrying], admits_of_later _ _ ?_⟩
    simp [same, next]

/-- Clearing the identity of a retried attempt makes the task wait again. -/
theorem idle_of_clearAttemptIdentity
    (attempting : Attempting .retrying task core) :
    Idle task.clearAttemptIdentity core := by
  obtain ⟨dispatchId, leaseId, record, dispatched, leased, known, same, retrying⟩ :=
    attempting.known
  refine ⟨attempting.unrejected, rfl, rfl, ?_, ?_⟩
  · intro fresh
    have begun := attempting.begun
    simp only [TaskRuntime.clearAttemptIdentity] at fresh
    omega
  · intro _
    refine ⟨dispatchId, leaseId, record, ?_, known, same, retrying⟩
    simp [TaskRuntime.clearAttemptIdentity, dispatched, leased]

/-- What `_retry_or_fail_task` leaves of a running attempt. -/
theorem agrees_of_retryOrFailTask
    (error : PyDict)
    (assessment : Assessment)
    (attempting : Attempting .running task core) :
    Agrees
      { task := (retryOrFailTask task error assessment).task
        phase := (retryOrFailTask task error assessment).phase
        core :=
          match (retryOrFailTask task error assessment).message with
          | some message => deliver core message
          | none => core } := by
  obtain ⟨after, reported, same, failed | retried | recovering⟩ :=
    retryOrFailTask_cases task error assessment
  · rw [failed]
    trivial
  · rw [retried]
    exact attempting_of_retry reported (attempting.congr same)
  · rw [recovering]
    exact attempting.congr same

/-- Every step of the scheduler keeps the two sides in agreement. -/
theorem agrees_step
    {system next : System}
    {action : Action}
    (agrees : Agrees system)
    (stepped : step? system action = some next) :
    Agrees next := by
  simp only [step?, Option.map_eq_some_iff] at stepped
  obtain ⟨effect, performed, rfl⟩ := stepped
  obtain ⟨task, phase, core⟩ := system
  cases action with
  | stop =>
      simp only [perform?, Option.some.injEq] at performed
      subst performed
      trivial
  | construct =>
      simp only [perform?, Option.ite_none_right_eq_some,
        Option.some.injEq] at performed
      obtain ⟨rfl, rfl⟩ := performed
      exact agrees.2
  | rejectAtConstruction | finish =>
      simp only [perform?, Option.ite_none_right_eq_some,
        Option.some.injEq] at performed
      obtain ⟨rfl, rfl⟩ := performed
      trivial
  | wakeModelWaiter =>
      simp only [perform?, Option.ite_none_right_eq_some,
        Option.some.injEq] at performed
      obtain ⟨rfl, rfl⟩ := performed
      exact agrees
  | pend decision | waitForModel decision =>
      simp only [perform?, Option.ite_none_right_eq_some,
        Option.some.injEq] at performed
      obtain ⟨rfl, rfl⟩ := performed
      have idle : Idle task core := agrees
      have same := SameAttempt.decided task decision
      exact idle.congr same
  | failModelWaiter errorType message assessment =>
      simp only [perform?, Option.ite_none_right_eq_some,
        Option.some.injEq] at performed
      obtain ⟨rfl, rfl⟩ := performed
      obtain ⟨reported, failed, _⟩ :=
        retryOrFailTask_of_not_retryable task assessment
          (makeErrorEnvelope_retryable errorType message assessment.timestamp
            (some false) (.int task.attempt))
      rw [failed]
      trivial
  | exceedCapacity message assessment =>
      simp only [perform?, Option.ite_none_right_eq_some,
        Option.some.injEq] at performed
      obtain ⟨rfl, rfl⟩ := performed
      obtain ⟨reported, failed, _⟩ :=
        retryOrFailTask_of_not_retryable task assessment
          (capacityError_retryable message assessment.timestamp)
      rw [failed]
      trivial
  | observerFails decision info assessment =>
      simp only [perform?, Option.ite_none_right_eq_some,
        Option.some.injEq] at performed
      obtain ⟨rfl, rfl⟩ := performed
      obtain ⟨reported, failed, _⟩ :=
        retryOrFailTask_of_not_retryable
          { task with lastScheduleDecision := some decision } assessment
          (schedulerError_retryable info (.int task.attempt)
            assessment.timestamp)
      rw [failed]
      trivial
  | runTaskFails dispatchId leaseId decision info assessment =>
      simp only [perform?, Option.ite_none_right_eq_some,
        Option.some.injEq] at performed
      obtain ⟨rfl, rfl⟩ := performed
      obtain ⟨reported, failed, _⟩ :=
        retryOrFailTask_of_not_retryable
          { task.beginAttempt dispatchId leaseId with
            lastScheduleDecision := some decision }
          assessment
          (schedulerError_retryable info
            (.int (task.beginAttempt dispatchId leaseId).attempt)
            assessment.timestamp)
      rw [failed]
      trivial
  | dispatch dispatchId leaseId node decision startedAt =>
      simp only [perform?, Option.ite_none_right_eq_some,
        Option.some.injEq] at performed
      obtain ⟨rfl, rfl⟩ := performed
      exact attempting_of_start task.queueName node startedAt agrees
        rfl rfl rfl rfl
  | failAttempt error assessment =>
      simp only [perform?, Option.ite_none_right_eq_some,
        Option.some.injEq] at performed
      obtain ⟨rfl, rfl⟩ := performed
      exact agrees_of_retryOrFailTask error assessment agrees
  | enqueueRetry =>
      simp only [perform?, Option.ite_none_right_eq_some,
        Option.some.injEq] at performed
      obtain ⟨rfl, rfl⟩ := performed
      exact idle_of_clearAttemptIdentity agrees
  | recoveryCompleted error adjustedResources =>
      simp only [perform?, Option.ite_none_right_eq_some,
        Option.some.injEq] at performed
      obtain ⟨rfl, rfl⟩ := performed
      have attempting : Attempting .running task core := agrees
      have same := SameAttempt.resized task adjustedResources
      exact attempting_of_retry error (attempting.congr same)
  | recoveryFailed info assessment =>
      simp only [perform?, Option.ite_none_right_eq_some,
        Option.some.injEq] at performed
      obtain ⟨rfl, rfl⟩ := performed
      exact agrees_of_retryOrFailTask _ assessment agrees

/-! ## Whole runs -/

/-- A runtime as `TaskRuntime.__init__` leaves its attempt fields. -/
def newTask
    (task : TaskRuntime) :
    TaskRuntime :=
  { task with
    lastScheduleDecision := none
    selectedNode := none
    attempt := 0
    dispatchId := none
    leaseId := none
    previousAttemptIdentity := none }

/-- A task that reaches the scheduler before Core has heard anything about it. -/
def initialSystem
    (task : TaskRuntime)
    (core : Gate) :
    System where
  task := newTask task
  phase := .arriving
  core := core

theorem agrees_initial
    (unknown : core.taskAttempts (taskKey task) = none)
    (unrejected : core.preDispatchRejections (taskKey task) = false) :
    Agrees (initialSystem task core) :=
  ⟨rfl, unrejected, rfl, rfl, fun _ => unknown, fun notFresh => absurd rfl notFresh⟩

/--
In every run of a task's lifecycle, every final failure that the scheduler sends
makes the task terminal at Core if and only if no step gives up a task that
waits for its next attempt for a reason other than lack of capacity.
-/
theorem finalFailures_accepted_iff
    (task : TaskRuntime)
    (core : Gate)
    (unknown : core.taskAttempts (taskKey task) = none)
    (unrejected : core.preDispatchRejections (taskKey task) = false)
    (actions : List Action) :
    EveryStep step? ExceptionAccepted (initialSystem task core) actions ↔
      EveryStep step? KeepsIdentity (initialSystem task core) actions :=
  everyStep_iff_of_invariant
    (fun _ _ _ agrees _ stepped => agrees_step agrees stepped)
    (fun _ _ _ agrees stepped =>
      exceptionAccepted_iff_keepsIdentity agrees stepped)
    (agrees_initial unknown unrejected) actions

/-- A model-routed task with one retry after the loss of its node. -/
def modelTask : TaskRuntime where
  workflowId := ⟨"run", by decide⟩
  taskId := ⟨"task", by decide⟩
  taskKind := "gpu"
  queueName := .null
  resources := .dict []
  maxRetries := 1
  retryOn := ["node_lost"]
  retryBackoffSeconds := .int 0
  schedulingMetadata := .dict []
  faultTolerance := .dict []
  fileManifest := .null
  lastMetrics := .null
  lastAttemptTiming := none
  lastScheduleDecision := none
  selectedNode := none
  attempt := 0
  dispatchId := none
  leaseId := none
  previousAttemptIdentity := none

/-- A failure that the retry policy may repair. -/
def repairable : Assessment where
  memoryFailure := none
  recoverable := true
  repairAction := .applied (.dict [])
  timestamp := "now"
  metrics := .null
  timing := ⟨.null, .null, .null⟩

/--
The task starts, loses its node, is retried, waits for its model, and the
deployment of the model fails.
-/
def modelDeploymentFailsAfterRetry : List Action :=
  [.construct,
    .dispatch ⟨"d1", by decide⟩ ⟨"l1", by decide⟩ ⟨"n1", "10.0.0.1", none⟩
      ⟨true, .str "selected", some ⟨"n1", "10.0.0.1", none⟩⟩ (.int 1),
    .failAttempt
      [("error_type", .str "node_lost"), ("retryable", .bool true)] repairable,
    .enqueueRetry,
    .waitForModel ⟨false, .str "model_instance_unavailable", none⟩,
    .failModelWaiter "model_deployment_failed" "out of disk" repairable]

/-- For this run both sides say whether its last step keeps the identity. -/
theorem finalFailures_accepted_iff_modelTask :
    EveryStep step? ExceptionAccepted (initialSystem modelTask .empty)
      modelDeploymentFailsAfterRetry ↔
      EveryStep step? KeepsIdentity (initialSystem modelTask .empty)
        modelDeploymentFailsAfterRetry :=
  finalFailures_accepted_iff modelTask .empty rfl rfl
    modelDeploymentFailsAfterRetry

/-- The final failure of this run is rejected by Core. -/
theorem modelDeploymentFailure_rejected :
    ¬ ∀ (task : TaskRuntime) (core : Gate) (actions : List Action),
      core.taskAttempts (taskKey task) = none →
      core.preDispatchRejections (taskKey task) = false →
      EveryStep step? ExceptionAccepted (initialSystem task core) actions := by
  intro claim
  obtain ⟨_, afterConstruct⟩ :=
    claim modelTask .empty modelDeploymentFailsAfterRetry rfl rfl _ rfl
  obtain ⟨_, afterDispatch⟩ := afterConstruct _ rfl
  obtain ⟨_, afterFailure⟩ := afterDispatch _ rfl
  obtain ⟨_, afterRetry⟩ := afterFailure _ rfl
  obtain ⟨_, afterWait⟩ := afterRetry _ rfl
  obtain ⟨accepted, _⟩ := afterWait _ rfl
  obtain ⟨_, delivered, _⟩ := accepted _ _ rfl rfl rfl
  cases delivered

end Maze.Scheduler.TaskLifecycle
