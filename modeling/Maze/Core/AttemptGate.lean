import Maze.Python.Value

namespace Maze.Core.AttemptGate

open Maze.Python

/-!
# Core's gate for task attempt events

`MaPath._accept_task_attempt_event` decides, from the attempt it remembers for a
task, whether a `start_task`, `finish_task`, `task_retry` or `task_exception`
message is admissible, and remembers the new attempt when it is. The message
data is the decoded JSON object; nothing about its shape is assumed.
-/

/-- `(workflow_id, task_id)`. -/
abbrev TaskKey := PyStr × PyStr

/-- The scheduler messages that pass through the gate. -/
inductive MessageType where
  | startTask
  | finishTask
  | taskRetry
  | taskException
  deriving DecidableEq

/-- `(attempt, dispatch_id, lease_id)`. -/
structure AttemptIdentity where
  attempt : Int
  dispatchId : PyStr
  leaseId : PyStr
  deriving DecidableEq

/-- The remembered state of an attempt. -/
inductive AttemptState where
  | running
  | retrying
  | terminal
  deriving DecidableEq

/--
One entry of `task_attempts`. Its `attempt`, `dispatch_id` and `lease_id` repeat
the identity; an empty `selectedNode` stands for `None`.
-/
structure TaskAttempt where
  identity : AttemptIdentity
  state : AttemptState
  eventType : MessageType
  selectedNode : PyDict
  error : PyVal
  deriving DecidableEq

/-- `task_attempts` and `pre_dispatch_rejections`. -/
structure Gate where
  taskAttempts : TaskKey → Option TaskAttempt
  preDispatchRejections : TaskKey → Bool

namespace Gate

/-- The gate of a Core that has seen no task message. -/
def empty : Gate where
  taskAttempts := fun _ => none
  preDispatchRejections := fun _ => false

/-- `task_attempts[key] = record`. -/
def remember
    (gate : Gate)
    (key : TaskKey)
    (record : TaskAttempt) :
    Gate where
  taskAttempts := fun other =>
    if other = key then some record else gate.taskAttempts other
  preDispatchRejections := gate.preDispatchRejections

/-- `pre_dispatch_rejections.add(key)`. -/
def reject
    (gate : Gate)
    (key : TaskKey) :
    Gate where
  taskAttempts := gate.taskAttempts
  preDispatchRejections := fun other =>
    if other = key then true else gate.preDispatchRejections other

@[simp] theorem remember_taskAttempts
    (gate : Gate)
    (key other : TaskKey)
    (record : TaskAttempt) :
    (gate.remember key record).taskAttempts other =
      if other = key then some record else gate.taskAttempts other := rfl

@[simp] theorem remember_preDispatchRejections
    (gate : Gate)
    (key : TaskKey)
    (record : TaskAttempt) :
    (gate.remember key record).preDispatchRejections =
      gate.preDispatchRejections := rfl

@[simp] theorem reject_taskAttempts
    (gate : Gate)
    (key : TaskKey) :
    (gate.reject key).taskAttempts = gate.taskAttempts := rfl

@[simp] theorem reject_preDispatchRejections
    (gate : Gate)
    (key other : TaskKey) :
    (gate.reject key).preDispatchRejections other =
      if other = key then true else gate.preDispatchRejections other := rfl

/-- Core holds the task as terminal: rejected before dispatch or finished. -/
def terminal
    (gate : Gate)
    (key : TaskKey) :
    Bool :=
  gate.preDispatchRejections key ||
    (match gate.taskAttempts key with
      | some record => record.state = .terminal
      | none => false)

end Gate

/-- A nonempty `str`. -/
def nonemptyStr? : PyVal → Option PyStr
  | .str text => if text.isEmpty then none else some text
  | _ => none

/-- An `int` that is not a `bool` and at least one. -/
def attemptNumber? : PyVal → Option Int
  | .int attempt => if attempt < 1 then none else some attempt
  | _ => none

/-- `_task_attempt_identity`. -/
def taskAttemptIdentity?
    (data : PyDict) :
    Option (TaskKey × AttemptIdentity) := do
  let runId ← nonemptyStr? (data.get "workflow_id")
  let taskId ← nonemptyStr? (data.get "task_id")
  let attempt ← attemptNumber? (data.get "attempt")
  let dispatchId ← nonemptyStr? (data.get "dispatch_id")
  let leaseId ← nonemptyStr? (data.get "lease_id")
  return ((runId, taskId), ⟨attempt, dispatchId, leaseId⟩)

/--
The entries of `_task_attempt_node(data)` that are not `None`; the caller drops
the others.
-/
def taskAttemptNode
    (data : PyDict) :
    Except PyErr PyDict := do
  let scheduleDecision := (data.get "schedule_decision").orElse (.dict [])
  let selected := (← scheduleDecision.get "selected_node").orElse (.dict [])
  let nodeId :=
    if (data.get "node_id").truthy then pure (data.get "node_id")
    else selected.get "node_id"
  let nodeIp :=
    if (data.get "node_ip").truthy then pure (data.get "node_ip")
    else selected.get "node_ip"
  let gpuId :=
    if data.get "gpu_id" = .null then selected.get "gpu_id"
    else pure (data.get "gpu_id")
  let node : PyDict :=
    [("node_id", ← nodeId), ("node_ip", ← nodeIp), ("gpu_id", ← gpuId)]
  return node.filter fun entry => entry.2 ≠ .null

/-- `_validate_task_file_manifest`: a manifest must repeat the attempt. -/
def validateTaskFileManifest
    (data : PyDict) :
    Except PyErr Unit :=
  let manifest := data.get "file_manifest"
  if manifest.truthy then
    match manifest with
    | .dict fields =>
        let expected : PyDict :=
          [("run_id", data.get "workflow_id"),
            ("task_id", data.get "task_id"),
            ("attempt", data.get "attempt"),
            ("dispatch_id", data.get "dispatch_id"),
            ("lease_id", data.get "lease_id"),
            ("published", .bool false)]
        if expected.all fun entry => (PyDict.get fields entry.1).pyEq entry.2 then
          .ok ()
        else
          .error .artifactError
    | _ => .error .artifactError
  else
    .ok ()

/-- The state that a message puts its attempt into. -/
def nextState : MessageType → AttemptState
  | .startTask => .running
  | .taskRetry => .retrying
  | .finishTask | .taskException => .terminal

/-- `data.get("error", data.get("result"))`. -/
def errorOrResult
    (data : PyDict) :
    PyVal :=
  (data.get? "error").getD (data.get "result")

/--
A final failure for lack of capacity is reported under the identity of the
attempt before it, which Core already holds as retrying.
-/
def isCapacityRejection
    (messageType : MessageType)
    (data : PyDict)
    (current : TaskAttempt) :
    Except PyErr Bool :=
  if current.state = .retrying && messageType = .taskException &&
      data.get "capacity_rejection" = .bool true then do
    let errorType ← ((data.get "error").orElse (.dict [])).get "error_type"
    return errorType.pyEq (.str "resource_capacity_exceeded")
  else
    .ok false

/-- Whether the remembered attempt admits a message of the given identity. -/
def admits
    (messageType : MessageType)
    (data : PyDict)
    (identity : AttemptIdentity)
    (current : TaskAttempt) :
    Except PyErr Bool :=
  if identity.attempt < current.identity.attempt ||
      (identity.attempt = current.identity.attempt &&
        identity ≠ current.identity) then
    .ok false
  else if identity = current.identity &&
      (current.state ≠ .running || messageType = .startTask) then
    isCapacityRejection messageType data current
  else
    .ok true

/-- The record that an admitted message leaves behind. -/
def attemptRecord
    (messageType : MessageType)
    (data : PyDict)
    (identity : AttemptIdentity)
    (current : Option TaskAttempt) :
    Except PyErr TaskAttempt := do
  let previousNode : PyDict :=
    match current with
    | some record =>
        if record.identity = identity then record.selectedNode else []
    | none => []
  let node ← taskAttemptNode data
  let error : PyVal :=
    if messageType = .taskRetry ∨ messageType = .taskException then
      errorOrResult data
    else
      .null
  return {
    identity := identity
    state := nextState messageType
    eventType := messageType
    selectedNode := previousNode.update node
    error := error
  }

/-- The `pre_dispatch` branch: a failure before any attempt has begun. -/
def acceptPreDispatch
    (data : PyDict)
    (gate : Gate) :
    Option Gate := do
  let runId ← nonemptyStr? (data.get "workflow_id")
  let taskId ← nonemptyStr? (data.get "task_id")
  if (data.get "attempt").pyEq (.int 0) ∧
      data.get "dispatch_id" = .null ∧
      data.get "lease_id" = .null ∧
      gate.taskAttempts (runId, taskId) = none ∧
      gate.preDispatchRejections (runId, taskId) = false then
    some (gate.reject (runId, taskId))
  else
    none

/-- `key in pre_dispatch_rejections`; hashing a list or a dict raises. -/
def isPreDispatchRejected
    (data : PyDict)
    (gate : Gate) :
    Except PyErr Bool :=
  let runId := data.get "workflow_id"
  let taskId := data.get "task_id"
  if runId.hashable && taskId.hashable then
    match runId, taskId with
    | .str run, .str task => .ok (gate.preDispatchRejections (run, task))
    | _, _ => .ok false
  else
    .error .typeError

/--
`_accept_task_attempt_event`: `none` is the rejected message, which changes
nothing, and `some` the accepted one with the gate after it.
-/
def acceptTaskAttemptEvent
    (messageType : MessageType)
    (data : PyDict)
    (gate : Gate) :
    Except PyErr (Option Gate) := do
  if messageType = .taskException ∧ data.get "pre_dispatch" = .bool true then
    return acceptPreDispatch data gate
  if ← isPreDispatchRejected data gate then
    return none
  match taskAttemptIdentity? data with
  | none => return none
  | some (key, identity) =>
      let current := gate.taskAttempts key
      if current.any fun record => record.state = .terminal then
        return none
      if messageType = .finishTask then
        validateTaskFileManifest data
      let admitted ←
        match current with
        | some record => admits messageType data identity record
        | none => .ok true
      if admitted then
        let record ← attemptRecord messageType data identity current
        return some (gate.remember key record)
      else
        return none

/-! ## Messages that carry a full identity -/

/-- The message data names the task and one of its attempts. -/
structure Names
    (data : PyDict)
    (workflowId taskId : Identifier)
    (attempt : Nat)
    (dispatchId leaseId : Identifier) : Prop where
  begun : 1 ≤ attempt
  workflow : data.get "workflow_id" = .str workflowId.val
  task : data.get "task_id" = .str taskId.val
  attempt : data.get "attempt" = .int attempt
  dispatch : data.get "dispatch_id" = .str dispatchId.val
  lease : data.get "lease_id" = .str leaseId.val

variable
  {data : PyDict}
  {messageType : MessageType}
  {gate : Gate}
  {key : TaskKey}
  {record : TaskAttempt}

@[simp] theorem nonemptyStr?_identifier
    (text : Identifier) :
    nonemptyStr? (.str text.val) = some text.val := by
  simp [nonemptyStr?, text.property]

theorem Names.identity
    {workflowId taskId dispatchId leaseId : Identifier}
    {attempt : Nat}
    (names : Names data workflowId taskId attempt dispatchId leaseId) :
    taskAttemptIdentity? data =
      some ((workflowId.val, taskId.val),
        ⟨attempt, dispatchId.val, leaseId.val⟩) := by
  have begun : ¬ (attempt : Int) < 1 := by
    have := names.begun
    omega
  simp [taskAttemptIdentity?, names.workflow, names.task, names.attempt,
    names.dispatch, names.lease, attemptNumber?, begun]

theorem taskAttemptIdentity?_of_no_dispatch
    (undispatched : data.get "dispatch_id" = .null) :
    taskAttemptIdentity? data = none := by
  simp [taskAttemptIdentity?, undispatched, nonemptyStr?]

theorem isPreDispatchRejected_of_str
    {workflowId taskId : PyStr}
    (gate : Gate)
    (workflow : data.get "workflow_id" = .str workflowId)
    (task : data.get "task_id" = .str taskId) :
    isPreDispatchRejected data gate =
      .ok (gate.preDispatchRejections (workflowId, taskId)) := by
  simp [isPreDispatchRejected, workflow, task, PyVal.hashable]

/-- The remembered attempt does not stand in the way of the message. -/
def Admissible
    (messageType : MessageType)
    (data : PyDict)
    (identity : AttemptIdentity) :
    Option TaskAttempt → Prop
  | none => True
  | some record =>
      record.state ≠ .terminal ∧
        admits messageType data identity record = .ok true

/-- A later attempt than the remembered one is admitted. -/
theorem admits_of_later
    (messageType : MessageType)
    (data : PyDict)
    {identity : AttemptIdentity}
    (later : record.identity.attempt < identity.attempt) :
    admits messageType data identity record = .ok true := by
  have notEarlier : ¬ identity.attempt < record.identity.attempt := by
    omega
  have notEqual : identity.attempt ≠ record.identity.attempt := by
    omega
  have differ : identity ≠ record.identity := fun same =>
    notEqual (congrArg AttemptIdentity.attempt same)
  simp [admits, notEarlier, notEqual, differ]

/-- The remembered attempt itself is admitted while it is running. -/
theorem admits_of_running
    (data : PyDict)
    (running : record.state = .running)
    (notStart : messageType ≠ .startTask) :
    admits messageType data record.identity record = .ok true := by
  simp [admits, running, notStart]

/-- The capacity rejection of the remembered attempt is admitted. -/
theorem admits_of_capacityRejection
    {data error : PyDict}
    (retrying : record.state = .retrying)
    (marked : data.get "capacity_rejection" = .bool true)
    (reported : data.get "error" = .dict error)
    (errorType :
      (error.get "error_type").pyEq (.str "resource_capacity_exceeded") = true) :
    admits .taskException data record.identity record = .ok true := by
  have nonempty : error ≠ [] := by
    rintro rfl
    simp [PyDict.get, PyVal.pyEq, PyVal.number?] at errorType
  simp [admits, retrying, isCapacityRejection, marked, reported,
    PyVal.orElse, PyVal.truthy, nonempty, PyVal.get, errorType,
    bind, Except.bind, pure, Except.pure]

theorem attemptRecord_of_located
    (messageType : MessageType)
    {data node : PyDict}
    (identity : AttemptIdentity)
    (current : Option TaskAttempt)
    (located : taskAttemptNode data = .ok node) :
    ∃ record,
      attemptRecord messageType data identity current = .ok record ∧
      record.identity = identity ∧
      record.state = nextState messageType := by
  simp [attemptRecord, located, bind, Except.bind, pure, Except.pure]

/--
A message with a full identity that the remembered attempt admits is accepted,
and Core then holds the attempt in the state that the message names.
-/
theorem accept_of_names
    {data node : PyDict}
    {workflowId taskId dispatchId leaseId : Identifier}
    {attempt : Nat}
    (names : Names data workflowId taskId attempt dispatchId leaseId)
    (dispatched :
      messageType = .taskException → data.get "pre_dispatch" ≠ .bool true)
    (unfinished : messageType ≠ .finishTask)
    (unrejected :
      gate.preDispatchRejections (workflowId.val, taskId.val) = false)
    (located : taskAttemptNode data = .ok node)
    (admissible :
      Admissible messageType data ⟨attempt, dispatchId.val, leaseId.val⟩
        (gate.taskAttempts (workflowId.val, taskId.val))) :
    ∃ record,
      record.identity = ⟨attempt, dispatchId.val, leaseId.val⟩ ∧
      record.state = nextState messageType ∧
      acceptTaskAttemptEvent messageType data gate =
        .ok (some (gate.remember (workflowId.val, taskId.val) record)) := by
  have notPre :
      ¬ (messageType = .taskException ∧
        data.get "pre_dispatch" = .bool true) :=
    fun both => dispatched both.1 both.2
  have notRejected :
      isPreDispatchRejected data gate = .ok false := by
    rw [isPreDispatchRejected_of_str gate names.workflow names.task, unrejected]
  obtain ⟨record, recorded, sameIdentity, sameState⟩ :=
    attemptRecord_of_located messageType
      ⟨attempt, dispatchId.val, leaseId.val⟩
      (gate.taskAttempts (workflowId.val, taskId.val)) located
  refine ⟨record, sameIdentity, sameState, ?_⟩
  cases remembered : gate.taskAttempts (workflowId.val, taskId.val) with
  | none =>
      rw [remembered] at recorded
      simp [acceptTaskAttemptEvent, notPre, unfinished, notRejected,
        names.identity, remembered, recorded,
        bind, Except.bind, pure, Except.pure]
  | some current =>
      rw [remembered] at recorded admissible
      obtain ⟨alive, admitted⟩ := admissible
      simp [acceptTaskAttemptEvent, notPre, unfinished, notRejected,
        names.identity, remembered, recorded, alive, admitted,
        bind, Except.bind, pure, Except.pure]

/-- A message without dispatch that is no pre-dispatch failure is rejected. -/
theorem accept_of_no_dispatch
    {workflowId taskId : Identifier}
    (workflow : data.get "workflow_id" = .str workflowId.val)
    (task : data.get "task_id" = .str taskId.val)
    (notPreDispatch : data.get "pre_dispatch" ≠ .bool true)
    (undispatched : data.get "dispatch_id" = .null) :
    acceptTaskAttemptEvent messageType data gate = .ok none := by
  simp [acceptTaskAttemptEvent, notPreDispatch,
    isPreDispatchRejected_of_str gate workflow task,
    taskAttemptIdentity?_of_no_dispatch undispatched,
    bind, Except.bind, pure, Except.pure]

/-- A pre-dispatch failure of a task that Core knows nothing about is accepted. -/
theorem accept_of_preDispatch
    {workflowId taskId : Identifier}
    (workflow : data.get "workflow_id" = .str workflowId.val)
    (task : data.get "task_id" = .str taskId.val)
    (preDispatch : data.get "pre_dispatch" = .bool true)
    (attempt : data.get "attempt" = .int 0)
    (dispatch : data.get "dispatch_id" = .null)
    (lease : data.get "lease_id" = .null)
    (unknown : gate.taskAttempts (workflowId.val, taskId.val) = none)
    (unrejected :
      gate.preDispatchRejections (workflowId.val, taskId.val) = false) :
    acceptTaskAttemptEvent .taskException data gate =
      .ok (some (gate.reject (workflowId.val, taskId.val))) := by
  have zero : (PyVal.int 0).pyEq (.int 0) = true := by
    simp [PyVal.pyEq, PyVal.number?]
  simp [acceptTaskAttemptEvent, preDispatch, acceptPreDispatch, workflow, task,
    attempt, dispatch, lease, unknown, unrejected, zero, pure, Except.pure]

/-! ## What an accepted message says -/

theorem nonemptyStr?_eq_some
    {value : PyVal}
    {text : PyStr}
    (found : nonemptyStr? value = some text) :
    value = .str text := by
  unfold nonemptyStr? at found
  split at found
  · split at found
    · cases found
    · cases found
      rfl
  · cases found

theorem attemptNumber?_eq_some
    {value : PyVal}
    {attempt : Int}
    (found : attemptNumber? value = some attempt) :
    value = .int attempt := by
  unfold attemptNumber? at found
  split at found
  · split at found
    · cases found
    · cases found
      rfl
  · cases found

/-- The entries that a message with a parsed identity has. -/
theorem taskAttemptIdentity?_eq_some
    {identity : AttemptIdentity}
    (parsed : taskAttemptIdentity? data = some (key, identity)) :
    data.get "workflow_id" = .str key.1 ∧ data.get "task_id" = .str key.2 ∧
      data.get "attempt" = .int identity.attempt ∧
      data.get "dispatch_id" = .str identity.dispatchId ∧
      data.get "lease_id" = .str identity.leaseId := by
  simp only [taskAttemptIdentity?, Option.bind_eq_bind,
    Option.bind_eq_some_iff, Option.pure_def, Option.some.injEq] at parsed
  obtain ⟨runId, run, taskId, task, attempt, number, dispatchId, dispatch,
    leaseId, lease, same⟩ := parsed
  cases same
  exact ⟨nonemptyStr?_eq_some run, nonemptyStr?_eq_some task,
    attemptNumber?_eq_some number, nonemptyStr?_eq_some dispatch,
    nonemptyStr?_eq_some lease⟩

/-- A pre-dispatch failure that the gate lets through. -/
structure RejectedBeforeDispatch
    (messageType : MessageType)
    (data : PyDict)
    (gate : Gate)
    (key : TaskKey) : Prop where
  failure : messageType = .taskException
  preDispatch : data.get "pre_dispatch" = .bool true
  workflow : data.get "workflow_id" = .str key.1
  task : data.get "task_id" = .str key.2
  unknown : gate.taskAttempts key = none
  unrejected : gate.preDispatchRejections key = false

/-- A message of an attempt that the gate lets through, with the record it leaves. -/
structure AdmittedAttempt
    (messageType : MessageType)
    (data : PyDict)
    (gate : Gate)
    (key : TaskKey)
    (record : TaskAttempt) : Prop where
  parsed : taskAttemptIdentity? data = some (key, record.identity)
  state : record.state = nextState messageType
  unrejected : gate.preDispatchRejections key = false
  admissible :
    Admissible messageType data record.identity (gate.taskAttempts key)

theorem acceptPreDispatch_eq_some
    {gate after : Gate}
    (preDispatch : data.get "pre_dispatch" = .bool true)
    (accepted : acceptPreDispatch data gate = some after) :
    ∃ key, RejectedBeforeDispatch .taskException data gate key ∧
      after = gate.reject key := by
  simp only [acceptPreDispatch, Option.bind_eq_bind,
    Option.bind_eq_some_iff] at accepted
  obtain ⟨runId, run, taskId, task, accepted⟩ := accepted
  split at accepted
  · next absent =>
    obtain ⟨_, _, _, unknown, unrejected⟩ := absent
    cases accepted
    exact ⟨(runId, taskId), ⟨rfl, preDispatch, nonemptyStr?_eq_some run,
      nonemptyStr?_eq_some task, unknown, unrejected⟩, rfl⟩
  · cases accepted

/-- What the gate can do with a message that it lets through. -/
theorem accept_cases
    {gate after : Gate}
    (accepted : acceptTaskAttemptEvent messageType data gate = .ok (some after)) :
    (∃ key, RejectedBeforeDispatch messageType data gate key ∧
      after = gate.reject key) ∨
    (∃ key record, AdmittedAttempt messageType data gate key record ∧
      after = gate.remember key record) := by
  by_cases preDispatch :
      messageType = .taskException ∧ data.get "pre_dispatch" = .bool true
  · obtain ⟨rfl, marked⟩ := preDispatch
    simp only [acceptTaskAttemptEvent, marked, and_self, if_true, pure,
      Except.pure, Except.ok.injEq] at accepted
    exact Or.inl (acceptPreDispatch_eq_some marked accepted)
  · right
    simp only [acceptTaskAttemptEvent, preDispatch, if_false,
      bind_eq_ok] at accepted
    obtain ⟨rejected, unrejected, accepted⟩ := accepted
    cases rejected with
    | true =>
        cases accepted
    | false =>
        simp only [Bool.false_eq_true, if_false] at accepted
        cases parsed : taskAttemptIdentity? data with
        | none =>
            rw [parsed] at accepted
            cases accepted
        | some found =>
            obtain ⟨key, identity⟩ := found
            obtain ⟨workflow, task, _⟩ := taskAttemptIdentity?_eq_some parsed
            rw [isPreDispatchRejected_of_str gate workflow task] at unrejected
            rw [parsed] at accepted
            dsimp only at accepted
            split at accepted
            · cases accepted
            · next alive =>
              -- the manifest of a finish only refuses
              have decided : ∃ admitted,
                  (match gate.taskAttempts key with
                    | some record => admits messageType data identity record
                    | none => .ok true) = .ok admitted ∧
                  (if admitted then do
                      let record ← attemptRecord messageType data identity
                        (gate.taskAttempts key)
                      return some (gate.remember key record)
                    else
                      return none) = .ok (some after) := by
                cases remembered : gate.taskAttempts key with
                | none =>
                    rw [remembered] at accepted
                    split at accepted
                    · obtain ⟨_, _, accepted⟩ := bind_eq_ok.mp accepted
                      exact bind_eq_ok.mp accepted
                    · exact bind_eq_ok.mp accepted
                | some record =>
                    rw [remembered] at accepted
                    split at accepted
                    · obtain ⟨_, _, accepted⟩ := bind_eq_ok.mp accepted
                      exact bind_eq_ok.mp accepted
                    · exact bind_eq_ok.mp accepted
              obtain ⟨admitted, admission, decided⟩ := decided
              cases admitted with
              | false =>
                  cases decided
              | true =>
                  simp only [if_true, bind_eq_ok] at decided
                  obtain ⟨record, recorded, same⟩ := decided
                  simp only [attemptRecord, bind_eq_ok] at recorded
                  obtain ⟨_, _, made⟩ := recorded
                  cases made
                  cases same
                  refine ⟨key, _, ⟨parsed, rfl, by simpa using unrejected, ?_⟩,
                    rfl⟩
                  cases remembered : gate.taskAttempts key with
                  | none =>
                      trivial
                  | some current =>
                      rw [remembered] at alive admission
                      exact ⟨by simpa using alive, admission⟩

theorem AdmittedAttempt.not_terminal
    (admitted : AdmittedAttempt messageType data gate key record) :
    gate.terminal key = false := by
  have admissible := admitted.admissible
  cases remembered : gate.taskAttempts key with
  | none =>
      simp [Gate.terminal, admitted.unrejected, remembered]
  | some current =>
      rw [remembered] at admissible
      simp [Gate.terminal, admitted.unrejected, remembered, admissible.1]

theorem RejectedBeforeDispatch.not_terminal
    (rejected : RejectedBeforeDispatch messageType data gate key) :
    gate.terminal key = false := by
  simp [Gate.terminal, rejected.unrejected, rejected.unknown]

/-- A message that is no failure is let through with a record. -/
theorem accept_eq_some
    {gate after : Gate}
    (ordinary : messageType ≠ .taskException)
    (accepted : acceptTaskAttemptEvent messageType data gate = .ok (some after)) :
    ∃ key record, AdmittedAttempt messageType data gate key record ∧
      after = gate.remember key record := by
  rcases accept_cases accepted with ⟨_, rejected, _⟩ | admitted
  · exact absurd rejected.failure ordinary
  · exact admitted

/-- What the gate lets through leaves every terminal task terminal. -/
theorem accept_terminal
    {gate after : Gate}
    (accepted : acceptTaskAttemptEvent messageType data gate = .ok (some after))
    (terminal : gate.terminal key = true) :
    after.terminal key = true := by
  rcases accept_cases accepted with ⟨other, rejected, rfl⟩ |
    ⟨other, record, admitted, rfl⟩
  · by_cases same : key = other
    · rw [same, rejected.not_terminal] at terminal
      cases terminal
    · simpa [Gate.terminal, same] using terminal
  · by_cases same : key = other
    · rw [same, admitted.not_terminal] at terminal
      cases terminal
    · simpa [Gate.terminal, same] using terminal

/-- A finish message of a terminal task is refused. -/
theorem accept_of_terminal
    {identity : AttemptIdentity}
    (parsed : taskAttemptIdentity? data = some (key, identity))
    (terminal : gate.terminal key = true) :
    acceptTaskAttemptEvent .finishTask data gate = .ok none := by
  obtain ⟨workflow, task, _⟩ := taskAttemptIdentity?_eq_some parsed
  have rejection := isPreDispatchRejected_of_str gate workflow task
  cases rejected : gate.preDispatchRejections key with
  | true =>
      rw [rejected] at rejection
      simp [acceptTaskAttemptEvent, rejection, bind, Except.bind, pure,
        Except.pure]
  | false =>
      rw [rejected] at rejection
      cases remembered : gate.taskAttempts key with
      | none =>
          simp [Gate.terminal, rejected, remembered] at terminal
      | some record =>
          simp [Gate.terminal, rejected, remembered] at terminal
          simp [acceptTaskAttemptEvent, rejection, parsed, remembered, terminal,
            bind, Except.bind, pure, Except.pure]

end Maze.Core.AttemptGate
