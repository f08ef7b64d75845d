import Mathlib.Logic.Relation
import Maze.Core.DynamicRun
import Maze.Library.Digraph

namespace Maze.Core.DynamicReadiness

open Maze.Python
open Maze.Library
open Maze.Library.Transition

/-!
# When the tasks of a dynamic run are submitted

A task is appended with the parents that the call names and those that its inputs
refer to. It is submitted at once where they all have completed, and otherwise by
the finish of the last of them. A run that is active is followed through any
appends, starts, retries and finishes of its tasks; the id of a new task is one
that the run does not know.
-/

/-! ## The parents of a task -/

/-- `_is_output_ref`. -/
def isOutputRef : PyVal → Bool
  | .dict entries =>
      PyDict.get entries "__maze_output_ref__" = .bool true ||
        (PyDict.get? entries "task_id").isSome &&
          (PyDict.get? entries "output_key").isSome
  | _ => false

/--
The task that an output reference names. An id that is not a string names no task,
and the append raises.
-/
def referencedTask (value : PyVal) : Except PyErr TaskId :=
  match value with
  | .dict entries =>
      match PyDict.get? entries "task_id", PyDict.get? entries "output_key" with
      | some (.str taskId), some _ => .ok taskId
      | some taskId, some _ =>
          .error (if taskId.hashable then .valueError else .typeError)
      | _, _ => .error .keyError
  | _ => .error .typeError

/-- The names of `_known_input_params`. -/
def knownInputParams
    (specInputs : List PyStr)
    (inputs : PyDict) :
    List PyStr :=
  specInputs ++ (inputs.map Prod.fst).filter fun key => key ∉ specInputs

/-- The parents of `build_dynamic_task_input`. -/
def inputParents
    (specInputs : List PyStr)
    (inputs : PyDict) :
    Except PyErr (List TaskId) :=
  ((knownInputParams specInputs inputs).map fun key => PyDict.get inputs key).filter
    isOutputRef |>.mapM referencedTask

/-- A call of `append_task`; the code has generated the id of the task. -/
structure AppendCall where
  taskId : TaskId
  taskName : PyStr
  requestId : Option PyStr
  specInputs : List PyStr
  inputs : PyDict
  parents : List TaskId
  /-- What the resources of the task raise. -/
  buildError : Option PyErr

/-- The call with its inputs built. -/
def AppendCall.request (call : AppendCall) : DynamicRun.AppendRequest :=
  match inputParents call.specInputs call.inputs with
  | .error raised =>
      ⟨call.taskId, call.taskName, call.requestId, call.parents, some raised⟩
  | .ok parents =>
      ⟨call.taskId, call.taskName, call.requestId, call.parents ++ parents,
        call.buildError⟩

/-! ## Runs -/

/-- A run, with the tasks that its callers were told to submit, in order. -/
structure Process where
  run : DynamicRun
  submissions : List TaskId

/-- What is done to a run. -/
inductive Action where
  | append (call : AppendCall) (now : Time)
  | start (taskId : TaskId) (now : Time)
  | retry (taskId : TaskId) (error faultTolerance : PyVal) (now : Time)
  | finish (taskId : TaskId) (faultTolerance : PyVal) (now : Time)

/-- The ids of the tasks, in the order of their appends. -/
def taskIds (run : DynamicRun) : List TaskId :=
  run.tasks.map Prod.fst

/-- An append, and the task where it is submitted at once. -/
def append
    (render : Time → PyStr)
    (process : Process)
    (call : AppendCall)
    (now : Time) :
    Process :=
  let appended := process.run.appendTask render call.request now
  { run := appended.state
    submissions :=
      match appended.result with
      | .ok (taskId, false) =>
          if taskId ∈ appended.state.submittedTasks then
            process.submissions ++ [taskId]
          else
            process.submissions
      | _ => process.submissions }

/-- A finish, and the tasks that it returns. -/
def finish
    (process : Process)
    (taskId : TaskId)
    (faultTolerance : PyVal)
    (now : Time) :
    Process :=
  let finished := process.run.markFinished taskId faultTolerance now
  { run := finished.1
    submissions := process.submissions ++ finished.2 }

/-- One step; only a task that was submitted finishes. -/
def step?
    (render : Time → PyStr)
    (process : Process) :
    Action → Option Process
  | .append call now =>
      if call.taskId ∈ taskIds process.run then
        none
      else
        some (append render process call now)
  | .start taskId now =>
      some { process with run := process.run.markStarted taskId now }
  | .retry taskId error faultTolerance now =>
      some { process with
        run := process.run.markRetrying taskId error faultTolerance now }
  | .finish taskId faultTolerance now =>
      if taskId ∈ process.run.submittedTasks then
        some (finish process taskId faultTolerance now)
      else
        none

/-- A new run. -/
def created
    (runId : PyStr)
    (maxTasks : Int)
    (timeoutSeconds : Option Time)
    (fileContext : PyVal)
    (now : Time) :
    Process where
  run := .new runId maxTasks timeoutSeconds fileContext now
  submissions := []

/-! ## The law -/

/-- The recorded parents of a task. -/
def parentsOf
    (run : DynamicRun)
    (taskId : TaskId) :
    List TaskId :=
  (run.taskParents.lookup taskId).getD []

/-- The parents of the tasks that a run knows. -/
structure Parents (run : DynamicRun) : Prop where
  distinct : (taskIds run).Nodup
  earlier :
    ∀ older taskId newer, taskIds run = older ++ taskId :: newer →
      ∀ parent ∈ parentsOf run taskId, parent ∈ older

/-- Where the tasks of an active run stand. -/
structure Progress (process : Process) : Prop where
  one :
    ∀ taskId ∈ taskIds process.run,
      Xor (taskId ∈ process.run.pendingTasks)
        (taskId ∈ process.run.submittedTasks)
  once : process.submissions.Nodup
  told :
    ∀ taskId, taskId ∈ process.submissions ↔
      taskId ∈ process.run.submittedTasks
  late :
    ∀ taskId ∈ process.submissions, ∀ parent ∈ parentsOf process.run taskId,
      parent ∈ process.run.completedTasks
  waiting :
    ∀ taskId ∈ process.run.pendingTasks, ∃ parent ∈ parentsOf process.run taskId,
      parent ∉ process.run.completedTasks

/-- What a run makes of its request ids. -/
structure Requests (render : Time → PyStr) (run : DynamicRun) : Prop where
  one :
    ∀ first ∈ run.tasks, ∀ second ∈ run.tasks, ∀ requestId : PyStr,
      requestId.isEmpty = false →
        first.2.requestId = some requestId →
          second.2.requestId = some requestId → first.1 = second.1
  answered :
    ∀ entry ∈ run.tasks, ∀ request : DynamicRun.AppendRequest,
      request.requestKey.isSome = true →
        request.requestId = entry.2.requestId →
          ∀ now, run.deadlinePassed now = false →
            run.appendTask render request now = ⟨run, .ok (entry.1, true)⟩

/-- The law of appends and finishes on a run that is active. -/
structure AppendLaw (render : Time → PyStr) (process : Process) : Prop where
  parents : Parents process.run
  acyclic :
    ∀ taskId, ¬ Relation.TransGen
      (fun parent child => parent ∈ parentsOf process.run child) taskId taskId
  progress : Progress process
  bounded : (process.run.tasks.length : Int) ≤ max 0 process.run.maxTasks
  requests : Requests render process.run

/-! ## What the law rests on -/

/-- The ids of the tasks with their request ids. -/
def named (run : DynamicRun) : List (TaskId × Option PyStr) :=
  run.tasks.map fun entry => (entry.1, entry.2.requestId)

/-- The law, with what else is known of the sets of an active run. -/
structure Sound (process : Process) : Prop where
  parents : Parents process.run
  unknown :
    ∀ taskId, taskId ∉ taskIds process.run → parentsOf process.run taskId = []
  progress : Progress process
  pendingKnown :
    ∀ taskId ∈ process.run.pendingTasks, taskId ∈ taskIds process.run
  submittedKnown :
    ∀ taskId ∈ process.run.submittedTasks, taskId ∈ taskIds process.run
  pendingOnce : process.run.pendingTasks.Nodup
  bounded : (process.run.tasks.length : Int) ≤ max 0 process.run.maxTasks
  recorded :
    ∀ entry ∈ named process.run, ∀ requestId : PyStr,
      requestId.isEmpty = false → entry.2 = some requestId →
        process.run.requestIds.lookup requestId = some entry.1

theorem taskIds_eq_named (run : DynamicRun) :
    taskIds run = (named run).map Prod.fst := by
  rw [taskIds, named, List.map_map]
  rfl

theorem length_named (run : DynamicRun) :
    (named run).length = run.tasks.length :=
  List.length_map _

theorem isTaskReady_iff
    (run : DynamicRun)
    (taskId : TaskId) :
    run.isTaskReady taskId = true ↔
      ∀ parent ∈ parentsOf run taskId, parent ∈ run.completedTasks := by
  simp [DynamicRun.isTaskReady, parentsOf]

theorem named_updateTask
    {run changed : DynamicRun}
    (taskId : TaskId)
    (change : CodeTask → CodeTask)
    (updated : changed.tasks = run.updateTask taskId change)
    (kept : ∀ task, (change task).requestId = task.requestId) :
    named changed = named run := by
  rw [named, updated, DynamicRun.updateTask, List.map_map]
  apply List.map_congr_left
  intro entry _
  simp only [Function.comp_apply]
  split
  · rw [kept]
  · rfl

/-- Nothing that the law is about has changed. -/
structure Same (before after : DynamicRun) : Prop where
  named : named after = named before
  taskParents : after.taskParents = before.taskParents
  pendingTasks : after.pendingTasks = before.pendingTasks
  submittedTasks : after.submittedTasks = before.submittedTasks
  completedTasks : after.completedTasks = before.completedTasks
  requestIds : after.requestIds = before.requestIds
  maxTasks : after.maxTasks = before.maxTasks

theorem Same.taskIds
    {before after : DynamicRun}
    (same : Same before after) :
    taskIds after = taskIds before := by
  rw [taskIds_eq_named, taskIds_eq_named, same.named]

theorem Same.parentsOf
    {before after : DynamicRun}
    (same : Same before after)
    (taskId : TaskId) :
    parentsOf after taskId = parentsOf before taskId := by
  rw [DynamicReadiness.parentsOf, DynamicReadiness.parentsOf, same.taskParents]

theorem Sound.of_same
    {process : Process}
    {after : DynamicRun}
    (sound : Sound process)
    (same : Same process.run after) :
    Sound { process with run := after } where
  parents := by
    constructor
    · rw [same.taskIds]
      exact sound.parents.distinct
    · intro older taskId newer split
      rw [same.taskIds] at split
      rw [same.parentsOf]
      exact sound.parents.earlier older taskId newer split
  unknown := by
    intro taskId unknown
    rw [same.taskIds] at unknown
    rw [same.parentsOf]
    exact sound.unknown taskId unknown
  progress := by
    obtain ⟨one, once, told, late, waiting⟩ := sound.progress
    constructor <;>
      simp only [same.taskIds, same.parentsOf, same.pendingTasks,
        same.submittedTasks, same.completedTasks] <;>
      assumption
  pendingKnown := by
    simp only [same.taskIds, same.pendingTasks]
    exact sound.pendingKnown
  submittedKnown := by
    simp only [same.taskIds, same.submittedTasks]
    exact sound.submittedKnown
  pendingOnce := by
    simp only [same.pendingTasks]
    exact sound.pendingOnce
  bounded := by
    have bounded := sound.bounded
    rw [← length_named, ← same.named, length_named] at bounded
    simpa only [same.maxTasks] using bounded
  recorded := by
    simp only [same.named, same.requestIds]
    exact sound.recorded

theorem same_markStarted
    (run : DynamicRun)
    (taskId : TaskId)
    (now : Time) :
    Same run (run.markStarted taskId now) := by
  unfold DynamicRun.markStarted
  split
  · exact ⟨rfl, rfl, rfl, rfl, rfl, rfl, rfl⟩
  · let change (task : CodeTask) : CodeTask := { task with startTime := some now }
    exact ⟨named_updateTask taskId change rfl fun _ => rfl, rfl, rfl, rfl, rfl, rfl,
      rfl⟩

theorem same_markRetrying
    (run : DynamicRun)
    (taskId : TaskId)
    (error faultTolerance : PyVal)
    (now : Time) :
    Same run (run.markRetrying taskId error faultTolerance now) := by
  unfold DynamicRun.markRetrying
  split <;> exact ⟨rfl, rfl, rfl, rfl, rfl, rfl, rfl⟩

/-- A finish submits the pending tasks whose last parent has completed. -/
theorem sound_finish
    {process : Process}
    (sound : Sound process)
    (taskId : TaskId)
    (faultTolerance : PyVal)
    (now : Time)
    (active : process.run.isTerminal = false) :
    Sound (finish process taskId faultTolerance now) := by
  let change (task : CodeTask) : CodeTask :=
    { task with completed := true, finishTime := some now }
  let completed : DynamicRun :=
    { process.run with
      runningTasks := process.run.runningTasks.erase taskId
      completedTasks := process.run.completedTasks.insert taskId
      taskFaultTolerance :=
        DynamicRun.withFaultTolerance process.run.taskFaultTolerance taskId
          faultTolerance
      tasks := process.run.updateTask taskId change }
  let ready := process.run.pendingTasks.filter fun id => completed.isTaskReady id
  have finished : finish process taskId faultTolerance now =
      { run :=
          { completed with
            submittedTasks := ready ∪ process.run.submittedTasks
            pendingTasks :=
              process.run.pendingTasks.filter fun id => !completed.isTaskReady id
            updatedTime := now }
        submissions := process.submissions ++ ready } := by
    simp only [finish, DynamicRun.markFinished, active, Bool.false_eq_true, if_false]
    rfl
  have names : named completed = named process.run :=
    named_updateTask taskId change rfl fun _ => rfl
  have ids : taskIds completed = taskIds process.run := by
    rw [taskIds_eq_named, taskIds_eq_named, names]
  have readyIff : ∀ id, completed.isTaskReady id = true ↔
      ∀ parent ∈ parentsOf process.run id, parent ∈ completed.completedTasks :=
    isTaskReady_iff completed
  have grown : ∀ id ∈ process.run.completedTasks, id ∈ completed.completedTasks :=
    fun id member => List.mem_insert_of_mem member
  have separate : ∀ id ∈ process.run.pendingTasks,
      id ∉ process.run.submittedTasks := by
    intro id pending
    rcases sound.progress.one id (sound.pendingKnown id pending) with here | here
    · exact here.2
    · exact absurd pending here.2
  rw [finished]
  constructor
  case parents =>
    exact ⟨ids ▸ sound.parents.distinct, fun older id newer split =>
      sound.parents.earlier older id newer (ids ▸ split)⟩
  case unknown =>
    intro id unknown
    exact sound.unknown id (ids ▸ unknown)
  case progress =>
    constructor
    case one =>
      intro id member
      simp only [List.mem_filter, List.mem_union_iff, ready, Bool.not_eq_true']
      rcases sound.progress.one id (ids ▸ member) with here | here
      · cases isReady : completed.isTaskReady id <;> simp [here.1, here.2, Xor]
      · simp [here.1, here.2, Xor]
    case once =>
      refine List.nodup_append.mpr ⟨sound.progress.once,
        sound.pendingOnce.filter _, ?_⟩
      rintro id submitted other isReady rfl
      exact separate id (List.mem_of_mem_filter isReady)
        ((sound.progress.told id).mp submitted)
    case told =>
      intro id
      rw [List.mem_append, sound.progress.told, List.mem_union_iff, or_comm]
    case late =>
      intro id member parent isParent
      rcases List.mem_append.mp member with earlier | isReady
      · exact grown parent (sound.progress.late id earlier parent isParent)
      · exact (readyIff id).mp (List.mem_filter.mp isReady).2 parent isParent
    case waiting =>
      intro id member
      obtain ⟨_, notReady⟩ := List.mem_filter.mp member
      have missing := (readyIff id).not.mp (by simpa using notReady)
      push Not at missing
      exact missing
  case pendingKnown =>
    intro id member
    exact ids ▸ sound.pendingKnown id (List.mem_of_mem_filter member)
  case submittedKnown =>
    intro id member
    rcases List.mem_union_iff.mp member with isReady | submitted
    · exact ids ▸ sound.pendingKnown id (List.mem_of_mem_filter isReady)
    · exact ids ▸ sound.submittedKnown id submitted
  case pendingOnce =>
    exact sound.pendingOnce.filter _
  case bounded =>
    have bounded := sound.bounded
    rw [← length_named, ← names, length_named] at bounded
    exact bounded
  case recorded =>
    intro entry member
    exact sound.recorded entry (names ▸ member)

/-- A task that is appended is new, and the run can take it. -/
structure Appends (run : DynamicRun) (request : DynamicRun.AppendRequest) : Prop where
  unanswered :
    (request.requestKey.bind fun requestId => run.requestIds.lookup requestId) = none
  room : (run.tasks.length : Int) < run.maxTasks
  parents : ∀ parent ∈ request.parents, parent ∈ taskIds run

/-- What an append does to a run. -/
theorem appendTask_outcomes
    (render : Time → PyStr)
    (run : DynamicRun)
    (request : DynamicRun.AppendRequest)
    (now : Time) :
    (run.deadlinePassed now = true ∧
        (run.appendTask render request now).state = run.timedOutRun render now ∧
        ∃ raised, (run.appendTask render request now).result = .error raised) ∨
      ((run.appendTask render request now).state = run ∧
        ∀ taskId,
          (run.appendTask render request now).result ≠ .ok (taskId, false)) ∨
      (run.isTerminal = false ∧ Appends run request ∧ request.buildError = none ∧
        run.appendTask render request now =
          ⟨run.addTask request now, .ok (request.taskId, false)⟩) := by
  cases passed : run.deadlinePassed now with
  | true =>
      obtain ⟨raised, checked⟩ := DynamicRun.checkCanMutate_of_passed render passed
      simp only [DynamicRun.appendTask, checked]
      exact Or.inl ⟨trivial, trivial, raised, rfl⟩
  | false =>
      refine Or.inr ?_
      cases terminal : run.isTerminal with
      | true =>
          have checked := DynamicRun.checkCanMutate_of_terminal render now terminal
          simp only [DynamicRun.appendTask, checked]
          exact Or.inl ⟨trivial, fun _ same => by cases same⟩
      | false =>
          have checked := DynamicRun.checkCanMutate_of_live render passed terminal
          simp only [DynamicRun.appendTask, checked]
          cases answered : request.requestKey.bind fun requestId =>
              run.requestIds.lookup requestId with
          | some taskId =>
              exact Or.inl ⟨rfl, fun _ same => by cases same⟩
          | none =>
              dsimp only
              split
              · exact Or.inl ⟨rfl, fun _ same => by cases same⟩
              · next room =>
                cases built : request.buildError with
                | some raised =>
                    exact Or.inl ⟨rfl, fun _ same => by cases same⟩
                | none =>
                    dsimp only
                    split
                    · next known =>
                      refine Or.inr ⟨trivial, ⟨answered, by omega, ?_⟩, rfl, rfl⟩
                      simpa [taskIds] using known
                    · exact Or.inl ⟨rfl, fun _ same => by cases same⟩

/-- What an append does to a run that is active after it. -/
theorem appendTask_active
    (render : Time → PyStr)
    {run : DynamicRun}
    (request : DynamicRun.AppendRequest)
    (now : Time)
    (active : (run.appendTask render request now).state.isTerminal = false) :
    ((run.appendTask render request now).state = run ∧
        ∀ taskId,
          (run.appendTask render request now).result ≠ .ok (taskId, false)) ∨
      (Appends run request ∧
        run.appendTask render request now =
          ⟨run.addTask request now, .ok (request.taskId, false)⟩) := by
  rcases appendTask_outcomes render run request now with
    ⟨_, ended, _⟩ | refused | ⟨_, appends, _, appended⟩
  · rw [ended] at active
    cases active
  · exact Or.inl refused
  · exact Or.inr ⟨appends, appended⟩

theorem named_addTask
    (run : DynamicRun)
    (request : DynamicRun.AppendRequest)
    (now : Time) :
    named (run.addTask request now) =
      named run ++ [(request.taskId, request.requestId)] := by
  unfold DynamicRun.addTask
  dsimp only
  split <;> simp [named, DynamicRun.registerTask]

theorem taskParents_addTask
    (run : DynamicRun)
    (request : DynamicRun.AppendRequest)
    (now : Time) :
    (run.addTask request now).taskParents =
      (request.taskId, request.parents) :: run.taskParents := by
  unfold DynamicRun.addTask
  dsimp only
  split <;> rfl

theorem parentsOf_addTask
    (run : DynamicRun)
    (request : DynamicRun.AppendRequest)
    (now : Time)
    (taskId : TaskId) :
    parentsOf (run.addTask request now) taskId =
      if taskId = request.taskId then request.parents else parentsOf run taskId := by
  rw [parentsOf, taskParents_addTask, List.lookup_cons]
  by_cases same : taskId = request.taskId
  · simp [same]
  · have differs : (taskId == request.taskId) = false := by
      simpa using same
    simp only [differs, if_neg same]
    rfl

/-- Where a new task goes. -/
theorem addTask_cases
    (run : DynamicRun)
    (request : DynamicRun.AppendRequest)
    (now : Time) :
    (run.addTask request now).completedTasks = run.completedTasks ∧
      (run.addTask request now).maxTasks = run.maxTasks ∧
      (((∀ parent ∈ request.parents, parent ∈ run.completedTasks) ∧
          (run.addTask request now).submittedTasks =
            run.submittedTasks.insert request.taskId ∧
          (run.addTask request now).pendingTasks = run.pendingTasks) ∨
        ((∃ parent ∈ request.parents, parent ∉ run.completedTasks) ∧
          (run.addTask request now).submittedTasks = run.submittedTasks ∧
          (run.addTask request now).pendingTasks =
            run.pendingTasks ++ [request.taskId])) := by
  have ready : (run.registerTask request now).isTaskReady request.taskId = true ↔
      ∀ parent ∈ request.parents, parent ∈ run.completedTasks := by
    rw [isTaskReady_iff]
    simp [parentsOf, DynamicRun.registerTask]
  unfold DynamicRun.addTask
  dsimp only
  split
  · next isReady =>
    exact ⟨rfl, rfl, Or.inl ⟨ready.mp isReady, rfl, rfl⟩⟩
  · next notReady =>
    have missing := ready.not.mp notReady
    push Not at missing
    exact ⟨rfl, rfl, Or.inr ⟨missing, rfl, rfl⟩⟩

theorem isTerminal_addTask
    (run : DynamicRun)
    (request : DynamicRun.AppendRequest)
    (now : Time)
    (active : run.isTerminal = false) :
    (run.addTask request now).isTerminal = false := by
  have registered : (run.registerTask request now).isTerminal = false := by
    unfold DynamicRun.isTerminal DynamicRun.registerTask
    dsimp only
    split
    · rfl
    · exact active
  unfold DynamicRun.addTask
  dsimp only
  split
  · exact registered
  · exact registered

theorem requestIds_addTask
    (run : DynamicRun)
    (request : DynamicRun.AppendRequest)
    (now : Time) :
    (run.addTask request now).requestIds =
      match request.requestKey with
      | some requestId => (requestId, request.taskId) :: run.requestIds
      | none => run.requestIds := by
  unfold DynamicRun.addTask
  dsimp only
  split <;> rfl

theorem AppendCall.request_taskId (call : AppendCall) :
    call.request.taskId = call.taskId := by
  unfold AppendCall.request
  split <;> rfl

section Append

variable
  {process : Process} {request : DynamicRun.AppendRequest} {now : Time}

theorem taskIds_addTask
    (run : DynamicRun)
    (request : DynamicRun.AppendRequest)
    (now : Time) :
    taskIds (run.addTask request now) = taskIds run ++ [request.taskId] := by
  rw [taskIds_eq_named, named_addTask, List.map_append, taskIds_eq_named]
  rfl

/-- The parents that are recorded with a new task are earlier tasks. -/
theorem parents_addTask
    (sound : Sound process)
    (fresh : request.taskId ∉ taskIds process.run)
    (appends : Appends process.run request) :
    Parents (process.run.addTask request now) where
  distinct := by
    rw [taskIds_addTask]
    refine List.nodup_append.mpr ⟨sound.parents.distinct, by simp, ?_⟩
    rintro taskId member other isNew rfl
    rw [List.mem_singleton.mp isNew] at member
    exact fresh member
  earlier := by
    intro older taskId newer split parent isParent
    rw [taskIds_addTask] at split
    rw [parentsOf_addTask] at isParent
    rcases List.eq_nil_or_concat newer with rfl | ⟨between, last, rfl⟩
    · obtain ⟨same, last⟩ := List.append_inj' split rfl
      obtain rfl := (List.cons.inj last).1
      rw [if_pos rfl] at isParent
      exact same ▸ appends.parents parent isParent
    · rw [List.concat_eq_append, ← List.cons_append, ← List.append_assoc] at split
      obtain ⟨same, _⟩ := List.append_inj' split rfl
      have old : taskId ≠ request.taskId := by
        rintro rfl
        exact fresh (same ▸ by simp)
      rw [if_neg old] at isParent
      exact sound.parents.earlier older taskId between same parent isParent

/-- A new task is submitted where its parents have completed. -/
theorem progress_addTask
    (sound : Sound process)
    (fresh : request.taskId ∉ taskIds process.run) :
    Progress
      { run := process.run.addTask request now
        submissions :=
          if request.taskId ∈ (process.run.addTask request now).submittedTasks then
            process.submissions ++ [request.taskId]
          else
            process.submissions } := by
  have parents := parentsOf_addTask process.run request now
  have unsubmitted : request.taskId ∉ process.run.submittedTasks :=
    fun member => fresh (sound.submittedKnown _ member)
  have notPending : request.taskId ∉ process.run.pendingTasks :=
    fun member => fresh (sound.pendingKnown _ member)
  have oldParents : ∀ taskId ∈ taskIds process.run,
      parentsOf (process.run.addTask request now) taskId =
        parentsOf process.run taskId := by
    intro taskId member
    rw [parents, if_neg]
    rintro rfl
    exact fresh member
  obtain ⟨completed, _, ready | waiting⟩ := addTask_cases process.run request now
  · obtain ⟨done, submitted, pending⟩ := ready
    have here : request.taskId ∈
        (process.run.addTask request now).submittedTasks := by
      rw [submitted]
      exact List.mem_insert_self
    rw [if_pos here]
    constructor
    case one =>
      intro taskId member
      rw [taskIds_addTask, List.mem_append, List.mem_singleton] at member
      dsimp only
      rw [submitted, pending, List.mem_insert_iff]
      rcases member with old | rfl
      · have differs : taskId ≠ request.taskId := fun same => fresh (same ▸ old)
        simpa [differs] using sound.progress.one taskId old
      · simp [Xor, notPending]
    case once =>
      refine List.nodup_append.mpr ⟨sound.progress.once, by simp, ?_⟩
      rintro taskId member other isNew rfl
      rw [List.mem_singleton.mp isNew] at member
      exact unsubmitted ((sound.progress.told _).mp member)
    case told =>
      intro taskId
      dsimp only
      rw [submitted, List.mem_insert_iff, List.mem_append, List.mem_singleton,
        sound.progress.told, or_comm]
    case late =>
      intro taskId member parent isParent
      dsimp only at isParent ⊢
      rw [completed]
      rcases List.mem_append.mp member with old | isNew
      · have known := sound.submittedKnown taskId ((sound.progress.told taskId).mp old)
        rw [oldParents taskId known] at isParent
        exact sound.progress.late taskId old parent isParent
      · rw [List.mem_singleton.mp isNew, parents, if_pos rfl] at isParent
        exact done parent isParent
    case waiting =>
      intro taskId member
      dsimp only at member ⊢
      rw [pending] at member
      rw [oldParents taskId (sound.pendingKnown taskId member), completed]
      exact sound.progress.waiting taskId member
  · obtain ⟨missing, submitted, pending⟩ := waiting
    rw [if_neg (submitted ▸ unsubmitted)]
    constructor
    case one =>
      intro taskId member
      rw [taskIds_addTask, List.mem_append, List.mem_singleton] at member
      dsimp only
      rw [submitted, pending, List.mem_append, List.mem_singleton]
      rcases member with old | rfl
      · have differs : taskId ≠ request.taskId := fun same => fresh (same ▸ old)
        simpa [differs] using sound.progress.one taskId old
      · simp [Xor, unsubmitted]
    case once =>
      exact sound.progress.once
    case told =>
      intro taskId
      dsimp only
      rw [submitted]
      exact sound.progress.told taskId
    case late =>
      intro taskId member parent isParent
      dsimp only at isParent ⊢
      have known := sound.submittedKnown taskId ((sound.progress.told taskId).mp member)
      rw [oldParents taskId known] at isParent
      rw [completed]
      exact sound.progress.late taskId member parent isParent
    case waiting =>
      intro taskId member
      dsimp only at member ⊢
      rw [pending, List.mem_append, List.mem_singleton] at member
      rw [completed]
      rcases member with old | rfl
      · rw [oldParents taskId (sound.pendingKnown taskId old)]
        exact sound.progress.waiting taskId old
      · rw [parents, if_pos rfl]
        exact missing

/-- A new task is recorded under its request id. -/
theorem recorded_addTask
    (sound : Sound process)
    (appends : Appends process.run request) :
    ∀ entry ∈ named (process.run.addTask request now), ∀ requestId : PyStr,
      requestId.isEmpty = false → entry.2 = some requestId →
        (process.run.addTask request now).requestIds.lookup requestId =
          some entry.1 := by
  intro entry member requestId nonempty same
  rw [named_addTask, List.mem_append, List.mem_singleton] at member
  rw [requestIds_addTask]
  have unanswered := appends.unanswered
  rcases member with old | rfl
  · have recorded := sound.recorded entry old requestId nonempty same
    cases key : request.requestKey with
    | none =>
        exact recorded
    | some other =>
        rw [key] at unanswered
        have differs : requestId ≠ other := by
          rintro rfl
          rw [Option.bind_some, recorded] at unanswered
          cases unanswered
        rw [List.lookup_cons]
        simp only [beq_eq_false_iff_ne.mpr differs]
        exact recorded
  · have key : request.requestKey = some requestId := by
      rw [DynamicRun.AppendRequest.requestKey, show request.requestId = some requestId from same]
      simp [Option.filter, nonempty]
    rw [key, List.lookup_cons]
    simp

theorem sound_addTask
    (sound : Sound process)
    (fresh : request.taskId ∉ taskIds process.run)
    (appends : Appends process.run request) :
    Sound
      { run := process.run.addTask request now
        submissions :=
          if request.taskId ∈ (process.run.addTask request now).submittedTasks then
            process.submissions ++ [request.taskId]
          else
            process.submissions } where
  parents := parents_addTask sound fresh appends
  unknown := by
    intro taskId unknown
    dsimp only at unknown ⊢
    rw [taskIds_addTask, List.mem_append, List.mem_singleton, not_or] at unknown
    rw [parentsOf_addTask, if_neg unknown.2]
    exact sound.unknown taskId unknown.1
  progress := progress_addTask sound fresh
  pendingKnown := by
    intro taskId member
    dsimp only at member ⊢
    rw [taskIds_addTask, List.mem_append, List.mem_singleton]
    obtain ⟨_, _, ⟨_, _, pending⟩ | ⟨_, _, pending⟩⟩ :=
      addTask_cases process.run request now
    · rw [pending] at member
      exact Or.inl (sound.pendingKnown taskId member)
    · rw [pending, List.mem_append, List.mem_singleton] at member
      exact member.imp_left (sound.pendingKnown taskId)
  submittedKnown := by
    intro taskId member
    dsimp only at member ⊢
    rw [taskIds_addTask, List.mem_append, List.mem_singleton]
    obtain ⟨_, _, ⟨_, submitted, _⟩ | ⟨_, submitted, _⟩⟩ :=
      addTask_cases process.run request now
    · rw [submitted, List.mem_insert_iff] at member
      exact member.symm.imp_left (sound.submittedKnown taskId)
    · rw [submitted] at member
      exact Or.inl (sound.submittedKnown taskId member)
  pendingOnce := by
    dsimp only
    obtain ⟨_, _, ⟨_, _, pending⟩ | ⟨_, _, pending⟩⟩ :=
      addTask_cases process.run request now
    · rw [pending]
      exact sound.pendingOnce
    · rw [pending]
      refine List.nodup_append.mpr ⟨sound.pendingOnce, by simp, ?_⟩
      rintro taskId member other isNew rfl
      rw [List.mem_singleton.mp isNew] at member
      exact fresh (sound.pendingKnown _ member)
  bounded := by
    have room := appends.room
    have length : (process.run.addTask request now).tasks.length =
        process.run.tasks.length + 1 := by
      rw [← length_named, named_addTask, List.length_append, length_named]
      rfl
    dsimp only
    rw [(addTask_cases process.run request now).2.1, length]
    omega
  recorded := recorded_addTask sound appends

end Append

/-! ## Runs of a run -/

/-- While the run is active, its process is sound. -/
def SoundWhileActive (process : Process) : Prop :=
  process.run.isTerminal = false → Sound process

/-- An append that adds nothing leaves the run and its submissions. -/
theorem append_of_same
    (render : Time → PyStr)
    {process : Process}
    {call : AppendCall}
    {now : Time}
    (same : (process.run.appendTask render call.request now).state = process.run)
    (old :
      ∀ taskId,
        (process.run.appendTask render call.request now).result ≠ .ok (taskId, false)) :
    append render process call now = process := by
  unfold append
  dsimp only
  rw [same]
  cases result : (process.run.appendTask render call.request now).result with
  | error raised =>
      rfl
  | ok returned =>
      obtain ⟨taskId, existing⟩ := returned
      cases existing with
      | true => rfl
      | false => exact absurd result (old taskId)

/-- The process with the task of a request, which is submitted where it is ready. -/
def added
    (process : Process)
    (request : DynamicRun.AppendRequest)
    (now : Time) :
    Process where
  run := process.run.addTask request now
  submissions :=
    if request.taskId ∈ (process.run.addTask request now).submittedTasks then
      process.submissions ++ [request.taskId]
    else
      process.submissions

theorem append_of_added
    (render : Time → PyStr)
    {process : Process}
    {call : AppendCall}
    {now : Time}
    (appended :
      process.run.appendTask render call.request now =
        ⟨process.run.addTask call.request now, .ok (call.request.taskId, false)⟩) :
    append render process call now = added process call.request now := by
  unfold append
  dsimp only
  rw [appended]
  rfl

theorem sound_append
    (render : Time → PyStr)
    {process : Process}
    (sound : Sound process)
    (call : AppendCall)
    (now : Time)
    (fresh : call.taskId ∉ taskIds process.run)
    (active : (append render process call now).run.isTerminal = false) :
    Sound (append render process call now) := by
  rcases appendTask_active render call.request now active with
    ⟨same, old⟩ | ⟨appends, appended⟩
  · rw [append_of_same render same old]
    exact sound
  · rw [append_of_added render appended]
    exact sound_addTask sound (call.request_taskId ▸ fresh) appends

/-- A run that is active after a step was active before it. -/
theorem active_before
    (render : Time → PyStr)
    {process next : Process}
    {action : Action}
    (stepped : step? render process action = some next)
    (active : next.run.isTerminal = false) :
    process.run.isTerminal = false := by
  by_contra terminal
  have terminal : process.run.isTerminal = true := by
    simpa using terminal
  have same : next.run = process.run := by
    cases action with
    | append call now =>
        simp only [step?] at stepped
        split at stepped
        · cases stepped
        · cases stepped
          simp only [append, DynamicRun.appendTask,
            DynamicRun.checkCanMutate_of_terminal render now terminal]
    | start taskId now =>
        cases stepped
        exact if_pos terminal
    | retry taskId error faultTolerance now =>
        cases stepped
        exact if_pos terminal
    | finish taskId faultTolerance now =>
        simp only [step?] at stepped
        split at stepped
        · cases stepped
          simp only [finish, DynamicRun.markFinished, terminal, if_true]
        · cases stepped
  rw [same, terminal] at active
  cases active

theorem sound_step
    (render : Time → PyStr)
    {process next : Process}
    {action : Action}
    (sound : SoundWhileActive process)
    (stepped : step? render process action = some next) :
    SoundWhileActive next := by
  intro active
  have before := active_before render stepped active
  have sound := sound before
  cases action with
  | append call now =>
      simp only [step?] at stepped
      split at stepped
      · cases stepped
      · next fresh =>
        cases stepped
        exact sound_append render sound call now fresh active
  | start taskId now =>
      cases stepped
      exact sound.of_same (same_markStarted process.run taskId now)
  | retry taskId error faultTolerance now =>
      cases stepped
      exact sound.of_same
        (same_markRetrying process.run taskId error faultTolerance now)
  | finish taskId faultTolerance now =>
      simp only [step?] at stepped
      split at stepped
      · cases stepped
        exact sound_finish sound taskId faultTolerance now before
      · cases stepped

theorem created_sound
    (runId : PyStr)
    (maxTasks : Int)
    (timeoutSeconds : Option Time)
    (fileContext : PyVal)
    (now : Time) :
    Sound (created runId maxTasks timeoutSeconds fileContext now) where
  parents := ⟨List.nodup_nil, by simp [created, DynamicRun.new, taskIds]⟩
  unknown := fun _ _ => rfl
  progress := by
    constructor <;> simp [created, DynamicRun.new, taskIds]
  pendingKnown := by simp [created, DynamicRun.new]
  submittedKnown := by simp [created, DynamicRun.new]
  pendingOnce := List.nodup_nil
  bounded := by simp [created, DynamicRun.new]
  recorded := by simp [created, DynamicRun.new, named]

/-- A parent stands before its child in the order of the appends. -/
theorem Parents.acyclic
    {run : DynamicRun}
    (parents : Parents run)
    (unknown : ∀ taskId, taskId ∉ taskIds run → parentsOf run taskId = []) :
    Digraph.Acyclic fun parent child => parent ∈ parentsOf run child := by
  refine Digraph.acyclic_of_sorted parents.distinct parents.earlier fun isParent => ?_
  refine ⟨?_, isParent⟩
  by_contra absent
  rw [unknown _ absent] at isParent
  cases isParent

theorem Sound.requests
    (render : Time → PyStr)
    {process : Process}
    (sound : Sound process)
    (active : process.run.isTerminal = false) :
    Requests render process.run where
  one := by
    intro first firstMember second secondMember requestId nonempty here there
    have firstRecorded := sound.recorded _
      (List.mem_map_of_mem firstMember) requestId nonempty here
    have secondRecorded := sound.recorded _
      (List.mem_map_of_mem secondMember) requestId nonempty there
    rw [firstRecorded] at secondRecorded
    exact Option.some.inj secondRecorded
  answered := by
    intro entry member request keyed same now waiting
    obtain ⟨requestId, key⟩ := Option.isSome_iff_exists.mp keyed
    obtain ⟨given, nonempty⟩ := Option.filter_eq_some_iff.mp key
    have recorded := sound.recorded _ (List.mem_map_of_mem member) requestId
      (by simpa using nonempty) (same ▸ given)
    have checked := DynamicRun.checkCanMutate_of_live render waiting active
    simp only [DynamicRun.appendTask, checked, key, Option.bind_some, recorded]

theorem Sound.appendLaw
    (render : Time → PyStr)
    {process : Process}
    (sound : Sound process)
    (active : process.run.isTerminal = false) :
    AppendLaw render process where
  parents := sound.parents
  acyclic := sound.parents.acyclic sound.unknown
  progress := sound.progress
  bounded := sound.bounded
  requests := sound.requests render active

/--
In every state of a run in which it is active, each task is pending or submitted,
it was submitted once and after its parents, which are earlier tasks, none is left
pending whose parents have completed, and a request id that is not empty stands
for one task.
-/
theorem appendLaw_of_active
    (render : Time → PyStr)
    (runId : PyStr)
    (maxTasks : Int)
    (timeoutSeconds : Option Time)
    (fileContext : PyVal)
    (now : Time)
    (actions : List Action) :
    EveryState (step? render)
      (fun process =>
        process.run.isTerminal = false → AppendLaw render process)
      (created runId maxTasks timeoutSeconds fileContext now) actions := by
  intro leading rest reached _ executed active
  have initially : SoundWhileActive
      (created runId maxTasks timeoutSeconds fileContext now) :=
    fun _ => created_sound runId maxTasks timeoutSeconds fileContext now
  have sound : SoundWhileActive reached :=
    run?_invariant (fun _ _ _ sound stepped => sound_step render sound stepped)
      initially executed
  exact (sound active).appendLaw render active

/-- Two appends with the empty request id. -/
def emptyRequests : List Action :=
  [.append ⟨"first", "task", some "", [], [], [], none⟩ 0,
    .append ⟨"second", "task", some "", [], [], ["first"], none⟩ 0]

/--
The empty request id stands for no task, so that two appends with it are two
tasks; and a run has more tasks than a negative `max_tasks` allows.
-/
theorem empty_request_appended_twice :
    (¬ ∀ (render : Time → PyStr) (maxTasks : Int) (actions : List Action),
      EveryState (step? render)
        (fun process => ∀ first ∈ process.run.tasks, ∀ second ∈ process.run.tasks,
          first.2.requestId.isSome → first.2.requestId = second.2.requestId →
            first.1 = second.1)
        (created "run" maxTasks none .null 0) actions) ∧
      ¬ ∀ (render : Time → PyStr) (maxTasks : Int) (actions : List Action),
        EveryState (step? render)
          (fun process => (process.run.tasks.length : Int) ≤ process.run.maxTasks)
          (created "run" maxTasks none .null 0) actions := by
  constructor
  · intro claim
    have twice : (run? (step? fun _ => "") (created "run" 100 none .null 0)
        emptyRequests).any (fun process =>
          process.run.tasks.any fun first => process.run.tasks.any fun second =>
            first.2.requestId.isSome && first.2.requestId = second.2.requestId &&
              first.1 ≠ second.1) = true := by
      decide
    obtain ⟨process, reached, tasks⟩ := (Option.any_eq_true _ _).mp twice
    simp only [List.any_eq_true, Bool.and_eq_true, decide_eq_true_eq] at tasks
    obtain ⟨first, firstMember, second, secondMember, ⟨named, same⟩, differ⟩ := tasks
    have one := claim (fun _ => "") 100 emptyRequests emptyRequests [] process
      (List.append_nil _).symm reached
    exact differ (one first firstMember second secondMember named same)
  · intro claim
    have bounded := claim (fun _ => "") (-1) [] [] [] _ rfl rfl
    simp [created, DynamicRun.new] at bounded

end Maze.Core.DynamicReadiness
