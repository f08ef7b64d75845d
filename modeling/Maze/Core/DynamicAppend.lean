import Maze.Core.DynamicDispatch
import Maze.Core.DynamicReadiness
import Maze.Core.DynamicReplay

namespace Maze.Core.DynamicAppend

open Maze.Python
open Maze.Library.Fallible
open Maze.Library.Transition
open AttemptGate (MessageType acceptTaskAttemptEvent)
open DynamicMonitor
open DynamicReadiness (named parentsOf Appends Same)
open SchedulerMessage (finishIdentity)

/-!
# Appends that are repeated with their request id

`append_dynamic_task` puts the task into the run, with its request id, before it
persists the event and sends the task. A call with a request id that the run knows
returns the task and does nothing else. So what a call has left undone when it
raised stays undone, unless a finish of the last parent sends the task.
-/

/-! ## The call -/

/-- `_submit_dynamic_task`; `sending` is how the send to the scheduler ends. -/
def submitDynamicTask
    (primitives : Primitives)
    (environment : Environment)
    (sending : Except PyErr Unit)
    (taskId : TaskId) :
    MonitorCall Unit :=
  fun process =>
    match submitTask primitives environment taskId process with
    | .error raised after => .error raised after
    | .ok _ after =>
        match sending with
        | .ok () => .ok () after
        | .error raised => .error raised process

/-- `append_dynamic_task`, from `append_task` on. -/
def appendDynamicTask
    (render : Time → PyStr)
    (primitives : Primitives)
    (handling : DynamicHandling)
    (sending : Except PyErr Unit)
    (request : DynamicRun.AppendRequest)
    (payload : WorkflowTask)
    (data : PyDict) :
    MonitorCall Unit := do
  let process ← get
  let appended := process.run.appendTask render request handling.now
  changeRun fun _ => appended.state
  match appended.result with
  | .error raised => throw raised
  | .ok (_, true) => pure ()
  | .ok (taskId, false) => do
      modify fun process =>
        { process with payloads := (taskId, payload) :: process.payloads }
      recordEvent "append_task" data
      let process ← get
      if taskId ∈ process.run.submittedTasks then
        submitDynamicTask primitives handling.environment sending taskId
      else
        pure ()

/-- What happens to a dynamic run in Core. -/
inductive Action where
  | append
      (request : DynamicRun.AppendRequest)
      (payload : WorkflowTask)
      (data : PyDict)
      (handling : DynamicHandling)
      (sending : Except PyErr Unit)
  | receive (message : SchedulerMessage) (handling : DynamicHandling)
  | retry (handling : DynamicHandling)
  | call (call : ApiCall) (handling : DynamicHandling)

/--
One step. The id of an appended task is new, and its event names it; the other
steps are those of the monitor and of the other calls.
-/
def step?
    (render : Time → PyStr)
    (primitives : Primitives)
    (process : DynamicProcess) :
    Action → Option DynamicProcess
  | .append request payload data handling sending =>
      if request.taskId ∈ process.run.tasks.map Prod.fst ∨
          data.get "task_id" ≠ .str request.taskId then
        none
      else
        some (leaving handling
          (appendDynamicTask render primitives handling sending request payload data)
          process)
  | .receive message handling =>
      DynamicMonitor.step? render primitives process (.receive message handling)
  | .retry handling =>
      DynamicMonitor.step? render primitives process (.retry handling)
  | .call call handling =>
      DynamicMonitor.step? render primitives process (.call call handling)

/-! ## What is claimed -/

/-- The request id stands for a task. -/
def Keyed (requestId : Option PyStr) : Prop :=
  ∃ key : PyStr, key.isEmpty = false ∧ requestId = some key

/-- The canonical log holds the event of the append of a task. -/
def Logged (process : DynamicProcess) (taskId : TaskId) : Prop :=
  ∃ event ∈ process.files.canonical,
    event.eventType = "append_task" ∧ event.data.get "task_id" = .str taskId

/-- Every task with a request id is persisted, and sent once its parents are done. -/
structure RetrySafe (process : DynamicProcess) : Prop where
  once : process.sentTasks.Nodup
  logged :
    ∀ entry ∈ named process.run, Keyed entry.2 → Logged process entry.1
  sent :
    process.run.isTerminal = false → process.retrying = none →
      ∀ entry ∈ named process.run, Keyed entry.2 →
        (∀ parent ∈ parentsOf process.run entry.1,
          parent ∈ process.run.completedTasks) →
          entry.1 ∈ process.sentTasks

/-- The append that the request asks for is complete, so that a replay returns it. -/
structure Complete
    (render : Time → PyStr)
    (process : DynamicProcess)
    (request : DynamicRun.AppendRequest) : Prop where
  done :
    ∃ taskId, (taskId, request.requestId) ∈ named process.run ∧
      Logged process taskId ∧
      (process.run.isTerminal = false → process.retrying = none →
        taskId ∈ process.run.submittedTasks → taskId ∈ process.sentTasks)
  answered :
    process.run.isTerminal = false →
      ∀ now, process.run.deadlinePassed now = false →
        ∃ taskId,
          process.run.appendTask render request now = ⟨process.run, .ok (taskId, true)⟩

/-- After an append with a request id the run is as before, or the append complete. -/
def AppendSafe
    (render : Time → PyStr)
    (primitives : Primitives)
    (process : DynamicProcess) :
    Action → Prop
  | .append request payload data handling sending =>
      Keyed request.requestId →
        ∀ after,
          step? render primitives process
              (.append request payload data handling sending) = some after →
            after.run = process.run ∨ Complete render after request
  | _ => True

/-! ## The condition -/

/-- The event that an append records goes into the canonical log. -/
structure Persists (process : DynamicProcess) (handling : DynamicHandling) : Prop where
  numbered :
    ∀ event ∈ process.files.canonical, event.seq ≤ process.run.eventSeq
  canonical : (nextMoment { process with moments := handling.moments }).faults.canonical ≠
    .before

/-- The writes of an append go through, and so does the send of the task. -/
structure Sends
    (primitives : Primitives)
    (process : DynamicProcess)
    (handling : DynamicHandling)
    (sending : Except PyErr Unit)
    (payload : WorkflowTask) : Prop where
  canonical :
    (nextMoment { process with moments := handling.moments }).faults.canonical = .none
  mirrored :
    DynamicRunStore.hasWorkspace process.run.snapshot = true →
      (nextMoment { process with moments := handling.moments }).faults.mirror = .none ∧
        ∀ event ∈ process.files.mirror, event.seq ≤ process.run.eventSeq
  saved : (nextMoment { process with moments := handling.moments }).faults.save = .none
  prepared :
    ∃ prepared, TaskPreparation.prepareTaskResources primitives handling.environment
      payload = .ok prepared
  sent : sending = .ok ()

/-- The continuations have sent every task that they made ready. -/
def AllSent (process : DynamicProcess) : Prop :=
  ∀ other continuation, process.continuations.lookup other = some continuation →
    ∀ ready ∈ continuation.ready, ready.dispatched = true

/-- The handling of a finish raises nothing but `OSError` while it sends tasks. -/
def ComesThrough
    (primitives : Primitives)
    (process : DynamicProcess)
    (message : SchedulerMessage)
    (handling : DynamicHandling) : Prop :=
  ∀ data, message = .attempt .finishTask data → ∀ raised after,
    handleAttempt primitives handling .finishTask data
        { process with moments := handling.moments } = .error raised after →
      raised = .osError ∨ AllSent after

/--
An append with a request id that adds a task comes before the deadline of the run,
its event is persisted, and a task without missing parents is sent. A finish is
handled until it has sent what it made ready.
-/
def Whole
    (primitives : Primitives)
    (process : DynamicProcess) :
    Action → Prop
  | .append request payload _ handling sending =>
      Keyed request.requestId →
        process.run.deadlinePassed handling.now = false ∧
          (process.run.isTerminal = false → Appends process.run request →
            request.buildError = none →
              Persists process handling ∧
                ((∀ parent ∈ request.parents, parent ∈ process.run.completedTasks) →
                  Sends primitives process handling sending payload))
  | .receive message handling => ComesThrough primitives process message handling
  | .retry handling =>
      ∀ message, process.retrying = some message →
        ComesThrough primitives process message handling
  | .call _ _ => True

/-! ## What a call leaves alone -/

/-- Something has been recorded, and all else is as it was. -/
structure Frame (before after : DynamicProcess) : Prop where
  runId : after.run.runId = before.run.runId
  same : Same before.run after.run
  status : after.run.status = before.run.status
  continuations : after.continuations = before.continuations
  sentTasks : after.sentTasks = before.sentTasks
  gate : after.gate = before.gate
  retrying : after.retrying = before.retrying
  canonical : before.files.canonical <+: after.files.canonical

theorem Frame.refl (process : DynamicProcess) : Frame process process :=
  ⟨rfl, ⟨rfl, rfl, rfl, rfl, rfl, rfl, rfl⟩, rfl, rfl, rfl, rfl, rfl, List.prefix_rfl⟩

theorem same_trans
    {first second third : DynamicRun}
    (early : Same first second)
    (late : Same second third) :
    Same first third where
  named := late.named.trans early.named
  taskParents := late.taskParents.trans early.taskParents
  pendingTasks := late.pendingTasks.trans early.pendingTasks
  submittedTasks := late.submittedTasks.trans early.submittedTasks
  completedTasks := late.completedTasks.trans early.completedTasks
  requestIds := late.requestIds.trans early.requestIds
  maxTasks := late.maxTasks.trans early.maxTasks

theorem Frame.trans
    {first second third : DynamicProcess}
    (early : Frame first second)
    (late : Frame second third) :
    Frame first third where
  runId := late.runId.trans early.runId
  same := same_trans early.same late.same
  status := late.status.trans early.status
  continuations := late.continuations.trans early.continuations
  sentTasks := late.sentTasks.trans early.sentTasks
  gate := late.gate.trans early.gate
  retrying := late.retrying.trans early.retrying
  canonical := early.canonical.trans late.canonical

theorem Frame.isTerminal
    {before after : DynamicProcess}
    (frame : Frame before after) :
    after.run.isTerminal = before.run.isTerminal := by
  rw [DynamicRun.isTerminal, DynamicRun.isTerminal, frame.status]

theorem Frame.carries
    {before after : DynamicProcess}
    (frame : Frame before after) :
    Carries before.run after.run where
  runId := frame.runId
  taskIds := frame.same.taskIds
  parents := frame.same.taskParents
  completed := frame.same.completedTasks
  pending := frame.same.pendingTasks ▸ List.Subset.refl _
  submitted := frame.same.submittedTasks ▸ List.Subset.refl _

/-- The canonical log only grows. -/
theorem canonical_extends
    (files : DynamicFiles)
    (writes : List DiskWrite) :
    files.canonical <+: (DynamicRunStore.writeAll files writes).canonical := by
  induction writes generalizing files with
  | nil =>
      exact List.prefix_rfl
  | cons write rest inductionHypothesis =>
      have later := inductionHypothesis (DynamicRunStore.write files write)
      refine List.IsPrefix.trans ?_ later
      cases write with
      | canonical event => exact List.prefix_append _ _
      | mirror event => exact List.prefix_rfl
      | snapshot snapshot => exact List.prefix_rfl

section Framing

variable {start : DynamicProcess}

theorem writing_frame
    (perform : DynamicProcess → Moment → Performed) :
    Ensures (Frame start) (writing perform) (fun _ => Frame start)
      (fun _ => Frame start) := by
  intro process frame
  have kept : ∀ writes moments,
      Frame start { process with
        files := DynamicRunStore.writeAll process.files writes, moments := moments } :=
    fun writes moments => frame.trans
      { Frame.refl process with canonical := canonical_extends process.files writes }
  unfold writing
  dsimp only
  cases (perform process (nextMoment process)).result with
  | ok =>
      exact kept _ _
  | error raised =>
      exact kept _ _

theorem persistRun_frame :
    Ensures (Frame start) persistRun (fun _ => Frame start) (fun _ => Frame start) :=
  writing_frame _

theorem appendEvent_frame
    (eventType : PyStr)
    (data : PyDict) :
    Ensures (Frame start) (appendEvent eventType data) (fun _ => Frame start)
      (fun _ => Frame start) := by
  intro process frame
  exact frame.trans ⟨rfl, ⟨rfl, rfl, rfl, rfl, rfl, rfl, rfl⟩, rfl, rfl, rfl, rfl, rfl,
    List.prefix_rfl⟩

theorem recordEvent_frame
    (eventType : PyStr)
    (data : PyDict) :
    Ensures (Frame start) (recordEvent eventType data) (fun _ => Frame start)
      (fun _ => Frame start) :=
  ensures_bind (appendEvent_frame eventType data) fun _ => writing_frame _

theorem emitStored_frame (event : RunEvent) :
    Ensures (Frame start) (emitStored event) (fun _ => Frame start)
      (fun _ => Frame start) := by
  refine ensures_get fun process frame => ?_
  have here : ∀ current, current = process → Frame start current :=
    fun current same => same ▸ frame
  split
  · split
    · exact (writing_frame _).weaken here (fun _ _ after => after)
        fun _ _ after => after
    · exact ensures_throw here
  · exact (recordEvent_frame _ _).weaken here (fun _ _ after => after)
      fun _ _ after => after

end Framing

/-- What a call that only records ensures of any process. -/
theorem Ensures.of_frame
    {α : Type}
    {call : MonitorCall α}
    {holds : DynamicProcess → Prop}
    (ensures :
      ∀ start, Ensures (Frame start) call (fun _ => Frame start)
        (fun _ => Frame start))
    (kept : ∀ start after, holds start → Frame start after → holds after) :
    Ensures holds call (fun _ => holds) (fun _ => holds) := by
  intro process here
  exact ((ensures process).weaken (fun _ same => same)
    (fun _ after frame => kept process after here frame)
    (fun _ after frame => kept process after here frame))
    process (Frame.refl process)

/-! ## The invariant -/

/-- A task is sent, or the continuation that made it ready has yet to send it. -/
def Handed (process : DynamicProcess) (taskId : TaskId) : Prop :=
  taskId ∈ process.sentTasks ∨
    ∃ other continuation,
      process.continuations.lookup other = some continuation ∧
        ∃ ready ∈ continuation.ready,
          ready.taskId = taskId ∧ ready.dispatched = false

/-- What holds of a run at every time. -/
structure Base (process : DynamicProcess) : Prop where
  orderly : Orderly process
  logged :
    ∀ entry ∈ named process.run, Keyed entry.2 → Logged process entry.1
  sound :
    process.run.isTerminal = false →
      ∃ submissions, DynamicReadiness.Sound ⟨process.run, submissions⟩
  handed :
    process.run.isTerminal = false →
      ∀ entry ∈ named process.run, Keyed entry.2 →
        entry.1 ∈ process.run.submittedTasks → Handed process entry.1
  settled :
    ∀ other continuation, process.continuations.lookup other = some continuation →
      continuation.completed = true →
        ∀ ready ∈ continuation.ready, ready.dispatched = true

variable
  {process : DynamicProcess}
  {taskId : TaskId}
  {data : PyDict}
  {start : DynamicProcess}
  {messageType : MessageType}

theorem Logged.grown
    {before after : DynamicProcess}
    (logged : Logged before taskId)
    (grown : before.files.canonical <+: after.files.canonical) :
    Logged after taskId := by
  obtain ⟨event, member, same⟩ := logged
  exact ⟨event, grown.subset member, same⟩

theorem Base.framed
    {before after : DynamicProcess}
    (base : Base before)
    (frame : Frame before after) :
    Base after where
  orderly := base.orderly.carry frame.carries frame.continuations frame.sentTasks
  logged := by
    rw [frame.same.named]
    exact fun entry member keyed =>
      (base.logged entry member keyed).grown frame.canonical
  sound := by
    rw [frame.isTerminal]
    intro active
    obtain ⟨submissions, sound⟩ := base.sound active
    exact ⟨submissions, sound.of_same frame.same⟩
  handed := by
    rw [frame.isTerminal, frame.same.named, frame.same.submittedTasks]
    unfold Handed
    rw [frame.continuations, frame.sentTasks]
    exact base.handed
  settled := by
    rw [frame.continuations]
    exact base.settled

/-! ## One continuation at work -/

/--
The continuation of a finish is being followed: its ready tasks are sent, but for
some that are left, and nothing else is left to be sent. The gate refuses the
message that it came from, and the continuation knows the message.
-/
structure Working
    (data : PyDict)
    (taskId : TaskId)
    (rest : List TaskId)
    (process : DynamicProcess) : Prop where
  base : Base process
  others :
    process.run.isTerminal = false →
      ∀ other, other ≠ taskId → ∀ continuation,
        process.continuations.lookup other = some continuation →
          ∀ ready ∈ continuation.ready, ready.dispatched = true
  refused : acceptTaskAttemptEvent .finishTask data process.gate = .ok none
  here :
    ∃ continuation, process.continuations.lookup taskId = some continuation ∧
      (PyVal.dict continuation.attemptIdentity).pyEq (.dict (finishIdentity data)) =
        true ∧
      ∀ ready ∈ continuation.ready, ready.taskId ∈ rest ∨ ready.dispatched = true

section Working

variable
  {data : PyDict} {taskId readyTaskId : TaskId} {rest : List TaskId}
  {process after : DynamicProcess}

theorem Working.framed
    (before after : DynamicProcess)
    (working : Working data taskId rest before)
    (frame : Frame before after) :
    Working data taskId rest after where
  base := working.base.framed frame
  others := by
    rw [frame.isTerminal, frame.continuations]
    exact working.others
  refused := by
    rw [frame.gate]
    exact working.refused
  here := by
    rw [frame.continuations]
    exact working.here

/-- A continuation that is followed may have more left than is noted. -/
theorem Working.mono
    {more : List TaskId}
    (working : Working data taskId rest process)
    (subset : rest ⊆ more) :
    Working data taskId more process where
  base := working.base
  others := working.others
  refused := working.refused
  here := by
    obtain ⟨continuation, found, identity, ready⟩ := working.here
    exact ⟨continuation, found, identity, fun task member =>
      (ready task member).imp_left fun left => subset left⟩

/-- What a note changes in a continuation beside its marks. -/
structure Notes
    (change : DynamicContinuation → DynamicContinuation)
    (marks : ReadyTask → ReadyTask) : Prop extends OnlyTells change marks where
  identity :
    ∀ continuation, (change continuation).attemptIdentity =
      continuation.attemptIdentity

/-- A note about what has been told keeps what is known of the run. -/
theorem Base.noted
    {change : DynamicContinuation → DynamicContinuation}
    {marks : ReadyTask → ReadyTask}
    (base : Base process)
    (tells : OnlyTells change marks)
    (completed :
      ∀ continuation, process.continuations.lookup taskId = some continuation →
        (change continuation).completed = true →
          ∀ ready ∈ continuation.ready, ready.dispatched = true) :
    Base
      { process with
        continuations := updateContinuation taskId change process.continuations } where
  orderly := base.orderly.told tells
  logged := base.logged
  sound := base.sound
  handed := by
    intro active entry member keyed submitted
    rcases base.handed active entry member keyed submitted with sent |
      ⟨other, continuation, found, ready, inside, named, undispatched⟩
    · exact Or.inl sent
    · refine Or.inr ⟨other, ?_⟩
      dsimp only
      rw [lookup_updateContinuation, found]
      by_cases same : other = taskId
      · rw [if_pos same]
        refine ⟨_, rfl, marks ready, ?_, ?_, ?_⟩
        · rw [tells.ready]
          exact List.mem_map_of_mem inside
        · rw [tells.named]
          exact named
        · rw [tells.dispatched]
          exact undispatched
      · rw [if_neg same]
        exact ⟨continuation, rfl, ready, inside, named, undispatched⟩
  settled := by
    intro other continuation found isCompleted ready member
    dsimp only at found
    rw [lookup_updateContinuation] at found
    split at found
    · next same =>
      obtain ⟨old, was, rfl⟩ := Option.map_eq_some_iff.mp found
      rw [tells.ready] at member
      obtain ⟨task, inside, rfl⟩ := List.mem_map.mp member
      rw [tells.dispatched]
      exact completed old (same ▸ was) isCompleted task inside
    · exact base.settled other continuation found isCompleted ready member

theorem Working.noted
    {change : DynamicContinuation → DynamicContinuation}
    {marks : ReadyTask → ReadyTask}
    (working : Working data taskId rest process)
    (notes : Notes change marks)
    (completed :
      ∀ continuation, process.continuations.lookup taskId = some continuation →
        (change continuation).completed = true →
          ∀ ready ∈ continuation.ready, ready.dispatched = true) :
    Working data taskId rest
      { process with
        continuations := updateContinuation taskId change process.continuations } where
  base := working.base.noted notes.toOnlyTells completed
  others := by
    intro active other differs continuation found
    dsimp only at found
    rw [lookup_updateContinuation, if_neg differs] at found
    exact working.others active other differs continuation found
  refused := working.refused
  here := by
    obtain ⟨continuation, found, identity, ready⟩ := working.here
    dsimp only
    rw [lookup_updateContinuation, if_pos rfl, found]
    refine ⟨_, rfl, ?_, ?_⟩
    · rw [notes.identity]
      exact identity
    · intro task member
      rw [notes.ready] at member
      obtain ⟨was, inside, rfl⟩ := List.mem_map.mp member
      rw [notes.named, notes.dispatched]
      exact ready was inside

/-- A ready task that is sent and noted is no longer left. -/
theorem Working.dispatched
    (working : Working data taskId (readyTaskId :: rest) process)
    (holds : Holds taskId readyTaskId false process) :
    Working data taskId rest
      { process with
        continuations :=
          updateContinuation taskId
            (changeReady readyTaskId fun ready => { ready with dispatched := true })
            process.continuations
        sentTasks := process.sentTasks ++ [readyTaskId] } := by
  let marks (ready : ReadyTask) : ReadyTask :=
    if ready.taskId = readyTaskId then { ready with dispatched := true } else ready
  have marked : ∀ ready : ReadyTask, (marks ready).taskId = ready.taskId ∧
      (ready.dispatched = true → (marks ready).dispatched = true) ∧
      (ready.taskId ≠ readyTaskId → (marks ready).dispatched = ready.dispatched) := by
    intro ready
    unfold marks
    split
    · next same => exact ⟨rfl, fun _ => rfl, fun differs => absurd same differs⟩
    · exact ⟨rfl, id, fun _ => rfl⟩
  have change : ∀ continuation : DynamicContinuation,
      (changeReady readyTaskId (fun ready => { ready with dispatched := true })
        continuation).ready = continuation.ready.map marks := fun _ => rfl
  obtain ⟨base, others, refused, continuation, found, identity, ready⟩ := working
  constructor
  case base =>
    constructor
    case orderly =>
      exact base.orderly.dispatched holds
    case logged =>
      exact base.logged
    case sound =>
      exact base.sound
    case handed =>
      intro active entry member keyed submitted
      rcases base.handed active entry member keyed submitted with sent |
        ⟨other, waiting, isWaiting, task, inside, named, undispatched⟩
      · exact Or.inl (List.mem_append_left _ sent)
      · by_cases same : entry.1 = readyTaskId
        · refine Or.inl (List.mem_append_right _ ?_)
          exact List.mem_singleton.mpr same
        · refine Or.inr ⟨other, ?_⟩
          dsimp only
          rw [lookup_updateContinuation, isWaiting]
          by_cases this : other = taskId
          · rw [if_pos this]
            refine ⟨_, rfl, marks task, ?_, ?_, ?_⟩
            · rw [change]
              exact List.mem_map_of_mem inside
            · rw [(marked task).1]
              exact named
            · rw [(marked task).2.2 (named ▸ same)]
              exact undispatched
          · rw [if_neg this]
            exact ⟨waiting, rfl, task, inside, named, undispatched⟩
    case settled =>
      intro other noted isNoted isCompleted task member
      dsimp only at isNoted
      rw [lookup_updateContinuation] at isNoted
      split at isNoted
      · obtain ⟨old, was, rfl⟩ := Option.map_eq_some_iff.mp isNoted
        rw [change] at member
        obtain ⟨before, inside, rfl⟩ := List.mem_map.mp member
        exact (marked before).2.1 (base.settled other old was isCompleted before inside)
      · exact base.settled other noted isNoted isCompleted task member
  case others =>
    intro active other differs noted isNoted
    dsimp only at isNoted
    rw [lookup_updateContinuation, if_neg differs] at isNoted
    exact others active other differs noted isNoted
  case refused =>
    exact refused
  case here =>
    dsimp only
    rw [lookup_updateContinuation, if_pos rfl, found]
    refine ⟨_, rfl, identity, ?_⟩
    intro task member
    rw [change] at member
    obtain ⟨was, inside, rfl⟩ := List.mem_map.mp member
    rw [(marked was).1]
    by_cases same : was.taskId = readyTaskId
    · refine Or.inr ?_
      simp [marks, same]
    · rw [(marked was).2.2 same]
      exact (ready was inside).imp_left fun left =>
        (List.mem_cons.mp left).resolve_left same

/-- A continuation that is followed, with a ready task that it holds. -/
def WorkingHolds
    (data : PyDict)
    (taskId readyTaskId : TaskId)
    (rest : List TaskId)
    (dispatched : Bool)
    (process : DynamicProcess) : Prop :=
  Working data taskId rest process ∧ Holds taskId readyTaskId dispatched process

theorem WorkingHolds.framed
    {dispatched : Bool}
    (before after : DynamicProcess)
    (here : WorkingHolds data taskId readyTaskId rest dispatched before)
    (frame : Frame before after) :
    WorkingHolds data taskId readyTaskId rest dispatched after := by
  refine ⟨here.1.framed _ _ frame, ?_⟩
  unfold Holds
  rw [frame.continuations]
  exact here.2

theorem notes_changeReady
    {change : ReadyTask → ReadyTask}
    (named : ∀ ready, (change ready).taskId = ready.taskId)
    (dispatched : ∀ ready, (change ready).dispatched = ready.dispatched) :
    Notes (changeReady readyTaskId change)
      fun ready => if ready.taskId = readyTaskId then change ready else ready where
  toOnlyTells := onlyTells_changeReady named dispatched
  identity := fun _ => rfl

/-- A mark of what has been told of a ready task. -/
theorem note_working
    {dispatched : Bool}
    {change : ReadyTask → ReadyTask}
    {raises : PyErr → DynamicProcess → Prop}
    (named : ∀ ready, (change ready).taskId = ready.taskId)
    (kept : ∀ ready, (change ready).dispatched = ready.dispatched) :
    Ensures (WorkingHolds data taskId readyTaskId rest dispatched)
      (note taskId (changeReady readyTaskId change))
      (fun _ => WorkingHolds data taskId readyTaskId rest dispatched) raises := by
  apply ensures_modify
  rintro process ⟨working, holds⟩
  have notes : Notes (changeReady readyTaskId change) _ := notes_changeReady named kept
  exact ⟨working.noted notes fun continuation found completed =>
    working.base.settled taskId continuation found completed,
    holds.told notes.toOnlyTells⟩

theorem readyEventOf_working
    (ready : ReadyTask)
    (eventData : PyDict) :
    Ensures (WorkingHolds data taskId readyTaskId rest ready.dispatched)
      (readyEventOf taskId readyTaskId ready eventData)
      (fun _ => WorkingHolds data taskId readyTaskId rest ready.dispatched)
      (fun _ => WorkingHolds data taskId readyTaskId rest ready.dispatched) := by
  unfold readyEventOf
  cases ready.event with
  | some event =>
      exact ensures_pure fun _ here => here
  | none =>
      refine ensures_bind (Ensures.of_frame
        (fun _ => appendEvent_frame "task_ready" eventData)
        WorkingHolds.framed) fun event => ?_
      refine ensures_bind (note_working (fun _ => rfl) fun _ => rfl) fun _ => ?_
      exact ensures_pure fun _ here => here

theorem announce_working
    (ready : ReadyTask)
    (event : RunEvent) :
    Ensures (WorkingHolds data taskId readyTaskId rest ready.dispatched)
      (announce taskId readyTaskId ready event)
      (fun _ => WorkingHolds data taskId readyTaskId rest ready.dispatched)
      (fun _ => WorkingHolds data taskId readyTaskId rest ready.dispatched) := by
  unfold announce
  split
  · exact ensures_pure fun _ here => here
  · refine ensures_bind (Ensures.of_frame (fun _ => emitStored_frame event)
      WorkingHolds.framed) fun _ => ?_
    refine ensures_bind (note_working (fun _ => rfl) fun _ => rfl) fun _ => ?_
    exact Ensures.of_frame (fun _ => persistRun_frame) WorkingHolds.framed

/-- A ready task that its continuation has sent is not left. -/
theorem Working.sent
    (working : Working data taskId (readyTaskId :: rest) process)
    (holds : Holds taskId readyTaskId true process) :
    Working data taskId rest process := by
  obtain ⟨base, others, refused, continuation, found, identity, ready⟩ := working
  refine ⟨base, others, refused, continuation, found, identity, ?_⟩
  obtain ⟨same, isSame, task, inside, named, dispatched⟩ := holds
  obtain rfl := Option.some.inj (isSame.symm.trans found)
  intro other member
  rcases ready other member with left | sent
  · rcases List.mem_cons.mp left with this | later
    · have one := base.orderly.once taskId taskId same same other task found found
        member inside (this.trans named.symm)
      exact Or.inr (one.2 ▸ dispatched)
    · exact Or.inl later
  · exact Or.inr sent

theorem dispatch_working
    (primitives : Primitives)
    (environment : Environment)
    (ready : ReadyTask) :
    Ensures
      (WorkingHolds data taskId readyTaskId (readyTaskId :: rest) ready.dispatched)
      (dispatch primitives environment taskId readyTaskId ready)
      (fun _ => Working data taskId rest)
      (fun _ => Working data taskId (readyTaskId :: rest)) := by
  have fewer : ∀ current, Working data taskId rest current →
      Working data taskId (readyTaskId :: rest) current :=
    fun _ working => working.mono (List.subset_cons_self _ _)
  unfold dispatch
  cases sent : ready.dispatched with
  | true =>
      exact ensures_pure fun _ here => here.1.sent here.2
  | false =>
      refine ensures_via
        (fun _ after => ∃ process,
          WorkingHolds data taskId readyTaskId (readyTaskId :: rest) false process ∧
            after =
              { process with sentTasks := process.sentTasks ++ [readyTaskId] })
        ?_ fun _ => ?_
      · intro process here
        unfold submitTask
        cases process.payloads.lookup readyTaskId with
        | none =>
            exact here.1
        | some task =>
            dsimp only
            cases TaskPreparation.prepareTaskResources primitives environment
                task with
            | error raised =>
                exact here.1
            | ok _ =>
                exact ⟨process, here, rfl⟩
      · refine ensures_via (fun _ => Working data taskId rest) ?_ fun _ => ?_
        · apply ensures_modify
          rintro after ⟨process, ⟨working, holds⟩, rfl⟩
          exact working.dispatched holds
        · exact (Ensures.of_frame (fun _ => persistRun_frame)
            Working.framed).weaken (fun _ here => here) (fun _ _ after => after)
            fun _ current after => fewer current after

theorem readyTaskOf_working :
    Ensures (Working data taskId rest) (readyTaskOf taskId readyTaskId)
      (fun ready =>
        WorkingHolds data taskId readyTaskId rest ready.dispatched)
      (fun _ => Working data taskId rest) := by
  refine ensures_via
    (fun continuation process => Working data taskId rest process ∧
      process.continuations.lookup taskId = some continuation) ?_
    fun continuation => ?_
  · intro process working
    unfold continuationOf
    cases present : process.continuations.lookup taskId with
    | none =>
        exact working
    | some continuation =>
        exact ⟨working, present⟩
  · cases search : continuation.ready.find? fun ready =>
        ready.taskId = readyTaskId with
    | none =>
        exact ensures_throw fun _ here => here.1
    | some ready =>
        refine ensures_pure fun process here => ⟨here.1, continuation, here.2,
          ready, List.mem_of_find?_eq_some search, ?_, rfl⟩
        simpa using List.find?_some search

/-- One round of the loop over the ready tasks sends the task of the round. -/
theorem continueReadyTask_working
    (primitives : Primitives)
    (environment : Environment) :
    Ensures (Working data taskId (readyTaskId :: rest))
      (continueReadyTask primitives environment taskId readyTaskId)
      (fun _ => Working data taskId rest)
      (fun _ => Working data taskId (readyTaskId :: rest)) := by
  refine ensures_bind readyTaskOf_working fun ready => ?_
  refine ensures_get fun process holds => ?_
  have here : ∀ current, current = process →
      WorkingHolds data taskId readyTaskId (readyTaskId :: rest) ready.dispatched
        current :=
    fun current same => same ▸ holds
  have weak : ∀ (raised : PyErr) current,
      WorkingHolds data taskId readyTaskId (readyTaskId :: rest) ready.dispatched
          current →
        Working data taskId (readyTaskId :: rest) current := fun _ _ holds => holds.1
  split
  · exact ensures_throw fun current same => (here current same).1
  · refine ensures_bind ((readyEventOf_working ready _).weaken here
      (fun _ _ holds => holds) weak) fun event => ?_
    refine ensures_bind ((announce_working ready event).weaken
      (fun _ holds => holds) (fun _ _ holds => holds) weak) fun _ => ?_
    exact dispatch_working primitives environment ready

/-- A note about the continuation as a whole. -/
theorem note_continuation
    {change : DynamicContinuation → DynamicContinuation}
    (ready : ∀ continuation, (change continuation).ready = continuation.ready)
    (identity :
      ∀ continuation, (change continuation).attemptIdentity =
        continuation.attemptIdentity)
    (completed :
      rest = [] ∨ ∀ continuation,
        (change continuation).completed = continuation.completed) :
    Ensures (Working data taskId rest)
      (do
        note taskId change
        persistRun)
      (fun _ => Working data taskId rest) (fun _ => Working data taskId rest) := by
  have notes : Notes change fun ready => ready :=
    { ready := fun continuation => by rw [ready, List.map_id']
      named := fun _ => rfl
      dispatched := fun _ => rfl
      identity := identity }
  refine ensures_via (fun _ => Working data taskId rest) ?_ fun _ =>
    Ensures.of_frame (fun _ => persistRun_frame) Working.framed
  apply ensures_modify
  intro process working
  refine working.noted notes fun continuation found isCompleted => ?_
  rcases completed with rfl | same
  · obtain ⟨other, isSame, _, sent⟩ := working.here
    obtain rfl := Option.some.inj (found.symm.trans isSame)
    exact fun task member => (sent task member).resolve_left List.not_mem_nil
  · rw [same] at isCompleted
    exact working.base.settled taskId continuation found isCompleted

/-- The continuation of a finish is followed, from wherever it stands. -/
def Follows
    (data : PyDict)
    (taskId : TaskId)
    (process : DynamicProcess) : Prop :=
  ∃ rest, Working data taskId rest process

/-- A continuation that returns has sent everything. -/
theorem continueDynamicFinish_working
    (primitives : Primitives)
    (environment : Environment) :
    Ensures (Follows data taskId)
      (continueDynamicFinish primitives environment taskId)
      (fun _ => Working data taskId []) (fun _ => Follows data taskId) := by
  refine ensures_via
    (fun continuation process =>
      Working data taskId (continuation.ready.map ReadyTask.taskId) process ∧
        (continuation.completed = true → Working data taskId [] process))
    ?_ fun continuation => ?_
  · rintro process ⟨rest, working⟩
    unfold continuationOf
    cases present : process.continuations.lookup taskId with
    | none =>
        exact ⟨rest, working⟩
    | some continuation =>
        obtain ⟨other, found, identity, _⟩ := working.here
        obtain rfl := Option.some.inj (present.symm.trans found)
        refine ⟨⟨working.base, working.others, working.refused, continuation, found,
          identity, fun task member => Or.inl (List.mem_map_of_mem member)⟩, ?_⟩
        intro completed
        have sent := working.base.settled taskId continuation found completed
        exact ⟨working.base, working.others, working.refused, continuation, found,
          identity, fun task member => Or.inr (sent task member)⟩
  · split
    · next completed =>
      exact (Ensures.of_frame (fun _ => persistRun_frame) Working.framed).weaken
        (fun _ here => here.2 completed) (fun _ _ after => after)
        fun _ _ after => ⟨[], after⟩
    · let ids := continuation.ready.map ReadyTask.taskId
      refine ensures_via (fun _ => Working data taskId ids) ?_ fun _ => ?_
      · unfold notify
        split
        · exact ensures_pure fun _ here => here.1
        · have noted : Ensures (Working data taskId ids)
              (do
                note taskId fun continuation => { continuation with notified := true }
                persistRun)
              (fun _ => Working data taskId ids) (fun _ => Working data taskId ids) := by
            apply note_continuation
            · exact fun _ => rfl
            · exact fun _ => rfl
            · exact Or.inr fun _ => rfl
          exact noted.weaken (fun _ here => here.1) (fun _ _ after => after)
            fun _ _ after => ⟨ids, after⟩
      · have loop : Ensures (fun process => Working data taskId ids process)
            (ids.forM (continueReadyTask primitives environment taskId))
            (fun _ process => Working data taskId [] process)
            (fun _ => Follows data taskId) :=
          ensures_forM (fun item rest =>
            (continueReadyTask_working primitives environment).weaken
              (fun _ here => here) (fun _ _ after => after)
              fun _ _ after => ⟨item :: rest, after⟩) ids
        refine ensures_bind loop fun _ => ?_
        have completes : Ensures (Working data taskId []) (complete taskId)
            (fun _ => Working data taskId []) (fun _ => Working data taskId []) := by
          apply note_continuation
          · exact fun _ => rfl
          · exact fun _ => rfl
          · exact Or.inl rfl
        exact completes.weaken (fun _ here => here) (fun _ _ after => after)
          fun _ _ after => ⟨[], after⟩

end Working

/-! ## Messages -/

/-- The handling of the message will follow the continuation. -/
def ResumedBy
    (process : DynamicProcess)
    (message : SchedulerMessage)
    (taskId : TaskId)
    (continuation : DynamicContinuation) : Prop :=
  ∃ data, message = .attempt .finishTask data ∧
    data.get "task_id" = .str taskId ∧
    acceptTaskAttemptEvent .finishTask data process.gate = .ok none ∧
    (PyVal.dict continuation.attemptIdentity).pyEq (.dict (finishIdentity data)) = true

/-- While the run is active, what is left to be sent waits for the message. -/
def WaitsFor
    (message : SchedulerMessage)
    (process : DynamicProcess) : Prop :=
  process.run.isTerminal = false →
    ∀ taskId continuation, process.continuations.lookup taskId = some continuation →
      (∀ ready ∈ continuation.ready, ready.dispatched = true) ∨
        ResumedBy process message taskId continuation

/-- While the run is active, nothing is left to be sent. -/
def Quiet (process : DynamicProcess) : Prop :=
  process.run.isTerminal = false → AllSent process

theorem Quiet.waitsFor
    (quiet : Quiet process)
    (message : SchedulerMessage) :
    WaitsFor message process :=
  fun active taskId continuation found =>
    Or.inl (quiet active taskId continuation found)

theorem Quiet.framed
    {before after : DynamicProcess}
    (quiet : Quiet before)
    (frame : Frame before after) :
    Quiet after := by
  unfold Quiet AllSent
  rw [frame.isTerminal, frame.continuations]
  exact quiet

/-- Messages that are no finish find nothing left to be sent. -/
theorem WaitsFor.quiet
    {message : SchedulerMessage}
    (waits : WaitsFor message process)
    (other : ∀ data, message ≠ .attempt .finishTask data) :
    Quiet process := by
  intro active taskId continuation found
  rcases waits active taskId continuation found with sent | ⟨data, same, _⟩
  · exact sent
  · exact absurd same (other data)

/-- A message that the gate lets through finds nothing left to be sent. -/
theorem WaitsFor.quiet_of_accepted
    {gate : AttemptGate.Gate}
    (waits : WaitsFor (.attempt messageType data) process)
    (accepted : acceptTaskAttemptEvent messageType data process.gate = .ok (some gate)) :
    Quiet process := by
  intro active taskId continuation found
  rcases waits active taskId continuation found with sent |
    ⟨own, same, _, refused, _⟩
  · exact sent
  · cases same
    rw [refused] at accepted
    cases accepted

theorem Working.quiet
    (working : Working data taskId [] process) :
    Quiet process := by
  intro active other continuation found ready member
  by_cases same : other = taskId
  · subst same
    obtain ⟨own, isOwn, _, sent⟩ := working.here
    obtain rfl := Option.some.inj (found.symm.trans isOwn)
    exact (sent ready member).resolve_left List.not_mem_nil
  · exact working.others active other same continuation found ready member

theorem Follows.waitsFor
    (follows : Follows data taskId process)
    (named : data.get "task_id" = .str taskId) :
    WaitsFor (.attempt .finishTask data) process := by
  obtain ⟨rest, working⟩ := follows
  intro active other continuation found
  by_cases same : other = taskId
  · subst same
    obtain ⟨own, isOwn, identity, _⟩ := working.here
    obtain rfl := Option.some.inj (found.symm.trans isOwn)
    exact Or.inr ⟨data, rfl, named, working.refused, identity⟩
  · exact Or.inl (working.others active other same continuation found)

/-- What is known while a message is handled, and where its handling raises. -/
def Waiting
    (message : SchedulerMessage)
    (process : DynamicProcess) : Prop :=
  Base process ∧ WaitsFor message process

/-- What is known when the handling of a message has returned. -/
def Calm (process : DynamicProcess) : Prop :=
  Base process ∧ Quiet process

theorem Calm.framed
    (before after : DynamicProcess)
    (calm : Calm before)
    (frame : Frame before after) :
    Calm after :=
  ⟨calm.1.framed frame, calm.2.framed frame⟩

theorem Calm.waiting
    (calm : Calm process)
    (message : SchedulerMessage) :
    Waiting message process :=
  ⟨calm.1, calm.2.waitsFor message⟩

/-! ### The transactions -/

/-- The same tasks and requests; a run that goes on has changed in nothing else. -/
structure Alike (before after : DynamicRun) : Prop where
  carries : Carries before after
  named : named after = named before
  same :
    after.isTerminal = false → before.isTerminal = false ∧ Same before after

theorem alike_refl (run : DynamicRun) : Alike run run :=
  ⟨.refl run, rfl, fun active => ⟨active, rfl, rfl, rfl, rfl, rfl, rfl, rfl⟩⟩

theorem alike_markStarted
    (run : DynamicRun)
    (taskId : TaskId)
    (now : Time) :
    Alike run (run.markStarted taskId now) where
  carries := carries_markStarted run taskId now
  named := (DynamicReadiness.same_markStarted run taskId now).named
  same := by
    intro active
    refine ⟨?_, DynamicReadiness.same_markStarted run taskId now⟩
    by_contra ended
    rw [DynamicRun.markStarted, if_pos (by simpa using ended)] at active
    exact ended active

theorem alike_markRetrying
    (run : DynamicRun)
    (taskId : TaskId)
    (error faultTolerance : PyVal)
    (now : Time) :
    Alike run (run.markRetrying taskId error faultTolerance now) where
  carries := carries_markRetrying run taskId error faultTolerance now
  named :=
    (DynamicReadiness.same_markRetrying run taskId error faultTolerance now).named
  same := by
    intro active
    refine ⟨?_, DynamicReadiness.same_markRetrying run taskId error faultTolerance now⟩
    by_contra ended
    rw [DynamicRun.markRetrying, if_pos (by simpa using ended)] at active
    exact ended active

theorem alike_markFailed
    (run : DynamicRun)
    (taskId : TaskId)
    (reason faultTolerance : PyVal)
    (now : Time) :
    Alike run (run.markFailed taskId reason faultTolerance now) where
  carries := carries_markFailed run taskId reason faultTolerance now
  named := by
    unfold DynamicRun.markFailed
    split <;> rfl
  same := by
    intro active
    exfalso
    unfold DynamicRun.markFailed at active
    split at active
    · next ended =>
      rw [ended] at active
      cases active
    · simp only [DynamicRun.isTerminal] at active
      split at active <;> cases active

theorem Base.alike
    {run : DynamicRun}
    (base : Base process)
    (alike : Alike process.run run) :
    Base { process with run := run } where
  orderly := base.orderly.carry alike.carries rfl rfl
  logged := by
    rw [show named run = named process.run from alike.named]
    exact base.logged
  sound := fun active => by
    obtain ⟨before, same⟩ := alike.same active
    obtain ⟨submissions, sound⟩ := base.sound before
    exact ⟨submissions, sound.of_same same⟩
  handed := fun active => by
    obtain ⟨before, same⟩ := alike.same active
    rw [show named run = named process.run from alike.named,
      show run.submittedTasks = process.run.submittedTasks from same.submittedTasks]
    exact base.handed before
  settled := base.settled

theorem Calm.alike
    {run : DynamicRun}
    (calm : Calm process)
    (alike : Alike process.run run) :
    Calm { process with run := run } :=
  ⟨calm.1.alike alike, fun active => calm.2 (alike.same active).1⟩

/-- Nothing has been sent, and the canonical log has only grown. -/
structure Unsent (before after : DynamicProcess) : Prop where
  sentTasks : after.sentTasks = before.sentTasks
  retrying : after.retrying = before.retrying
  canonical : before.files.canonical <+: after.files.canonical

theorem Unsent.framed
    {start before after : DynamicProcess}
    (unsent : Unsent start before)
    (frame : Frame before after) :
    Unsent start after :=
  ⟨frame.sentTasks.trans unsent.sentTasks, frame.retrying.trans unsent.retrying,
    unsent.canonical.trans frame.canonical⟩

theorem Unsent.rolledBack
    {before after : DynamicProcess}
    (unsent : Unsent before after) :
    Frame before (rollback before after) :=
  ⟨rfl, ⟨rfl, rfl, rfl, rfl, rfl, rfl, rfl⟩, rfl, rfl, unsent.sentTasks, rfl,
    unsent.retrying, unsent.canonical⟩

/-- A transaction that tells of a task, but of no finish. -/
theorem tells_calm
    {change : DynamicRun → DynamicRun}
    (alike : ∀ run, Alike run (change run))
    (eventType : PyStr)
    (data : PyDict) :
    Ensures (fun process => Calm process ∧ Unsent start process)
      (do
        changeRun change
        recordEvent eventType data)
      (fun _ process => Calm process ∧ Unsent start process)
      (fun _ => Unsent start) := by
  refine ensures_via (fun _ process => Calm process ∧ Unsent start process) ?_ fun _ => ?_
  · apply ensures_modify
    rintro process ⟨calm, unsent⟩
    exact ⟨calm.alike (alike process.run), unsent.sentTasks, unsent.retrying,
      unsent.canonical⟩
  · have records : Ensures (fun process => Calm process ∧ Unsent start process)
        (recordEvent eventType data)
        (fun _ process => Calm process ∧ Unsent start process)
        (fun _ process => Calm process ∧ Unsent start process) :=
      Ensures.of_frame (fun _ => recordEvent_frame eventType data)
        fun before after here frame =>
          ⟨here.1.framed before after frame, here.2.framed frame⟩
    exact records.weaken (fun _ here => here) (fun _ _ after => after)
      fun _ _ after => after.2

/-- The transactions of a start, a retry and a failure. -/
theorem commit_calm
    (handling : DynamicHandling)
    (taskId : TaskId)
    (data : PyDict)
    (unfinished : messageType ≠ .finishTask) :
    Ensures (fun process => Calm process ∧ Unsent start process)
      (commit handling messageType taskId data)
      (fun _ process => Calm process ∧ Unsent start process)
      (fun _ => Unsent start) := by
  have observed : Ensures (fun process => Calm process ∧ Unsent start process)
      (returning handling.observation)
      (fun _ process => Calm process ∧ Unsent start process)
      (fun _ => Unsent start) :=
    (returning_ensures handling.observation).weaken (fun _ here => here)
      (fun _ _ here => here) fun _ _ here => here.2
  cases messageType with
  | startTask =>
      exact tells_calm (fun run => alike_markStarted run taskId handling.now) _ _
  | taskRetry =>
      refine ensures_bind observed fun observation => ?_
      exact tells_calm (fun run => alike_markRetrying run taskId _ _ handling.now) _ _
  | taskException =>
      refine ensures_bind observed fun observation => ?_
      exact tells_calm (fun run => alike_markFailed run taskId _ _ handling.now) _ _
  | finishTask =>
      exact absurd rfl unfinished

/-- The finish of a task, as its continuation starts from it. -/
theorem working_finishTask
    {data noted : PyDict}
    (handling : DynamicHandling)
    (manifest : PyVal)
    (calm : Calm process)
    (active : process.run.isTerminal = false)
    (refused : acceptTaskAttemptEvent .finishTask data process.gate = .ok none)
    (identity :
      (PyVal.dict (finishIdentity noted)).pyEq (.dict (finishIdentity data)) = true) :
    Follows data taskId (finishTask handling taskId noted manifest process) := by
  let published := setManifest taskId manifest process.run
  have alike : Same process.run published ∧ published.isTerminal = false := by
    unfold published setManifest
    split
    · exact ⟨⟨rfl, rfl, rfl, rfl, rfl, rfl, rfl⟩, active⟩
    · exact ⟨⟨rfl, rfl, rfl, rfl, rfl, rfl, rfl⟩, active⟩
  obtain ⟨same, live⟩ := alike
  let finished := published.markFinished taskId (noted.get "fault_tolerance") handling.now
  obtain ⟨submissions, sound⟩ := calm.1.sound active
  have after := DynamicReadiness.sound_finish (sound.of_same same) taskId
    (noted.get "fault_tolerance") handling.now live
  have finishes := finishes_markFinished taskId (noted.get "fault_tolerance")
    handling.now live
  have ids : named finished.1 = named process.run := by
    let change (task : CodeTask) : CodeTask :=
      { task with completed := true, finishTime := some handling.now }
    refine (DynamicReadiness.named_updateTask taskId change ?_ fun _ => rfl).trans
      same.named
    simp only [finished, DynamicRun.markFinished, live, Bool.false_eq_true, if_false]
    rfl
  have stillLive : finished.1.isTerminal = false := by
    simp only [finished, DynamicRun.markFinished, live, Bool.false_eq_true, if_false]
    exact live
  have lookup : ∀ other,
      (finishTask handling taskId noted manifest process).continuations.lookup other =
        if other = taskId then some (newContinuation noted finished.2)
        else process.continuations.lookup other :=
    fun other => lookup_setContinuation taskId other _ _
  refine ⟨finished.2, ?_⟩
  constructor
  case base =>
    constructor
    case orderly =>
      exact calm.1.orderly.finished active
    case logged =>
      rw [show named (finishTask handling taskId noted manifest process).run =
        named process.run from ids]
      exact calm.1.logged
    case sound =>
      exact fun _ => ⟨submissions ++ finished.2, after⟩
    case handed =>
      intro _ entry member keyed submitted
      rw [show named (finishTask handling taskId noted manifest process).run =
        named process.run from ids] at member
      rcases finishes.submitted entry.1 submitted with ready | earlier
      · refine Or.inr ⟨taskId, _, (lookup taskId).trans (if_pos rfl),
          ⟨entry.1, none, false, false⟩, ?_, rfl, rfl⟩
        exact List.mem_map.mpr ⟨entry.1, ready, rfl⟩
      · rw [same.submittedTasks] at earlier
        rcases calm.1.handed active entry member keyed earlier with sent |
          ⟨other, continuation, found, task, inside, _, undispatched⟩
        · exact Or.inl sent
        · rw [calm.2 active other continuation found task inside] at undispatched
          cases undispatched
    case settled =>
      intro other continuation found completed
      rw [lookup] at found
      split at found
      · cases found
        cases completed
      · exact calm.1.settled other continuation found completed
  case others =>
    intro _ other differs continuation found
    rw [lookup, if_neg differs] at found
    exact calm.2 active other continuation found
  case refused =>
    exact refused
  case here =>
    refine ⟨_, (lookup taskId).trans (if_pos rfl), identity, ?_⟩
    intro task member
    obtain ⟨readyTaskId, ready, rfl⟩ := List.mem_map.mp member
    exact Or.inl ready

/-- The transaction of a finish hands its ready tasks to a continuation. -/
theorem commitFinish_working
    {data noted : PyDict}
    (handling : DynamicHandling)
    (active : start.run.isTerminal = false)
    (identity :
      (PyVal.dict (finishIdentity noted)).pyEq (.dict (finishIdentity data)) = true) :
    Ensures
      (fun process => (Calm process ∧ Unsent start process) ∧
        process.run = start.run ∧
        acceptTaskAttemptEvent .finishTask data process.gate = .ok none)
      (commitFinish handling taskId noted)
      (fun _ => Follows data taskId) (fun _ => Unsent start) := by
  have given : ∀ {Value : Type} (outcome : Except PyErr Value),
      Ensures
        (fun process => (Calm process ∧ Unsent start process) ∧
          process.run = start.run ∧
          acceptTaskAttemptEvent .finishTask data process.gate = .ok none)
        (returning outcome)
        (fun _ process => (Calm process ∧ Unsent start process) ∧
          process.run = start.run ∧
          acceptTaskAttemptEvent .finishTask data process.gate = .ok none)
        (fun _ => Unsent start) := fun outcome =>
    (returning_ensures outcome).weaken (fun _ here => here) (fun _ _ here => here)
      fun _ _ here => here.1.2
  refine ensures_bind (given handling.manifest) fun manifest => ?_
  refine ensures_bind (given handling.observation) fun observation => ?_
  refine ensures_via
    (fun _ process => Follows data taskId process ∧ Unsent start process) ?_ fun _ => ?_
  · apply ensures_modify
    rintro process ⟨⟨calm, unsent⟩, same, refused⟩
    refine ⟨working_finishTask handling manifest calm (same ▸ active) refused ?_,
      unsent.sentTasks, unsent.retrying, unsent.canonical⟩
    have kept : finishIdentity ((if manifest.truthy then
        noted.set "file_manifest" manifest else noted).set "resource_observation"
          observation) = finishIdentity noted := by
      rw [SchedulerMessage.finishIdentity_set _ _ _ (by decide) (by decide) (by decide)]
      split
      · exact SchedulerMessage.finishIdentity_set _ _ _ (by decide) (by decide)
          (by decide)
      · rfl
    rw [kept]
    exact identity
  · have records := Ensures.of_frame
      (fun _ => recordEvent_frame "finish_task" ((if manifest.truthy then
        noted.set "file_manifest" manifest else noted).set "resource_observation"
          observation))
      (fun before after (here : Follows data taskId before ∧ Unsent start before)
          frame => by
        obtain ⟨⟨rest, working⟩, unsent⟩ := here
        exact (⟨⟨rest, working.framed before after frame⟩, unsent.framed frame⟩ :
          Follows data taskId after ∧ Unsent start after))
    refine ensures_bind (records.weaken (fun _ here => here) (fun _ _ after => after)
      fun _ _ after => after.2) fun _ => ?_
    exact (returning_ensures handling.published).weaken (fun _ here => here)
      (fun _ _ here => here.1) fun _ _ here => here.2

theorem finishIdentity_setDefault
    (data : PyDict)
    (value : PyVal) :
    finishIdentity (data.setDefault "run_id" value) = finishIdentity data := by
  have others : ∀ key : PyStr, key ≠ "run_id" →
      (data.setDefault "run_id" value).get key = data.get key := by
    intro key differs
    rw [PyDict.get, PyDict.get?_setDefault_of_ne data value differs]
    rfl
  simp only [finishIdentity, others _ (show PyStr.ofString "attempt" ≠ _ by decide),
    others _ (show PyStr.ofString "dispatch_id" ≠ _ by decide),
    others _ (show PyStr.ofString "lease_id" ≠ _ by decide)]

/-- A message that the gate lets through leaves nothing behind where it returns. -/
theorem handleAccepted_waiting
    {gate : AttemptGate.Gate}
    (primitives : Primitives)
    (handling : DynamicHandling)
    (calm : Calm start)
    (active : start.run.isTerminal = false)
    (accepted : acceptTaskAttemptEvent messageType data start.gate = .ok (some gate))
    (named : data.get "task_id" = .str taskId) :
    Ensures (fun process => process = start)
      (handleAccepted primitives handling messageType gate taskId data)
      (fun _ => Calm) (fun _ => Waiting (.attempt messageType data)) := by
  let noted := data.setDefault "run_id" (data.get "workflow_id")
  have undone : ∀ after, Unsent start after →
      Waiting (.attempt messageType data) (rollback start after) :=
    fun after unsent => (calm.framed _ _ unsent.rolledBack).waiting _
  have passed : ∀ process, process = start →
      Calm { process with gate := gate } ∧
        Unsent start { process with gate := gate } := by
    rintro process rfl
    exact ⟨⟨⟨calm.1.orderly.carry (.refl _) rfl rfl, calm.1.logged, calm.1.sound,
      calm.1.handed, calm.1.settled⟩, calm.2⟩, rfl, rfl, List.prefix_rfl⟩
  by_cases finish : messageType = .finishTask
  · subst finish
    obtain ⟨key, record, admitted, remembered⟩ :=
      AttemptGate.accept_eq_some (by decide) accepted
    have finished : gate.terminal key = true := by
      rw [remembered]
      simp [AttemptGate.Gate.terminal, admitted.state, AttemptGate.nextState]
    have refused := AttemptGate.accept_of_terminal admitted.parsed finished
    have identity :
        (PyVal.dict (finishIdentity noted)).pyEq (.dict (finishIdentity data)) =
          true := by
      rw [show finishIdentity noted = finishIdentity data from
        finishIdentity_setDefault data _]
      exact SchedulerMessage.finishIdentity_pyEq admitted.parsed
    refine ensures_via (fun _ => Follows data taskId) ?_ fun _ => ?_
    · refine ensures_restoring fun process same => ?_
      subst same
      refine ensures_via
        (fun _ current => (Calm current ∧ Unsent process current) ∧
          current.run = process.run ∧
          acceptTaskAttemptEvent .finishTask data current.gate = .ok none)
        ?_ fun _ => ?_
      · apply ensures_modify
        rintro current rfl
        exact ⟨passed current rfl, rfl, refused⟩
      · exact (commitFinish_working handling active identity).weaken
          (fun _ here => here) (fun _ _ after => after)
          fun _ after unsent => undone after unsent
    · rw [if_pos rfl]
      refine (continueDynamicFinish_working primitives handling.environment).weaken
        (fun _ here => here) (fun _ _ working => ⟨working.base, working.quiet⟩) ?_
      rintro _ after follows
      have waits := follows.waitsFor named
      obtain ⟨rest, working⟩ := follows
      exact ⟨working.base, waits⟩
  · refine ensures_via (fun _ => Calm) ?_ fun _ => ?_
    · refine ensures_restoring fun process same => ?_
      subst same
      refine ensures_via (fun _ current => Calm current ∧ Unsent process current)
        ?_ fun _ => ?_
      · apply ensures_modify
        rintro current rfl
        exact passed current rfl
      · exact (commit_calm handling taskId noted finish).weaken
          (fun _ here => here) (fun _ _ after => after.1)
          fun _ after unsent => undone after unsent
    · rw [if_neg finish]
      exact ensures_pure fun _ here => here

/-- A finish message that comes again follows the continuation that it left. -/
theorem resumeFinish_waiting
    (primitives : Primitives)
    (environment : Environment)
    (waiting : Waiting (.attempt .finishTask data) start)
    (refused : acceptTaskAttemptEvent .finishTask data start.gate = .ok none) :
    Ensures (fun process => process = start)
      (resumeFinish primitives environment data)
      (fun _ => Calm) (fun _ => Waiting (.attempt .finishTask data)) := by
  have calm : (∀ taskId continuation,
      start.continuations.lookup taskId = some continuation →
        ¬ ResumedBy start (.attempt .finishTask data) taskId continuation) →
      Calm start := by
    intro others
    refine ⟨waiting.1, fun active taskId continuation found => ?_⟩
    exact (waiting.2 active taskId continuation found).resolve_right
      (others taskId continuation found)
  unfold resumeFinish
  split
  · next taskId named =>
    refine ensures_get fun process same => ?_
    subst same
    split
    · next continuation found =>
      split
      · next identity =>
        have follows : Follows data taskId process := by
          refine ⟨continuation.ready.map ReadyTask.taskId, waiting.1, ?_, refused,
            continuation, found, identity,
            fun task member => Or.inl (List.mem_map_of_mem member)⟩
          intro active other differs later isLater
          refine (waiting.2 active other later isLater).resolve_right ?_
          rintro ⟨own, sameMessage, isTask, _⟩
          cases sameMessage
          rw [named] at isTask
          exact differs (PyVal.str.inj isTask).symm
        refine (continueDynamicFinish_working primitives environment).weaken
          (fun current same => same ▸ follows)
          (fun _ _ working => ⟨working.base, working.quiet⟩) ?_
        rintro _ after follows
        have waits := follows.waitsFor named
        obtain ⟨rest, working⟩ := follows
        exact ⟨working.base, waits⟩
      · next differs =>
        refine ensures_pure fun current same => same ▸ calm ?_
        rintro other later isLater ⟨own, sameMessage, isTask, _, identity⟩
        cases sameMessage
        rw [named] at isTask
        obtain rfl := PyVal.str.inj isTask
        obtain rfl := Option.some.inj (isLater.symm.trans found)
        exact differs identity
    · next absent =>
      refine ensures_pure fun current same => same ▸ calm ?_
      rintro other later isLater ⟨own, sameMessage, isTask, _⟩
      cases sameMessage
      rw [named] at isTask
      obtain rfl := PyVal.str.inj isTask
      rw [isLater] at absent
      cases absent
  · next unnamed =>
    refine ensures_pure fun current same => same ▸ calm ?_
    rintro other later isLater ⟨own, sameMessage, isTask, _⟩
    cases sameMessage
    exact unnamed other isTask

theorem handleAttempt_waiting
    (primitives : Primitives)
    (handling : DynamicHandling) :
    Ensures (Waiting (.attempt messageType data))
      (handleAttempt primitives handling messageType data)
      (fun _ => Calm) (fun _ => Waiting (.attempt messageType data)) := by
  refine ensures_get fun process waiting => ?_
  have here : ∀ current, current = process →
      Waiting (.attempt messageType data) current :=
    fun current same => same ▸ waiting
  refine ensures_via
    (fun found current => current = process ∧
      acceptTaskAttemptEvent messageType data process.gate = .ok found)
    ?_ fun found => ?_
  · intro current same
    cases acceptTaskAttemptEvent messageType data process.gate with
    | error raised => exact here current same
    | ok found => exact ⟨same, rfl⟩
  cases found with
  | none =>
      dsimp only
      split
      · next finish =>
        subst finish
        rintro current ⟨same, refused⟩
        exact resumeFinish_waiting primitives handling.environment waiting refused
          current same
      · next other =>
        refine ensures_pure fun current same => same.1 ▸ ⟨waiting.1, waiting.2.quiet ?_⟩
        rintro own sameMessage
        cases sameMessage
        exact other rfl
  | some gate =>
      dsimp only
      rintro current ⟨rfl, accepted⟩
      have calm : Calm current := ⟨waiting.1, waiting.2.quiet_of_accepted accepted⟩
      cases named : data.get "task_id" with
      | str taskId =>
          dsimp only
          cases active : current.run.isTerminal with
          | true =>
              exact calm
          | false =>
              exact handleAccepted_waiting primitives handling calm active accepted
                named current rfl
      | _ => exact waiting

theorem handlePending_calm (data : PyDict) :
    Ensures Calm (handlePending data) (fun _ => Calm) (fun _ => Calm) := by
  refine ensures_get fun process calm => ?_
  have here : ∀ current, current = process → Calm current :=
    fun current same => same ▸ calm
  split
  · exact ensures_pure here
  · exact (Ensures.of_frame (fun _ => recordEvent_frame _ _)
      Calm.framed).weaken here (fun _ _ after => after) fun _ _ after => after

/-! ### One round of the monitor -/

/-- What is left to be sent waits for the message that is handled again. -/
structure Invariant (process : DynamicProcess) : Prop where
  base : Base process
  calm : process.retrying = none → Quiet process
  waits : ∀ message, process.retrying = some message → WaitsFor message process

theorem Base.changeRetrying
    (base : Base process)
    (retrying : Option SchedulerMessage) :
    Base { process with retrying := retrying } :=
  ⟨base.orderly.changeRetrying retrying, base.logged, base.sound, base.handed,
    base.settled⟩

theorem Base.changeMoments
    (base : Base process)
    (moments : List Moment) :
    Base { process with moments := moments } :=
  ⟨base.orderly.changeMoments moments, base.logged, base.sound, base.handed,
    base.settled⟩

theorem Calm.invariant
    (calm : Calm process)
    (retrying : Option SchedulerMessage) :
    Invariant { process with retrying := retrying } where
  base := calm.1.changeRetrying retrying
  calm := fun _ => calm.2
  waits := fun message _ => calm.2.waitsFor message

theorem conclude_invariant
    {message : SchedulerMessage}
    {call : MonitorCall Unit}
    (ensures : Ensures (Waiting message) call (fun _ => Calm) (fun _ => Waiting message))
    (waiting : Waiting message process)
    (through :
      ∀ raised after, call process = .error raised after →
        raised = .osError ∨ Quiet after) :
    Invariant (conclude message (call process)) := by
  cases outcome : call process with
  | ok _ after =>
      exact (ensures.returned waiting outcome).invariant none
  | error raised after =>
      obtain ⟨base, waits⟩ := ensures.raised waiting outcome
      rcases through raised after outcome with rfl | quiet
      · refine ⟨base.changeRetrying _, fun idle => ?_, fun other same => ?_⟩
        · cases idle
        · cases same
          exact waits
      · have calm : Calm after := ⟨base, quiet⟩
        cases raised <;> exact calm.invariant _

theorem handle_invariant
    {message : SchedulerMessage}
    {handling : DynamicHandling}
    (primitives : Primitives)
    (waiting : Waiting message process)
    (through : ComesThrough primitives process message handling) :
    Invariant (handle primitives handling message process) := by
  have here : Waiting message { process with moments := handling.moments } :=
    ⟨waiting.1.changeMoments handling.moments, waiting.2⟩
  unfold handle
  cases message with
  | pending data =>
      have calm : Calm { process with moments := handling.moments } :=
        ⟨here.1, here.2.quiet fun _ same => by cases same⟩
      refine conclude_invariant ((handlePending_calm data).weaken
        (fun current here => ⟨here.1, here.2.quiet fun _ same => by cases same⟩)
        (fun _ _ after => after) fun _ _ after => after.waiting _) here ?_
      intro raised after failed
      exact Or.inr ((handlePending_calm data).raised calm failed).2
  | attempt messageType data =>
      dsimp only
      split
      · next failed =>
        have quiet : Quiet process := by
          intro active taskId continuation found
          rcases waiting.2 active taskId continuation found with sent |
            ⟨own, same, _, refused, _⟩
          · exact sent
          · cases same
            rw [refused] at failed
            cases failed
        exact Calm.invariant ⟨here.1, quiet⟩ _
      · refine conclude_invariant (handleAttempt_waiting primitives handling) here ?_
        intro raised after failed
        by_cases finish : messageType = .finishTask
        · subst finish
          exact (through data rfl raised after failed).imp_right fun sent _ => sent
        · have waits := ((handleAttempt_waiting primitives handling).raised here failed).2
          refine Or.inr (waits.quiet ?_)
          rintro own same
          cases same
          exact finish rfl

/-! ### The other calls -/

theorem Invariant.framed
    (before after : DynamicProcess)
    (invariant : Invariant before)
    (frame : Frame before after) :
    Invariant after where
  base := invariant.base.framed frame
  calm := by
    rw [frame.retrying]
    exact fun idle => (invariant.calm idle).framed frame
  waits := by
    rw [frame.retrying]
    intro message same
    unfold WaitsFor ResumedBy
    rw [frame.isTerminal, frame.continuations, frame.gate]
    exact invariant.waits message same

theorem Invariant.alike
    {run : DynamicRun}
    (invariant : Invariant process)
    (alike : Alike process.run run) :
    Invariant { process with run := run } where
  base := invariant.base.alike alike
  calm := fun idle active => invariant.calm idle (alike.same active).1
  waits := fun message same active => invariant.waits message same (alike.same active).1

/-- A run that an operation has ended is alike. -/
theorem alike_ended
    {before after : DynamicRun}
    (carries : Carries before after)
    (tasks : after.tasks = before.tasks)
    (ended : after.isTerminal = true) :
    Alike before after where
  carries := carries
  named := by rw [named, tasks]; rfl
  same := by
    intro active
    rw [ended] at active
    cases active

theorem alike_checkCanMutate
    (render : Time → PyStr)
    (run : DynamicRun)
    (now : Time) :
    Alike run (run.checkCanMutate render now).state := by
  have carries := carries_checkCanMutate render run now
  rcases DynamicCore.checkCanMutate_cases render run now with
    ⟨_, _, checked⟩ | ⟨_, checked⟩ | ⟨_, checked⟩
  · rw [checked] at carries ⊢
    exact alike_ended carries rfl rfl
  · rw [checked]
    exact alike_refl run
  · rw [checked]
    exact alike_refl run

/-- The calls of clients leave a run that goes on as it was. -/
theorem alike_apply
    (render : Time → PyStr)
    (run : DynamicRun)
    (now : Time)
    (call : ApiCall) :
    Alike run (DynamicCore.apply render run now call.operation).1 := by
  have carries := carries_apply render run now call
  cases call with
  | registerTaskSpec data =>
      exact alike_checkCanMutate render run now
  | emitEvent eventType data =>
      simp only [ApiCall.operation, DynamicCore.apply]
      split
      · exact alike_refl run
      · exact alike_checkCanMutate render run now
  | finalize result =>
      simp only [ApiCall.operation, DynamicCore.apply, DynamicRun.finalize] at carries ⊢
      split
      · exact alike_refl run
      · next unfinalized =>
        rw [if_neg unfinalized] at carries
        rcases DynamicCore.checkCanMutate_cases render run now with
          ⟨_, _, checked⟩ | ⟨_, checked⟩ | ⟨_, checked⟩
        · simp only [checked] at carries ⊢
          exact alike_ended carries rfl rfl
        · simp only [checked]
          exact alike_refl run
        · simp only [checked] at carries ⊢
          split
          · next final =>
            rw [if_pos final] at carries
            exact alike_ended carries rfl rfl
          · exact alike_refl run
  | cancel reason =>
      simp only [ApiCall.operation, DynamicCore.apply, DynamicRun.cancel] at carries ⊢
      split
      · exact alike_refl run
      · next going =>
        rw [if_neg going] at carries
        rcases DynamicCore.checkCanMutate_cases render run now with
          ⟨_, _, checked⟩ | ⟨_, checked⟩ | ⟨_, checked⟩
        · simp only [checked] at carries ⊢
          exact alike_ended carries rfl rfl
        · simp only [checked]
          exact alike_refl run
        · simp only [checked] at carries ⊢
          exact alike_ended carries rfl rfl
  | timeOut data =>
      simp only [ApiCall.operation, DynamicCore.apply,
        DynamicRun.markTimedOutIfNeeded] at carries ⊢
      split
      · next passed =>
        rw [if_pos passed] at carries
        exact alike_ended carries rfl rfl
      · exact alike_refl run
  | interrupt reason data =>
      simp only [ApiCall.operation, DynamicCore.apply, DynamicRun.interrupt] at carries ⊢
      split
      · exact alike_refl run
      · next going =>
        rw [if_neg going] at carries
        exact alike_ended carries rfl rfl

theorem operate_invariant
    (render : Time → PyStr)
    (handling : DynamicHandling)
    (call : ApiCall) :
    Ensures Invariant (operate render handling call) (fun _ => Invariant)
      (fun _ => Invariant) := by
  refine ensures_get fun process invariant => ?_
  refine ensures_via (fun _ => Invariant) ?_ fun _ => ?_
  · apply ensures_modify
    rintro current rfl
    exact invariant.alike (alike_apply render current.run handling.now call)
  · split
    · exact Ensures.of_frame (fun _ => recordEvent_frame _ _) Invariant.framed
    · exact ensures_pure fun _ here => here

theorem leaving_invariant
    {handling : DynamicHandling}
    {call : MonitorCall Unit}
    (ensures : Ensures Invariant call (fun _ => Invariant) (fun _ => Invariant))
    (invariant : Invariant process) :
    Invariant (leaving handling call process) := by
  have here : Invariant { process with moments := handling.moments } :=
    ⟨invariant.base.changeMoments _, invariant.calm, invariant.waits⟩
  unfold leaving
  cases outcome : call { process with moments := handling.moments } with
  | ok _ after =>
      exact ensures.returned here outcome
  | error _ after =>
      exact ensures.raised here outcome

/-! ### The event of an append -/

theorem mem_andThen
    {first : Performed}
    {second : List DiskWrite → Performed}
    {write : DiskWrite}
    (member : write ∈ first.writes) :
    write ∈ (DynamicRunStore.Performed.andThen first second).writes := by
  unfold DynamicRunStore.Performed.andThen
  split
  · exact member
  · exact List.mem_append_left _ member

theorem mem_canonical_of_writes
    {files : DynamicFiles}
    {writes : List DiskWrite}
    {event : RunEvent}
    (member : .canonical event ∈ writes) :
    event ∈ (DynamicRunStore.writeAll files writes).canonical := by
  induction writes generalizing files with
  | nil =>
      cases member
  | cons write rest inductionHypothesis =>
      rcases List.mem_cons.mp member with rfl | later
      · refine (canonical_extends (DynamicRunStore.write files (.canonical event))
          rest).subset ?_
        exact List.mem_append_right _ (List.mem_singleton_self event)
      · exact inductionHypothesis later

section Persisting

variable
  {files : DynamicFiles} {event : RunEvent} {snapshot : DynamicSnapshot}
  {faults : Faults}

/-- An event behind all others is written, unless its write fails at once. -/
theorem persistEvent_canonical
    (later : ∀ earlier ∈ files.canonical, earlier.seq < event.seq)
    (positive : 0 < event.seq)
    (written : faults.canonical ≠ .before) :
    .canonical event ∈
      (DynamicRunStore.persistEvent files event snapshot faults).writes := by
  have absent := DynamicRunStore.eventForAppend_of_later positive later true
  have first : .canonical event ∈
      (DynamicRunStore.attempt faults.canonical (.canonical event)).writes := by
    cases fault : faults.canonical with
    | none => exact List.mem_singleton_self _
    | before => exact absurd fault written
    | after => exact List.mem_singleton_self _
  unfold DynamicRunStore.persistEvent DynamicRunStore.appendEventOnce
  rw [absent]
  exact mem_andThen (mem_andThen first)

theorem persistEvent_ok
    (later : ∀ earlier ∈ files.canonical, earlier.seq < event.seq)
    (positive : 0 < event.seq)
    (canonical : faults.canonical = .none)
    (mirrored :
      DynamicRunStore.hasWorkspace snapshot = true →
        faults.mirror = .none ∧ ∀ earlier ∈ files.mirror, earlier.seq < event.seq)
    (saved : faults.save = .none) :
    (DynamicRunStore.persistEvent files event snapshot faults).result = .ok () := by
  have absent := DynamicRunStore.eventForAppend_of_later positive later true
  have mirror : (DynamicRunStore.mirrorEventOnce
      (DynamicRunStore.writeAll files [.canonical event]) event snapshot
        faults.mirror).result = .ok () := by
    unfold DynamicRunStore.mirrorEventOnce
    split
    · next workspace =>
      obtain ⟨unfailing, before⟩ := mirrored workspace
      have missing : DynamicRunStore.eventForAppend
          (DynamicRunStore.writeAll files [.canonical event]).mirror event false =
            .ok none :=
        DynamicRunStore.eventForAppend_of_later positive before false
      rw [missing, unfailing]
      rfl
    · rfl
  simp only [DynamicRunStore.persistEvent, DynamicRunStore.appendEventOnce, absent,
    DynamicRunStore.Performed.andThen, DynamicRunStore.attempt, canonical, saved, mirror]

end Persisting

theorem recordEvent_eq
    (eventType : PyStr)
    (data : PyDict)
    (process : DynamicProcess) :
    recordEvent eventType data process =
      let moment := nextMoment process
      let appended :=
        process.run.appendEvent eventType data moment.timestamp moment.now
      persistEvent appended.2 { process with run := appended.1 } := rfl

theorem files_of_writing
    (perform : DynamicProcess → Moment → Performed)
    (process : DynamicProcess) :
    match writing perform process with
    | .ok _ after | .error _ after =>
        after.files = DynamicRunStore.writeAll process.files
          (perform process (nextMoment process)).writes := by
  unfold writing
  dsimp only
  cases (perform process (nextMoment process)).result with
  | ok => rfl
  | error raised => rfl

/-- The event of an append is in the log, however its record ends. -/
theorem recordEvent_logged
    (named : data.get "task_id" = .str taskId)
    (numbered : ∀ event ∈ process.files.canonical, event.seq ≤ process.run.eventSeq)
    (written : (nextMoment process).faults.canonical ≠ .before) :
    match recordEvent "append_task" data process with
    | .ok _ after | .error _ after => Logged after taskId := by
  let moment := nextMoment process
  let appended :=
    process.run.appendEvent "append_task" data moment.timestamp moment.now
  have later : ∀ earlier ∈ process.files.canonical, earlier.seq < appended.2.seq :=
    fun earlier member => Nat.lt_succ_of_le (numbered earlier member)
  have event : appended.2.eventType = "append_task" ∧
      appended.2.data.get "task_id" = .str taskId := by
    refine ⟨rfl, ?_⟩
    rw [← named]
    simp only [appended, DynamicRun.appendEvent, PyDict.get, PyDict.get?_set]
    rw [if_neg (by decide), if_neg (by decide)]
  have files := files_of_writing
    (fun process moment => DynamicRunStore.persistEvent process.files appended.2
      process.run.snapshot moment.faults) { process with run := appended.1 }
  have inLog : ∀ after : DynamicProcess,
      after.files = DynamicRunStore.writeAll process.files
          (DynamicRunStore.persistEvent process.files appended.2
            appended.1.snapshot moment.faults).writes →
        Logged after taskId := by
    intro after same
    refine ⟨appended.2, ?_, event⟩
    rw [same]
    exact mem_canonical_of_writes
      (persistEvent_canonical later (Nat.succ_pos _) written)
  rw [recordEvent_eq]
  change match persistEvent appended.2 { process with run := appended.1 } with
    | .ok _ after | .error _ after => Logged after taskId
  cases outcome : persistEvent appended.2 { process with run := appended.1 } with
  | ok _ after =>
      rw [show writing _ _ = _ from outcome] at files
      exact inLog after files
  | error raised after =>
      rw [show writing _ _ = _ from outcome] at files
      exact inLog after files

/-- The record of an append returns where all its writes go through. -/
theorem recordEvent_returns
    (data : PyDict)
    (numbered : ∀ event ∈ process.files.canonical, event.seq ≤ process.run.eventSeq)
    (canonical : (nextMoment process).faults.canonical = .none)
    (mirrored :
      DynamicRunStore.hasWorkspace process.run.snapshot = true →
        (nextMoment process).faults.mirror = .none ∧
          ∀ event ∈ process.files.mirror, event.seq ≤ process.run.eventSeq)
    (saved : (nextMoment process).faults.save = .none) :
    ∃ after, recordEvent "append_task" data process = .ok () after := by
  let moment := nextMoment process
  let appended :=
    process.run.appendEvent "append_task" data moment.timestamp moment.now
  have later : ∀ log : List RunEvent,
      (∀ event ∈ log, event.seq ≤ process.run.eventSeq) →
        ∀ earlier ∈ log, earlier.seq < appended.2.seq :=
    fun log numbered earlier member => Nat.lt_succ_of_le (numbered earlier member)
  have persisted : (DynamicRunStore.persistEvent process.files appended.2
      appended.1.snapshot moment.faults).result = .ok () := by
    refine persistEvent_ok (later _ numbered) (Nat.succ_pos _) canonical ?_ saved
    intro workspace
    obtain ⟨unfailing, before⟩ := mirrored workspace
    exact ⟨unfailing, later _ before⟩
  rw [recordEvent_eq]
  change ∃ after, persistEvent appended.2 { process with run := appended.1 } = _
  unfold persistEvent writing
  dsimp only
  rw [show (DynamicRunStore.persistEvent process.files appended.2
      appended.1.snapshot
        (nextMoment { process with run := appended.1 }).faults).result = .ok () from
    persisted]
  exact ⟨_, rfl⟩

/-! ### An append -/

/-- A run with a new task, after the call that appended it. -/
structure Added
    (request : DynamicRun.AppendRequest)
    (now : Time)
    (start after : DynamicProcess) : Prop where
  orderly : Orderly after
  same : Same (start.run.addTask request now) after.run
  status : after.run.isTerminal = false
  continuations : after.continuations = start.continuations
  sentTasks : start.sentTasks ⊆ after.sentTasks
  gate : after.gate = start.gate
  retrying : after.retrying = start.retrying
  canonical : start.files.canonical <+: after.files.canonical
  logged : Keyed request.requestId → Logged after request.taskId
  sent :
    Keyed request.requestId → request.taskId ∈ after.run.submittedTasks →
      request.taskId ∈ after.sentTasks

/-- What an append leaves behind, however it ends. -/
def Settles
    (render : Time → PyStr)
    (request : DynamicRun.AppendRequest)
    (start after : DynamicProcess) : Prop :=
  Invariant after ∧
    (Keyed request.requestId → after.run = start.run ∨ Complete render after request)

section Appending

variable
  {render : Time → PyStr} {request : DynamicRun.AppendRequest} {now : Time}
  {start after : DynamicProcess}

theorem Keyed.requestKey (keyed : Keyed request.requestId) :
    request.requestKey.isSome = true := by
  obtain ⟨key, nonempty, same⟩ := keyed
  simp [DynamicRun.AppendRequest.requestKey, same, Option.filter, nonempty]

theorem Added.names (added : Added request now start after) :
    named after.run = named start.run ++ [(request.taskId, request.requestId)] :=
  added.same.named.trans (DynamicReadiness.named_addTask start.run request now)

theorem Added.sound
    (added : Added request now start after)
    (invariant : Invariant start)
    (active : start.run.isTerminal = false)
    (fresh : request.taskId ∉ DynamicReadiness.taskIds start.run)
    (appends : Appends start.run request) :
    ∃ submissions, DynamicReadiness.Sound ⟨after.run, submissions⟩ := by
  obtain ⟨submissions, sound⟩ := invariant.base.sound active
  exact ⟨_, (DynamicReadiness.sound_addTask sound fresh appends).of_same added.same⟩

theorem Added.base
    (added : Added request now start after)
    (invariant : Invariant start)
    (active : start.run.isTerminal = false)
    (fresh : request.taskId ∉ DynamicReadiness.taskIds start.run)
    (appends : Appends start.run request) :
    Base after where
  orderly := added.orderly
  logged := by
    intro entry member keyed
    rw [added.names, List.mem_append, List.mem_singleton] at member
    rcases member with old | rfl
    · exact (invariant.base.logged entry old keyed).grown added.canonical
    · exact added.logged keyed
  sound := fun _ => added.sound invariant active fresh appends
  handed := by
    intro _ entry member keyed submitted
    rw [added.names, List.mem_append, List.mem_singleton] at member
    rcases member with old | rfl
    · have known : entry.1 ∈ DynamicReadiness.taskIds start.run := by
        rw [DynamicReadiness.taskIds_eq_named]
        exact List.mem_map_of_mem old
      have earlier : entry.1 ∈ start.run.submittedTasks := by
        rw [added.same.submittedTasks] at submitted
        obtain ⟨_, _, ⟨_, grown, _⟩ | ⟨_, same, _⟩⟩ :=
          DynamicReadiness.addTask_cases start.run request now
        · rw [grown, List.mem_insert_iff] at submitted
          exact submitted.resolve_left fun same => fresh (same ▸ known)
        · exact same ▸ submitted
      rcases invariant.base.handed active entry old keyed earlier with sent | waits
      · exact Or.inl (added.sentTasks sent)
      · refine Or.inr ?_
        rw [added.continuations]
        exact waits
    · exact Or.inl (added.sent keyed submitted)
  settled := by
    rw [added.continuations]
    exact invariant.base.settled

/-- An append that adds its task settles. -/
theorem Added.settles
    (added : Added request now start after)
    (invariant : Invariant start)
    (active : start.run.isTerminal = false)
    (fresh : request.taskId ∉ DynamicReadiness.taskIds start.run)
    (appends : Appends start.run request) :
    Settles render request start after := by
  have base := added.base invariant active fresh appends
  have isNamed : (request.taskId, request.requestId) ∈ named after.run := by
    rw [added.names]
    exact List.mem_append_right _ (List.mem_singleton_self _)
  refine ⟨⟨base, ?_, ?_⟩, fun keyed => Or.inr ⟨?_, ?_⟩⟩
  · rw [added.retrying]
    intro idle _
    unfold AllSent
    rw [added.continuations]
    exact invariant.calm idle active
  · rw [added.retrying]
    intro message waiting _
    unfold ResumedBy
    rw [added.continuations, added.gate]
    exact invariant.waits message waiting active
  · exact ⟨request.taskId, isNamed, added.logged keyed, fun _ _ => added.sent keyed⟩
  · intro live now passed
    obtain ⟨submissions, sound⟩ := base.sound live
    obtain ⟨entry, member, same⟩ := List.mem_map.mp isNamed
    have answered := (sound.requests render live).answered entry member request
      keyed.requestKey (congrArg Prod.snd same).symm now passed
    exact ⟨entry.1, answered⟩

/-- The process with the new task in its run. -/
def grown
    (request : DynamicRun.AppendRequest)
    (payload : WorkflowTask)
    (now : Time)
    (start : DynamicProcess) :
    DynamicProcess :=
  { start with
    run := start.run.addTask request now
    payloads := (request.taskId, payload) :: start.payloads }

theorem appended_of_frame
    {payload : WorkflowTask}
    (invariant : Invariant start)
    (fresh : request.taskId ∉ DynamicReadiness.taskIds start.run)
    (frame : Frame (grown request payload now start) after) :
    Appended request.taskId after := by
  have appended := invariant.base.orderly.added request now fresh
  have grows : Appended request.taskId (grown request payload now start) :=
    ⟨appended.orderly.carry (.refl _) rfl rfl, appended.known, appended.unsent,
      appended.free, appended.ready⟩
  exact grows.recorded _ _ ⟨frame.carries, frame.status, frame.continuations,
    frame.sentTasks, frame.gate, frame.retrying⟩

/-- The call has recorded the new task, and has not sent it. -/
theorem added_unsent
    {payload : WorkflowTask}
    (invariant : Invariant start)
    (active : start.run.isTerminal = false)
    (fresh : request.taskId ∉ DynamicReadiness.taskIds start.run)
    (frame : Frame (grown request payload now start) after)
    (logged : Keyed request.requestId → Logged after request.taskId)
    (unsubmitted :
      Keyed request.requestId → request.taskId ∉ after.run.submittedTasks) :
    Added request now start after where
  orderly := (appended_of_frame invariant fresh frame).orderly
  same := frame.same
  status := frame.isTerminal.trans (DynamicReadiness.isTerminal_addTask start.run
    request now active)
  continuations := frame.continuations
  sentTasks := frame.sentTasks ▸ List.Subset.refl _
  gate := frame.gate
  retrying := frame.retrying
  canonical := frame.canonical
  logged := logged
  sent := fun keyed submitted => absurd submitted (unsubmitted keyed)

/-- The call has recorded and sent the new task. -/
theorem added_sent
    {payload : WorkflowTask}
    (invariant : Invariant start)
    (active : start.run.isTerminal = false)
    (fresh : request.taskId ∉ DynamicReadiness.taskIds start.run)
    (frame : Frame (grown request payload now start) after)
    (logged : Keyed request.requestId → Logged after request.taskId)
    (submitted : request.taskId ∈ after.run.submittedTasks) :
    Added request now start
      { after with sentTasks := after.sentTasks ++ [request.taskId] } where
  orderly := (appended_of_frame invariant fresh frame).sent submitted
  same := frame.same
  status := frame.isTerminal.trans (DynamicReadiness.isTerminal_addTask start.run
    request now active)
  continuations := frame.continuations
  sentTasks := by
    have same : after.sentTasks = start.sentTasks := frame.sentTasks
    rw [same]
    exact List.subset_append_left _ _
  gate := frame.gate
  retrying := frame.retrying
  canonical := frame.canonical
  logged := logged
  sent := fun _ _ => List.mem_append_right _ (List.mem_singleton_self _)

/-- A new task is submitted at once only where its parents have completed. -/
theorem completed_of_submitted
    (invariant : Invariant start)
    (fresh : request.taskId ∉ DynamicReadiness.taskIds start.run)
    (submitted : request.taskId ∈ (start.run.addTask request now).submittedTasks) :
    ∀ parent ∈ request.parents, parent ∈ start.run.completedTasks := by
  obtain ⟨_, _, ⟨completed, _⟩ | ⟨_, same, _⟩⟩ :=
    DynamicReadiness.addTask_cases start.run request now
  · exact completed
  · rw [same] at submitted
    exact absurd (invariant.base.orderly.submitted _ submitted) fresh

end Appending

theorem eventSeq_addTask
    (run : DynamicRun)
    (request : DynamicRun.AppendRequest)
    (now : Time) :
    (run.addTask request now).eventSeq = run.eventSeq := by
  unfold DynamicRun.addTask
  dsimp only
  split <;> rfl

theorem hasWorkspace_addTask
    (run : DynamicRun)
    (request : DynamicRun.AppendRequest)
    (now : Time) :
    DynamicRunStore.hasWorkspace (run.addTask request now).snapshot =
      DynamicRunStore.hasWorkspace run.snapshot := by
  unfold DynamicRun.addTask
  dsimp only
  split <;> rfl

theorem payloads_of_record
    (eventType : PyStr)
    (data : PyDict)
    (process : DynamicProcess) :
    match recordEvent eventType data process with
    | .ok _ after | .error _ after => after.payloads = process.payloads := by
  rw [recordEvent_eq]
  unfold persistEvent writing
  dsimp only
  split
  · next outcome =>
    split at outcome
    · cases outcome
      rfl
    · cases outcome
  · next outcome =>
    split at outcome
    · cases outcome
    · cases outcome
      rfl

section Calling

variable
  {render : Time → PyStr} {primitives : Primitives} {handling : DynamicHandling}
  {sending : Except PyErr Unit} {request : DynamicRun.AppendRequest}
  {payload : WorkflowTask} {data : PyDict} {process : DynamicProcess}

/-- What a call with a request id relies on. -/
structure Relies
    (primitives : Primitives)
    (handling : DynamicHandling)
    (sending : Except PyErr Unit)
    (request : DynamicRun.AppendRequest)
    (payload : WorkflowTask)
    (data : PyDict)
    (start : DynamicProcess) : Prop where
  invariant : Invariant start
  active : start.run.isTerminal = false
  fresh : request.taskId ∉ DynamicReadiness.taskIds start.run
  named : data.get "task_id" = .str request.taskId
  moments : start.moments = handling.moments
  appends : Appends start.run request
  persists : Keyed request.requestId → Persists start handling
  sends :
    Keyed request.requestId →
      (∀ parent ∈ request.parents, parent ∈ start.run.completedTasks) →
        Sends primitives start handling sending payload

/-- The record of the new task, which may raise where the task waits for parents. -/
theorem recordEvent_settles
    (relies : Relies primitives handling sending request payload data start) :
    Ensures
      (fun current => current = grown request payload handling.now start)
      (recordEvent "append_task" data)
      (fun _ after => Frame (grown request payload handling.now start) after ∧
        after.payloads = (request.taskId, payload) :: start.payloads ∧
        (Keyed request.requestId → Logged after request.taskId))
      (fun _ => Settles render request start) := by
  rintro current rfl
  have moment : nextMoment (grown request payload handling.now start) =
      nextMoment { start with moments := handling.moments } := by
    rw [← relies.moments]
    rfl
  have eventSeq : (grown request payload handling.now start).run.eventSeq =
      start.run.eventSeq := eventSeq_addTask _ _ _
  have frame := recordEvent_frame "append_task" data
    (grown request payload handling.now start) (Frame.refl _)
  have payloads := payloads_of_record "append_task" data
    (grown request payload handling.now start)
  have logged : Keyed request.requestId →
      match recordEvent "append_task" data
        (grown request payload handling.now start) with
      | .ok _ after | .error _ after => Logged after request.taskId := by
    intro keyed
    obtain ⟨numbered, written⟩ := relies.persists keyed
    refine recordEvent_logged relies.named ?_ ?_
    · rw [eventSeq]
      exact numbered
    · rw [moment]
      exact written
  cases outcome : recordEvent "append_task" data
      (grown request payload handling.now start) with
  | ok _ after =>
      rw [outcome] at frame payloads logged
      exact ⟨frame, payloads, logged⟩
  | error raised after =>
      rw [outcome] at frame logged
      refine (added_unsent relies.invariant relies.active relies.fresh frame logged
        ?_).settles relies.invariant relies.active relies.fresh relies.appends
      intro keyed submitted
      rw [frame.same.submittedTasks] at submitted
      obtain ⟨numbered, _⟩ := relies.persists keyed
      obtain ⟨canonical, mirrored, saved, _⟩ := relies.sends keyed
        (completed_of_submitted relies.invariant relies.fresh submitted)
      have returns : ∃ after, recordEvent "append_task" data
          (grown request payload handling.now start) = .ok () after := by
        apply recordEvent_returns
        · rw [eventSeq]
          exact numbered
        · rw [moment]
          exact canonical
        · rw [moment, eventSeq, show (grown request payload handling.now start).run =
            start.run.addTask request handling.now from rfl, hasWorkspace_addTask]
          exact mirrored
        · rw [moment]
          exact saved
      obtain ⟨_, returned⟩ := returns
      rw [returned] at outcome
      cases outcome

/-- The new task is sent where it is submitted. -/
theorem submitDynamicTask_settles
    {start current : DynamicProcess}
    (relies : Relies primitives handling sending request payload data start)
    (frame : Frame (grown request payload handling.now start) current)
    (payloads : current.payloads = (request.taskId, payload) :: start.payloads)
    (logged : Keyed request.requestId → Logged current request.taskId)
    (submitted : request.taskId ∈ current.run.submittedTasks) :
    Ensures (fun process => process = current)
      (submitDynamicTask primitives handling.environment sending request.taskId)
      (fun _ => Settles render request start)
      (fun _ => Settles render request start) := by
  rintro process rfl
  have sends : Keyed request.requestId →
      Sends primitives start handling sending payload := by
    intro keyed
    rw [frame.same.submittedTasks] at submitted
    exact relies.sends keyed
      (completed_of_submitted relies.invariant relies.fresh submitted)
  have unsent : ¬ Keyed request.requestId → Settles render request start process := by
    intro unkeyed
    exact (added_unsent relies.invariant relies.active relies.fresh frame logged
      fun keyed => absurd keyed unkeyed).settles relies.invariant relies.active
        relies.fresh relies.appends
  have sent : Settles render request start
      { process with sentTasks := process.sentTasks ++ [request.taskId] } :=
    (added_sent relies.invariant relies.active relies.fresh frame logged
      submitted).settles relies.invariant relies.active relies.fresh relies.appends
  have found : process.payloads.lookup request.taskId = some payload := by
    rw [payloads, List.lookup_cons_self]
  unfold submitDynamicTask submitTask
  rw [found]
  dsimp only
  cases prepared : TaskPreparation.prepareTaskResources primitives
      handling.environment payload with
  | error raised =>
      refine unsent fun keyed => ?_
      obtain ⟨_, same⟩ := (sends keyed).prepared
      rw [same] at prepared
      cases prepared
  | ok _ =>
      cases sending with
      | ok _ =>
          exact sent
      | error raised =>
          refine unsent fun keyed => ?_
          have same := (sends keyed).sent
          cases same

theorem appendDynamicTask_settles
    (invariant : Invariant process)
    (fresh : request.taskId ∉ process.run.tasks.map Prod.fst)
    (named : data.get "task_id" = .str request.taskId)
    (whole :
      Whole primitives process (.append request payload data handling sending)) :
    Ensures
      (fun current => current = { process with moments := handling.moments })
      (appendDynamicTask render primitives handling sending request payload data)
      (fun _ => Settles render request process)
      (fun _ => Settles render request process) := by
  let start : DynamicProcess := { process with moments := handling.moments }
  have here : Invariant start :=
    ⟨invariant.base.changeMoments _, invariant.calm, invariant.waits⟩
  refine ensures_get ?_
  rintro current rfl
  rcases DynamicReadiness.appendTask_outcomes render process.run request
      handling.now with
    ⟨passed, ended, raised, result⟩ | ⟨same, others⟩ | ⟨active, appends, built, added⟩
  · have alike : Alike process.run (process.run.timedOutRun render handling.now) :=
      alike_ended ⟨rfl, rfl, rfl, rfl, List.nil_subset _, List.nil_subset _⟩ rfl rfl
    dsimp only
    rw [ended, result]
    refine ensures_via (fun _ => Settles render request process) ?_ fun _ =>
      ensures_throw fun _ after => after
    apply ensures_modify
    rintro current rfl
    refine ⟨here.alike alike, fun keyed => ?_⟩
    have waiting := (whole keyed).1
    rw [passed] at waiting
    cases waiting
  · dsimp only
    rw [same]
    refine ensures_via (fun _ => Settles render request process) ?_ fun _ => ?_
    · apply ensures_modify
      rintro current rfl
      exact ⟨here, fun _ => Or.inl rfl⟩
    · cases outcome : (process.run.appendTask render request handling.now).result with
      | error raised =>
          exact ensures_throw fun _ after => after
      | ok result =>
          obtain ⟨taskId, idempotent⟩ := result
          cases idempotent with
          | true =>
              exact ensures_pure fun _ after => after
          | false =>
              exact absurd outcome (others taskId)
  · have relies : Relies primitives handling sending request payload data start := {
      invariant := here
      active := active
      fresh := fresh
      named := named
      moments := rfl
      appends := appends
      persists := fun keyed => by
        obtain ⟨numbered, canonical⟩ := ((whole keyed).2 active appends built).1
        exact ⟨numbered, canonical⟩
      sends := fun keyed completed => by
        obtain ⟨canonical, mirrored, saved, prepared, sent⟩ :=
          ((whole keyed).2 active appends built).2 completed
        exact ⟨canonical, mirrored, saved, prepared, sent⟩ }
    dsimp only
    rw [added]
    refine ensures_via
      (fun _ current => current =
        { start with run := start.run.addTask request handling.now })
      ?_ fun _ => ?_
    · apply ensures_modify
      rintro current rfl
      rfl
    refine ensures_via
      (fun _ current => current = grown request payload handling.now start)
      ?_ fun _ => ?_
    · apply ensures_modify
      rintro current rfl
      rfl
    refine ensures_bind (recordEvent_settles relies) fun _ => ?_
    refine ensures_get fun current recorded => ?_
    obtain ⟨frame, payloads, logged⟩ := recorded
    split
    · next submitted =>
      have submits : Ensures (fun process => process = current)
          (submitDynamicTask primitives handling.environment sending request.taskId)
          (fun _ => Settles render request start)
          (fun _ => Settles render request start) :=
        submitDynamicTask_settles relies frame payloads logged submitted
      exact submits
    · next unsubmitted =>
      refine ensures_pure ?_
      rintro after rfl
      exact (added_unsent here active fresh frame logged
        fun _ => unsubmitted).settles here active fresh appends

end Calling

/-! ## Runs -/

theorem Invariant.retrySafe
    (invariant : Invariant process) :
    RetrySafe process where
  once := invariant.base.orderly.distinct
  logged := invariant.base.logged
  sent := by
    intro active idle entry member keyed completed
    obtain ⟨submissions, sound⟩ := invariant.base.sound active
    have known : entry.1 ∈ DynamicReadiness.taskIds process.run := by
      rw [DynamicReadiness.taskIds_eq_named]
      exact List.mem_map_of_mem member
    have submitted : entry.1 ∈ process.run.submittedTasks := by
      rcases sound.progress.one entry.1 known with ⟨pending, _⟩ | ⟨submitted, _⟩
      · obtain ⟨parent, isParent, missing⟩ := sound.progress.waiting entry.1 pending
        exact absurd (completed parent isParent) missing
      · exact submitted
    rcases invariant.base.handed active entry member keyed submitted with sent |
      ⟨other, continuation, found, ready, inside, _, undispatched⟩
    · exact sent
    · rw [invariant.calm idle active other continuation found ready inside] at undispatched
      cases undispatched

/-- A step that meets the condition keeps the invariant. -/
theorem step_invariant
    {render : Time → PyStr}
    {primitives : Primitives}
    {process after : DynamicProcess}
    {action : Action}
    (invariant : Invariant process)
    (whole : Whole primitives process action)
    (stepped : step? render primitives process action = some after) :
    Invariant after := by
  cases action with
  | append request payload data handling sending =>
      simp only [step?, Option.ite_none_left_eq_some, Option.some.injEq, not_or,
        not_not] at stepped
      obtain ⟨⟨fresh, named⟩, rfl⟩ := stepped
      have settles : Ensures
          (fun current => current = { process with moments := handling.moments })
          (appendDynamicTask render primitives handling sending request payload data)
          (fun _ => Settles render request process)
          (fun _ => Settles render request process) :=
        appendDynamicTask_settles invariant fresh named whole
      unfold leaving
      cases outcome : appendDynamicTask render primitives handling sending request
          payload data { process with moments := handling.moments } with
      | ok _ after =>
          exact (settles.returned rfl outcome).1
      | error _ after =>
          exact (settles.raised rfl outcome).1
  | receive message handling =>
      simp only [step?, DynamicMonitor.step?, Option.ite_none_right_eq_some,
        Option.some.injEq] at stepped
      obtain ⟨⟨idle, _⟩, rfl⟩ := stepped
      have quiet := invariant.calm (Option.isNone_iff_eq_none.mp idle)
      exact handle_invariant primitives ⟨invariant.base, quiet.waitsFor message⟩ whole
  | retry handling =>
      simp only [step?, DynamicMonitor.step?, Option.map_eq_some_iff] at stepped
      obtain ⟨message, waiting, rfl⟩ := stepped
      exact handle_invariant primitives
        ⟨invariant.base, invariant.waits message waiting⟩ (whole message waiting)
  | call call handling =>
      simp only [step?, DynamicMonitor.step?, Option.some.injEq] at stepped
      subst stepped
      exact leaving_invariant (operate_invariant render handling call) invariant

theorem step_appendSafe
    {render : Time → PyStr}
    {primitives : Primitives}
    {action : Action}
    (invariant : Invariant process)
    (whole : Whole primitives process action) :
    AppendSafe render primitives process action := by
  cases action with
  | append request payload data handling sending =>
      intro keyed after stepped
      simp only [step?, Option.ite_none_left_eq_some, Option.some.injEq, not_or,
        not_not] at stepped
      obtain ⟨⟨fresh, named⟩, rfl⟩ := stepped
      have settles : Ensures
          (fun current => current = { process with moments := handling.moments })
          (appendDynamicTask render primitives handling sending request payload data)
          (fun _ => Settles render request process)
          (fun _ => Settles render request process) :=
        appendDynamicTask_settles invariant fresh named whole
      unfold leaving
      cases outcome : appendDynamicTask render primitives handling sending request
          payload data { process with moments := handling.moments } with
      | ok _ after =>
          exact (settles.returned rfl outcome).2 keyed
      | error _ after =>
          exact (settles.raised rfl outcome).2 keyed
  | receive message handling =>
      trivial
  | retry handling =>
      trivial
  | call call handling =>
      trivial

theorem created_invariant
    (runId : PyStr)
    (maxTasks : Int)
    (timeoutSeconds : Option Time)
    (fileContext : PyVal)
    (now : Time) :
    Invariant (created runId maxTasks timeoutSeconds fileContext now) where
  base :=
    { orderly := created_orderly runId maxTasks timeoutSeconds fileContext now
      logged := fun _ member => absurd member List.not_mem_nil
      sound := fun _ => ⟨[], DynamicReadiness.created_sound runId maxTasks
        timeoutSeconds fileContext now⟩
      handed := fun _ _ member => absurd member List.not_mem_nil
      settled := fun _ _ found => by cases found }
  calm := fun _ _ _ _ found => by cases found
  waits := fun _ waiting => by cases waiting

/--
Where the append of a task with a request id comes before the deadline, its event is
persisted and a task without missing parents is sent, every task with a request id
is logged, sent once, and sent when its parents have completed; and after every
append the run is as before or a replay finds its append complete.
-/
theorem appends_retrySafe
    (render : Time → PyStr)
    (primitives : Primitives)
    (runId : PyStr)
    (maxTasks : Int)
    (timeoutSeconds : Option Time)
    (fileContext : PyVal)
    (now : Time)
    (actions : List Action)
    (met :
      EveryStep (step? render primitives) (Whole primitives)
        (created runId maxTasks timeoutSeconds fileContext now) actions) :
    EveryState (step? render primitives) RetrySafe
        (created runId maxTasks timeoutSeconds fileContext now) actions ∧
      EveryStep (step? render primitives) (AppendSafe render primitives)
        (created runId maxTasks timeoutSeconds fileContext now) actions := by
  have initially :=
    created_invariant runId maxTasks timeoutSeconds fileContext now
  constructor
  · intro leading rest reached split executed
    have kept := everyState_of_everyStep
      (fun _ _ _ invariant whole stepped => step_invariant invariant whole stepped)
      initially met leading rest reached split executed
    exact kept.retrySafe
  · exact everyStep_of_invariant
      (fun _ _ _ invariant whole stepped => step_invariant invariant whole stepped)
      (fun _ _ invariant whole => step_appendSafe invariant whole) initially met

/-- A CPU task. -/
def appendedTask : WorkflowTask where
  taskName := "a"
  taskKind := .cpu
  resources := []
  declaredResources := []
  modelAnchor := []
  codeStr := .str "def a(): pass"
  codeSer := .null
  inputParams := []

/-- The digests are constants. -/
def appendPrimitives : Primitives where
  str := fun _ => ""
  fingerprint := fun _ =>
    "5a045cf701fb0799396b68c2ab8fc011bc43dee8ba32b5d191278f4e1e231205"
  codeDtype := fun _ => .ok ""

/-- A handling whose writes all have the same faults. -/
def appendHandling (faults : Faults) : DynamicHandling where
  environment := ⟨.absent, fun _ => .ok none⟩
  now := 1
  manifest := .ok .null
  observation := .ok (.dict [])
  published := .ok ()
  artifactError := .null
  moments := [⟨"2026-01-01T00:00:01", 1, faults⟩]

/-- The request of a task without parents. -/
def keyedRequest (taskId : TaskId) : DynamicRun.AppendRequest where
  taskId := taskId
  taskName := "a"
  requestId := some "request"
  parents := []
  buildError := none

/-- The append of the task, with faults of its writes. -/
def keyedAppend
    (taskId : TaskId)
    (faults : Faults) :
    Action :=
  .append (keyedRequest taskId) appendedTask [("task_id", .str taskId)]
    (appendHandling faults) (.ok ())

/-- An append that goes through, and its replay. -/
theorem replayed_append_retrySafe :
    EveryState (step? (fun _ => "") appendPrimitives) RetrySafe
        (created "run" 10 none .null 0)
        [keyedAppend "a" ⟨.none, .none, .none⟩, keyedAppend "b" ⟨.none, .none, .none⟩] ∧
      EveryStep (step? (fun _ => "") appendPrimitives)
        (AppendSafe (fun _ => "") appendPrimitives) (created "run" 10 none .null 0)
        [keyedAppend "a" ⟨.none, .none, .none⟩,
          keyedAppend "b" ⟨.none, .none, .none⟩] := by
  refine appends_retrySafe (fun _ => "") appendPrimitives _ _ _ _ _ _ ?_
  intro process stepped
  have first : ((step? (fun _ => "") appendPrimitives (created "run" 10 none .null 0)
      (keyedAppend "a" ⟨.none, .none, .none⟩)).all fun process =>
        !process.run.deadlinePassed 1 &&
          (process.run.requestIds.lookup (PyStr.ofString "request")).isSome) = true := by
    decide +kernel
  rw [stepped, Option.all_some, Bool.and_eq_true, Bool.not_eq_true'] at first
  refine ⟨fun _ => ⟨rfl, fun _ _ _ => ⟨⟨?_, by decide⟩, fun _ => ?_⟩⟩,
    fun _ _ => ⟨fun _ => ⟨first.1, fun _ appends => ?_⟩, trivial⟩⟩
  · exact fun _ member => absurd member List.not_mem_nil
  · have prepared : (TaskPreparation.prepareTaskResources appendPrimitives
        (appendHandling ⟨.none, .none, .none⟩).environment appendedTask).isOk =
          true := by
      decide +kernel
    refine ⟨rfl, fun workspace => absurd workspace (by decide), rfl, ?_, rfl⟩
    cases outcome : TaskPreparation.prepareTaskResources appendPrimitives
        (appendHandling ⟨.none, .none, .none⟩).environment appendedTask with
    | ok result =>
        exact ⟨result, rfl⟩
    | error raised =>
        rw [outcome] at prepared
        cases prepared
  · have unanswered : process.run.requestIds.lookup (PyStr.ofString "request") = none :=
      appends.unanswered
    rw [unanswered] at first
    cases first.2

/--
The write of the event fails: the call raises, and the run has the task with its
request id. The replay returns the task, which is neither logged nor ever sent.
-/
theorem failed_append_lost :
    ¬ (EveryState (step? (fun _ => "") appendPrimitives) RetrySafe
        (created "run" 10 none .null 0)
        [keyedAppend "a" ⟨.before, .none, .none⟩,
          keyedAppend "b" ⟨.none, .none, .none⟩] ∧
      EveryStep (step? (fun _ => "") appendPrimitives)
        (AppendSafe (fun _ => "") appendPrimitives) (created "run" 10 none .null 0)
        [keyedAppend "a" ⟨.before, .none, .none⟩,
          keyedAppend "b" ⟨.none, .none, .none⟩]) := by
  rintro ⟨every, _⟩
  have ends : (run? (step? (fun _ => "") appendPrimitives)
      (created "run" 10 none .null 0)
      [keyedAppend "a" ⟨.before, .none, .none⟩,
        keyedAppend "b" ⟨.none, .none, .none⟩]).any (fun process =>
          !process.run.isTerminal && process.retrying.isNone &&
            decide ((PyStr.ofString "a", some (PyStr.ofString "request")) ∈
              named process.run) &&
            (parentsOf process.run "a").isEmpty &&
            !decide (PyStr.ofString "a" ∈ process.sentTasks)) = true := by
    decide +kernel
  obtain ⟨process, executed, facts⟩ := (Option.any_eq_true _ _).mp ends
  simp only [Bool.and_eq_true, Bool.not_eq_true', decide_eq_true_eq,
    decide_eq_false_iff_not, List.isEmpty_iff, Option.isNone_iff_eq_none] at facts
  obtain ⟨⟨⟨⟨live, idle⟩, member⟩, alone⟩, unsent⟩ := facts
  have safe := every _ [] process rfl executed
  refine unsent (safe.sent live idle _ member ⟨"request", by decide, rfl⟩ ?_)
  intro parent isParent
  rw [show parentsOf process.run (PyStr.ofString "a") = [] from alone] at isParent
  cases isParent

end Maze.Core.DynamicAppend
