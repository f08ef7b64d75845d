import Maze.Core.StaticReadiness
import Maze.Library.Transition

namespace Maze.Core.StaticCore

open Maze.Python
open Maze.Library.Fallible
open Maze.Library.Transition
open AttemptGate (MessageType)
open SchedulerMessage (finishIdentity finishIdentity_pyEq artifactFailure_workflow)

/-!
# What a static run sends

Whatever the order of the messages, and wherever a save or a file fails, a task
is sent once and only when all of its predecessors have succeeded. That nothing
which has become ready is left behind needs more: a continuation that stops at
another exception than `OSError` is not taken up again.
-/

/-! ## The messages that finish no task -/

/-- A transaction that is rolled back leaves the core as it was. -/
theorem sameCore_rollback
    {start after : StaticProcess}
    (untouched : Untouched start after) :
    SameCore start (rollback start after) where
  workflow := untouched.workflow
  completedTasks := untouched.completedTasks
  sentTasks := untouched.sentTasks
  retrying := untouched.retrying
  gate := rfl
  progress := StaticRun.SameProgress.refl start.run
  continuations := fun _ => rfl

variable
  {data : PyDict}
  {start : StaticProcess}
  {taskId : TaskId}
  {process : StaticProcess}
  {rendering : Rendering}
  {handling : Handling}
  {gate : AttemptGate.Gate}
  {messageType : MessageType}
  {message : SchedulerMessage}
  {continuation : FinishContinuation}
  {primitives : Primitives}

/-- The gate has let a message through. -/
theorem follows_accept
    (accepted :
      AttemptGate.acceptTaskAttemptEvent messageType data start.gate =
        .ok (some gate)) :
    Follows start { start with gate := gate } where
  workflow := rfl
  completedTasks := rfl
  sentTasks := rfl
  retrying := rfl
  gate := fun _ terminal => AttemptGate.accept_terminal accepted terminal
  succeeded := StaticRun.SameSucceeded.refl start.run
  continuations := fun _ => rfl

/-- The same tasks have succeeded, and a run that has ended has not begun again. -/
def Marked (start process : StaticProcess) : Prop :=
  Follows start process ∧
    (start.run.isTerminal = true → process.run.isTerminal = true)

theorem SameCore.marked
    {start process : StaticProcess}
    (same : SameCore start process) :
    Marked start process :=
  ⟨same.follows, fun terminal => same.progress.terminal.trans terminal⟩

theorem Ended.marked
    {start process : StaticProcess}
    (ended : Ended start process) :
    Marked start process :=
  ⟨ended.1, fun _ => ended.2⟩

theorem handlePending_ensures
    (handling : Handling)
    (data : PyDict) :
    Ensures (fun process => process = start) (handlePending handling data)
      (fun _ => SameCore start) (fun _ => SameCore start) := by
  have refl := SameCore.refl start
  refine ensures_get fun process same => ?_
  subst same
  split
  · split
    · next taskId _ =>
      refine ensures_via (fun _ => SameWith process process.saves) ?_ fun _ => ?_
      · apply ensures_modify
        rintro current rfl
        exact ⟨refl.changeRun
          (StaticRun.sameProgress_markTaskPending current.run taskId data)
          fun _ => rfl, rfl⟩
      · refine ensures_bind (recordStaticEvent_ensures _ _ _ _) fun _ => ?_
        exact ensures_pure fun _ recorded => recorded.1.1
    · exact ensures_throw fun current same => same ▸ refl
  · exact ensures_pure fun current same => same ▸ refl

/-- A transaction leaves a marked run where it returns, and undoes itself else. -/
theorem restoring_ensures
    {commit : CoreCall Unit}
    (accepted :
      AttemptGate.acceptTaskAttemptEvent messageType data start.gate =
        .ok (some gate))
    (committed :
      Ensures (fun process => process = { start with gate := gate }) commit
        (fun _ => Marked { start with gate := gate })
        (fun _ => Untouched { start with gate := gate })) :
    Ensures (fun process => process = start)
      (restoring rollback do
        modify fun process => { process with gate := gate }
        commit)
      (fun _ => Marked start) (fun _ => Marked start) := by
  have follows := follows_accept accepted
  refine ensures_restoring fun process same => ?_
  subst same
  refine ensures_via (fun _ current => current = { process with gate := gate }) ?_
    fun _ => ?_
  · apply ensures_modify
    rintro current rfl
    rfl
  · refine committed.weaken (fun _ same => same) ?_ ?_
    · intro _ after marked
      exact ⟨follows.trans marked.1, marked.2⟩
    · intro _ after untouched
      refine (sameCore_rollback ⟨?_, ?_, ?_, ?_⟩).marked
      · exact untouched.workflow
      · exact untouched.completedTasks
      · exact untouched.sentTasks
      · exact untouched.retrying

/-- The task of an accepted message has not succeeded. -/
theorem Coherent.unfinished
    (coherent : Coherent start)
    (accepted :
      AttemptGate.acceptTaskAttemptEvent messageType data start.gate =
        .ok (some gate))
    (addressed : data.get "workflow_id" = .str start.run.runId)
    (named : data.get "task_id" = .str taskId) :
    start.run.hasSucceeded taskId = false := by
  have key_eq : ∀ key : AttemptGate.TaskKey,
      data.get "workflow_id" = .str key.1 → data.get "task_id" = .str key.2 →
        key = (start.run.runId, taskId) := by
    intro key workflow task
    have run := PyVal.str.inj (workflow.symm.trans addressed)
    have name := PyVal.str.inj (task.symm.trans named)
    exact Prod.ext run name
  have open_ : start.gate.terminal (start.run.runId, taskId) = false := by
    rcases AttemptGate.accept_cases accepted with ⟨key, rejected, _⟩ |
      ⟨key, record, admitted, _⟩
    · rw [← key_eq key rejected.workflow rejected.task]
      exact rejected.not_terminal
    · obtain ⟨workflow, task, _⟩ :=
        AttemptGate.taskAttemptIdentity?_eq_some admitted.parsed
      rw [← key_eq key workflow task]
      exact admitted.not_terminal
  cases succeeded : start.run.hasSucceeded taskId with
  | false =>
      rfl
  | true =>
      rw [coherent.terminal taskId succeeded] at open_
      cases open_

/-- A message that finishes no task only marks the run. -/
theorem handleAccepted_marks
    (rendering : Rendering)
    (primitives : Primitives)
    (handling : Handling)
    (coherent : Coherent start)
    (ordinary : messageType ≠ .finishTask)
    (accepted :
      AttemptGate.acceptTaskAttemptEvent messageType data start.gate =
        .ok (some gate))
    (addressed : data.get "workflow_id" = .str start.run.runId)
    (named : data.get "task_id" = .str taskId) :
    Ensures (fun process => process = start)
      (handleAccepted rendering primitives handling messageType gate taskId data)
      (fun _ => Marked start) (fun _ => Marked start) := by
  let passed : StaticProcess := { start with gate := gate }
  have unfinished : passed.run.hasSucceeded taskId = false :=
    coherent.unfinished accepted addressed named
  have refl := SameCore.refl passed
  cases messageType with
  | startTask =>
      exact restoring_ensures accepted ((commitStart_ensures handling data
        unfinished).weaken (fun _ same => same ▸ refl)
        (fun _ _ same => same.marked) fun _ _ same => same.toUntouched)
  | taskRetry =>
      exact restoring_ensures accepted ((commitRetry_ensures handling _
        unfinished).weaken (fun _ same => same ▸ refl)
        (fun _ _ same => same.marked) fun _ _ same => same.toUntouched)
  | taskException =>
      exact restoring_ensures accepted ((commitException_ensures handling _
        unfinished).weaken (fun _ same => same ▸ refl.follows)
        (fun _ _ ended => ended.marked) fun _ _ untouched => untouched)
  | finishTask =>
      exact absurd rfl ordinary

theorem handleAttempt_marks
    (rendering : Rendering)
    (primitives : Primitives)
    (handling : Handling)
    (coherent : Coherent start)
    (ordinary : messageType ≠ .finishTask)
    (addressed : data.get "workflow_id" = .str start.run.runId) :
    Ensures (fun process => process = start)
      (handleAttempt rendering primitives handling messageType data)
      (fun _ => Marked start) (fun _ => Marked start) := by
  have refl := (SameCore.refl start).marked
  refine ensures_get fun process same => ?_
  subst same
  cases outcome : AttemptGate.acceptTaskAttemptEvent messageType data
      process.gate with
  | error raised =>
      rintro current rfl
      exact refl
  | ok admission =>
      refine ensures_via (fun found current => found = admission ∧
        current = process) (ensures_pure fun _ same => ⟨rfl, same⟩) fun found => ?_
      by_cases same : found = admission
      case neg =>
        intro current impossible
        exact absurd impossible.1 same
      subst same
      cases found with
      | none =>
          rw [if_neg ordinary]
          exact ensures_pure fun _ same => same.2 ▸ refl
      | some gate =>
          dsimp only
          split
          · next taskId named =>
            split
            · exact (handleAccepted_marks rendering primitives handling coherent
                ordinary outcome addressed named).weaken (fun _ same => same.2)
                (fun _ _ marked => marked) fun _ _ marked => marked
            · exact ensures_pure fun _ same => same.2 ▸ refl
          · exact ensures_throw fun _ same => same.2 ▸ refl

/-! ## The messages that finish a task -/

/-- A finish message that the gate refuses belongs to a continuation. -/
structure Addresses
    (data : PyDict)
    (process : StaticProcess)
    (taskId : TaskId)
    (continuation : FinishContinuation) : Prop where
  named : data.get "task_id" = .str taskId
  refused :
    AttemptGate.acceptTaskAttemptEvent .finishTask data process.gate = .ok none
  identity :
    (PyVal.dict continuation.attemptIdentity).pyEq
      (.dict (finishIdentity data)) = true

/-- The transaction of a finish message, from the gate on. -/
def finishTransaction
    (rendering : Rendering)
    (handling : Handling)
    (gate : AttemptGate.Gate)
    (taskId : TaskId)
    (data : PyDict) :
    CoreCall Bool :=
  restoring rollback do
    modify fun process => { process with gate := gate }
    commitFinish rendering handling taskId data

/-- A finish message sets the continuation of a task to work in a process. -/
inductive Continues
    (rendering : Rendering)
    (handling : Handling)
    (data : PyDict)
    (start : StaticProcess) :
    TaskId → StaticProcess → Prop where
  | committed
      {gate : AttemptGate.Gate}
      {taskId : TaskId}
      {middle : StaticProcess}
      (accepted :
        AttemptGate.acceptTaskAttemptEvent .finishTask data start.gate =
          .ok (some gate))
      (named : data.get "task_id" = .str taskId)
      (taken : (start.listening && !start.run.isTerminal) = true)
      (transaction :
        finishTransaction rendering handling gate taskId data start =
          .ok true middle) :
      Continues rendering handling data start taskId middle
  | resumed
      {taskId : TaskId}
      {continuation : FinishContinuation}
      (found : start.run.continuation? taskId = some continuation)
      (addresses : Addresses data start taskId continuation) :
      Continues rendering handling data start taskId start

/-- The process in which a continuation is set to work. -/
structure Begins
    (data : PyDict)
    (start : StaticProcess)
    (taskId : TaskId)
    (middle : StaticProcess) : Prop where
  coherent : Coherent middle
  workflow : middle.workflow = start.workflow
  retrying : middle.retrying = start.retrying
  runId : middle.run.runId = start.run.runId
  others :
    ∀ other, other ≠ taskId →
      middle.run.continuation? other = start.run.continuation? other
  here :
    ∃ continuation,
      middle.run.continuation? taskId = some continuation ∧
        Addresses data middle taskId continuation

/-- A finish that has been recorded keeps the process coherent. -/
theorem Coherent.committed
    {start middle : StaticProcess}
    {identity : PyDict}
    (coherent : Coherent start)
    (unfinished : start.run.hasSucceeded taskId = false)
    (untouched : Untouched start middle)
    (gate :
      ∀ key, start.gate.terminal key = true ∨ key = (start.run.runId, taskId) →
        middle.gate.terminal key = true)
    (more : StaticRun.OneMore start.run taskId middle.run)
    (fresh : Fresh identity continuation)
    (continuations :
      ∀ other, middle.run.continuation? other =
        if other = taskId then some continuation
        else start.run.continuation? other) :
    Coherent middle := by
  have unbegun : start.run.continuation? taskId = none := by
    cases found : start.run.continuation? taskId with
    | none =>
        rfl
    | some old =>
        have succeeded := (coherent.continued taskId old found).succeeded
        rw [unfinished] at succeeded
        cases succeeded
  have differs : ∀ other old, start.run.continuation? other = some old →
      other ≠ taskId := by
    rintro other old found rfl
    rw [unbegun] at found
    cases found
  have later : ∀ other old, start.run.continuation? other = some old →
      middle.run.continuation? other = some old := by
    intro other old found
    rw [continuations other, if_neg (differs other old found)]
    exact found
  have earlier : ∀ other old ready, middle.run.continuation? other = some old →
      ready ∈ old.readyTaskIds → start.run.continuation? other = some old := by
    intro other old ready found member
    rw [continuations other] at found
    split at found
    · cases found
      rw [fresh.readyTaskIds] at member
      exact absurd member List.not_mem_nil
    · exact found
  exact {
    known := fun other known => by
      rw [untouched.workflow]
      exact coherent.known other ((more.known other).symm.trans known)
    terminal := fun other succeeded => by
      rw [more.succeeded other, Bool.or_eq_true, decide_eq_true_eq] at succeeded
      rw [more.runId]
      rcases succeeded with before | same
      · exact gate _ (Or.inl (coherent.terminal other before))
      · exact gate _ (Or.inr (by rw [same]))
    finished := fun other succeeded => by
      rw [more.succeeded other, Bool.or_eq_true, decide_eq_true_eq] at succeeded
      rw [continuations other]
      split
      · rfl
      · next differ =>
        exact coherent.finished other (succeeded.resolve_right differ)
    completed := fun other completed => by
      rw [untouched.completedTasks] at completed
      rw [continuations other]
      split
      · rfl
      · exact coherent.completed other completed
    continued := fun other found present => by
      rw [continuations other] at present
      split at present
      · next same =>
        subst same
        cases present
        exact {
          succeeded := by simp [more.succeeded]
          advanced := by
            rw [fresh.workflowAdvanced, untouched.completedTasks]
            refine iff_of_false Bool.false_ne_true fun completed => ?_
            have begun := coherent.completed other completed
            rw [unbegun] at begun
            cases begun
          ready := by simp [fresh.readyTaskIds]
          sent := by simp [fresh.sentTaskIds]
          settled := by simp [fresh.completed] }
      · have old := coherent.continued other found present
        exact {
          succeeded := by simp [more.succeeded, old.succeeded]
          advanced := by
            rw [untouched.completedTasks]
            exact old.advanced
          ready := by
            rw [untouched.workflow, untouched.completedTasks]
            exact old.ready
          sent := by
            rw [untouched.sentTasks]
            exact old.sent
          settled := old.settled }
    once := fun first second firstFound secondFound ready firstIs secondIs inFirst
        inSecond =>
      coherent.once first second firstFound secondFound ready
        (earlier first firstFound ready firstIs inFirst)
        (earlier second secondFound ready secondIs inSecond) inFirst inSecond
    sent := fun ready sent => by
      rw [untouched.sentTasks] at sent
      rw [untouched.workflow]
      rcases coherent.sent ready sent with root | ⟨other, old, was, marked⟩
      · exact Or.inl root
      · exact Or.inr ⟨other, old, later other old was, marked⟩
    distinct := by
      rw [untouched.sentTasks]
      exact coherent.distinct
    roots := by
      rw [untouched.workflow, untouched.sentTasks]
      exact coherent.roots
    covered := fun ready => by
      rw [untouched.workflow, untouched.completedTasks]
      intro known some_ all
      obtain ⟨other, old, was, isReady⟩ :=
        coherent.covered ready known some_ all
      exact ⟨other, old, later other old was, isReady⟩ }

/-- What the transaction of an accepted finish message leaves behind. -/
theorem finishTransaction_ensures
    (rendering : Rendering)
    (handling : Handling)
    (coherent : Coherent start)
    (accepted :
      AttemptGate.acceptTaskAttemptEvent .finishTask data start.gate =
        .ok (some gate))
    (addressed : data.get "workflow_id" = .str start.run.runId)
    (named : data.get "task_id" = .str taskId) :
    Ensures (fun process => process = start)
      (finishTransaction rendering handling gate taskId data)
      (fun succeeded after =>
        (succeeded = false ∧ Ended start after) ∨
          (succeeded = true ∧ Begins data start taskId after))
      (fun _ => SameCore start) := by
  let passed : StaticProcess := { start with gate := gate }
  have unfinished : passed.run.hasSucceeded taskId = false :=
    coherent.unfinished accepted addressed named
  have follows := follows_accept accepted
  refine ensures_restoring fun process same => ?_
  subst same
  refine ensures_via (fun _ current => current = passed) ?_ fun _ => ?_
  · apply ensures_modify
    rintro current rfl
    rfl
  · refine (commitFinish_ensures rendering handling data unfinished).weaken
      (fun _ same => same) ?_ ?_
    · rintro succeeded after (⟨failed, ended⟩ | ⟨returned, untouched, sameGate,
        more, _, _, continuation, fresh, continuations⟩)
      · exact Or.inl ⟨failed, follows.trans ended.1, ended.2⟩
      · obtain ⟨key, record, admitted, remembered⟩ :=
          AttemptGate.accept_eq_some (by decide) accepted
        obtain ⟨workflow, task, _⟩ :=
          AttemptGate.taskAttemptIdentity?_eq_some admitted.parsed
        have key_eq : key = (process.run.runId, taskId) :=
          Prod.ext (PyVal.str.inj (workflow.symm.trans addressed))
            (PyVal.str.inj (task.symm.trans named))
        have finished : gate.terminal key = true := by
          rw [remembered]
          simp [AttemptGate.Gate.terminal, admitted.state, AttemptGate.nextState]
        have untouched : Untouched process after :=
          ⟨untouched.workflow, untouched.completedTasks, untouched.sentTasks,
            untouched.retrying⟩
        refine Or.inr ⟨returned, ?_, untouched.workflow, untouched.retrying,
          more.runId, ?_, continuation, ?_, named, ?_, ?_⟩
        · refine coherent.committed unfinished untouched ?_ more fresh
            continuations
          intro other terminal
          rw [sameGate]
          rcases terminal with before | same
          · exact follows.gate other before
          · exact (same.trans key_eq.symm) ▸ finished
        · intro other differ
          rw [continuations other, if_neg differ]
        · rw [continuations taskId, if_pos rfl]
        · rw [sameGate]
          exact AttemptGate.accept_of_terminal admitted.parsed finished
        · rw [fresh.identity]
          exact finishIdentity_pyEq admitted.parsed
    · intro _ after untouched
      refine sameCore_rollback ⟨?_, ?_, ?_, ?_⟩
      · exact untouched.workflow
      · exact untouched.completedTasks
      · exact untouched.sentTasks
      · exact untouched.retrying

/-- A continuation that is set to work begins in a coherent process. -/
theorem Continues.begins
    {start middle : StaticProcess}
    (continues : Continues rendering handling data start taskId middle)
    (coherent : Coherent start)
    (addressed : data.get "workflow_id" = .str start.run.runId) :
    Begins data start taskId middle := by
  cases continues with
  | committed accepted named _ transaction =>
      have outcome := (finishTransaction_ensures rendering handling coherent
        accepted addressed named).returned rfl transaction
      rcases outcome with ⟨impossible, _⟩ | ⟨_, begins⟩
      · cases impossible
      · exact begins
  | resumed found addresses =>
      exact ⟨coherent, rfl, rfl, rfl, fun _ _ => rfl, _, found, addresses⟩

/-- Where the continuation of a task stops, it stops at an `OSError`. -/
def OnCourse
    (primitives : Primitives)
    (environment : Environment)
    (taskId : TaskId)
    (middle : StaticProcess) : Prop :=
  ∀ continuation, middle.run.continuation? taskId = some continuation →
    ContinuesThrough primitives environment middle taskId continuation
      middle.saves

/-- No continuation has been set to work. -/
def Unfollowed
    (data : PyDict)
    (start after : StaticProcess) : Prop :=
  Marked start after ∧
    ∀ taskId continuation,
      start.run.continuation? taskId = some continuation →
        ¬ Addresses data start taskId continuation

/-- What a finish message comes to where it returns. -/
def Finished
    (rendering : Rendering)
    (handling : Handling)
    (data : PyDict)
    (start after : StaticProcess) : Prop :=
  Unfollowed data start after ∨
    ∃ taskId middle, Continues rendering handling data start taskId middle ∧
      Sent middle taskId after

/-- What a finish message comes to where it raises. -/
def Broken
    (rendering : Rendering)
    (primitives : Primitives)
    (handling : Handling)
    (data : PyDict)
    (start : StaticProcess)
    (raised : PyErr)
    (after : StaticProcess) : Prop :=
  Unfollowed data start after ∨
    ∃ taskId middle, Continues rendering handling data start taskId middle ∧
      Stopped middle taskId
        (middle.run.isTerminal = false ∧
          OnCourse primitives handling.environment taskId middle)
        raised after

section FinishMessages

variable
  {data : PyDict}
  {start : StaticProcess}
  (rendering : Rendering)
  (primitives : Primitives)
  (handling : Handling)

/-- A continuation at work ends sent, or stops. -/
theorem continueStaticFinish_begun
    {middle : StaticProcess}
    (coherent : Coherent start)
    (addressed : data.get "workflow_id" = .str start.run.runId)
    (continues : Continues rendering handling data start taskId middle) :
    Ensures (fun process => process = middle)
      (continueStaticFinish primitives handling taskId)
      (fun _ => Finished rendering handling data start)
      (Broken rendering primitives handling data start) := by
  have begins := continues.begins coherent addressed
  obtain ⟨continuation, here, _⟩ := begins.here
  exact (continueStaticFinish_keeps primitives handling begins.coherent here
    (fun course : middle.run.isTerminal = false ∧
      OnCourse primitives handling.environment taskId middle => course.1)
    fun course => course.2 continuation here).weaken
    (fun _ same => same)
    (fun _ _ sent => Or.inr ⟨taskId, middle, continues, sent⟩)
    (fun _ _ stopped => Or.inr ⟨taskId, middle, continues, stopped⟩)

/-- A finish message that the gate has let through. -/
theorem handleAccepted_finishes
    (coherent : Coherent start)
    (accepted :
      AttemptGate.acceptTaskAttemptEvent .finishTask data start.gate =
        .ok (some gate))
    (addressed : data.get "workflow_id" = .str start.run.runId)
    (named : data.get "task_id" = .str taskId)
    (taken : (start.listening && !start.run.isTerminal) = true)
    (unaddressed :
      ∀ other continuation, start.run.continuation? other = some continuation →
        ¬ Addresses data start other continuation) :
    Ensures (fun process => process = start)
      (handleAccepted rendering primitives handling .finishTask gate taskId data)
      (fun _ => Finished rendering handling data start)
      (Broken rendering primitives handling data start) := by
  have transaction := finishTransaction_ensures rendering handling coherent
    accepted addressed named
  refine ensures_via
    (fun succeeded middle =>
      finishTransaction rendering handling gate taskId data start =
        .ok succeeded middle) ?_ fun succeeded => ?_
  · rintro process rfl
    cases outcome : finishTransaction rendering handling gate taskId data
        process with
    | ok succeeded middle =>
        rw [finishTransaction] at outcome
        rw [outcome]
    | error raised after =>
        have same := transaction.raised rfl outcome
        rw [finishTransaction] at outcome
        rw [outcome]
        exact Or.inl ⟨same.marked, unaddressed⟩
  · intro middle committed
    cases succeeded with
    | true =>
        exact continueStaticFinish_begun rendering primitives handling coherent
          addressed (.committed accepted named taken committed) middle rfl
    | false =>
        rcases transaction.returned rfl committed with ⟨_, ended⟩ |
          ⟨impossible, _⟩
        · exact Or.inl ⟨ended.marked, unaddressed⟩
        · cases impossible

/-- A finish message that the gate refuses. -/
theorem resumeFinish_finishes
    (coherent : Coherent start)
    (addressed : data.get "workflow_id" = .str start.run.runId)
    (refused :
      AttemptGate.acceptTaskAttemptEvent .finishTask data start.gate =
        .ok none) :
    Ensures (fun process => process = start)
      (resumeFinish primitives handling data)
      (fun _ => Finished rendering handling data start)
      (Broken rendering primitives handling data start) := by
  have refl := (SameCore.refl start).marked
  unfold resumeFinish
  split
  · next taskId named =>
    refine ensures_get fun process same => ?_
    subst same
    cases found : process.run.continuation? taskId with
    | none =>
        apply ensures_pure
        rintro current rfl
        refine Or.inl ⟨refl, fun other continuation present addresses => ?_⟩
        cases PyVal.str.inj (addresses.named.symm.trans named)
        rw [found] at present
        cases present
    | some continuation =>
        dsimp only
        split
        · next matched =>
          exact continueStaticFinish_begun rendering primitives handling coherent
            addressed (.resumed found ⟨named, refused, matched⟩)
        · next differs =>
          apply ensures_pure
          rintro current rfl
          refine Or.inl ⟨refl, fun other others present addresses => ?_⟩
          cases PyVal.str.inj (addresses.named.symm.trans named)
          cases found.symm.trans present
          exact differs addresses.identity
  · next unnamed =>
    apply ensures_pure
    rintro current rfl
    exact Or.inl ⟨refl, fun other _ _ addresses =>
      unnamed other addresses.named⟩

/-- What a finish message comes to. -/
theorem handleAttempt_finishes
    (coherent : Coherent start)
    (addressed : data.get "workflow_id" = .str start.run.runId) :
    Ensures (fun process => process = start)
      (handleAttempt rendering primitives handling .finishTask data)
      (fun _ => Finished rendering handling data start)
      (Broken rendering primitives handling data start) := by
  have refl := (SameCore.refl start).marked
  refine ensures_get fun process same => ?_
  subst same
  cases outcome : AttemptGate.acceptTaskAttemptEvent .finishTask data
      process.gate with
  | error raised =>
      rintro current rfl
      refine Or.inl ⟨refl, fun _ _ _ addresses => ?_⟩
      rw [addresses.refused] at outcome
      cases outcome
  | ok admission =>
      refine ensures_via (fun found current => found = admission ∧
        current = process) (ensures_pure fun _ same => ⟨rfl, same⟩) fun found => ?_
      by_cases same : found = admission
      case neg =>
        intro current impossible
        exact absurd impossible.1 same
      subst same
      cases found with
      | none =>
          dsimp only
          rw [if_pos rfl]
          exact (resumeFinish_finishes rendering primitives handling coherent
            addressed outcome).weaken (fun _ same => same.2)
            (fun _ _ finished => finished) fun _ _ broken => broken
      | some gate =>
          have unaddressed : ∀ taskId continuation,
              process.run.continuation? taskId = some continuation →
                ¬ Addresses data process taskId continuation := by
            intro _ _ _ addresses
            rw [addresses.refused] at outcome
            cases outcome
          dsimp only
          split
          · next taskId named =>
            split
            · next taken =>
              exact (handleAccepted_finishes rendering primitives handling
                coherent outcome addressed named taken unaddressed).weaken
                (fun _ same => same.2) (fun _ _ finished => finished)
                fun _ _ broken => broken
            · apply ensures_pure
              rintro current ⟨_, rfl⟩
              exact Or.inl ⟨refl, unaddressed⟩
          · apply ensures_throw
            rintro current ⟨_, rfl⟩
            exact Or.inl ⟨refl, unaddressed⟩

end FinishMessages

/-! ## One step -/

/-- The run has ended, or all is as it was. -/
def Left (start process : StaticProcess) : Prop :=
  Ended start process ∨ SameCore start process

theorem Left.marked
    {start process : StaticProcess}
    (left : Left start process) :
    Marked start process := by
  rcases left with ended | same
  · exact ended.marked
  · exact same.marked

/-- A stopped run has ended. -/
theorem stopWorkflow_ensures
    (handling : Handling) :
    Ensures (fun process => process = start) (stopWorkflow handling)
      (fun _ => Left start) (fun _ => Left start) := by
  refine ensures_via (fun _ => SameCore start) ?_ fun _ => ?_
  · apply ensures_modify
    rintro process rfl
    exact ⟨⟨rfl, rfl, rfl, rfl⟩, rfl, StaticRun.SameProgress.refl _, fun _ => rfl⟩
  refine ensures_via (fun _ => Ended start) ?_ fun _ => ?_
  · apply ensures_modify
    intro process same
    have cancelled := StaticRun.sameSucceeded_markCancelled process.run
      (.str "Workflow stopped")
    exact ⟨same.follows.trans
      ⟨⟨rfl, rfl, rfl, rfl⟩, fun _ terminal => terminal, cancelled,
        StaticRun.continuation?_markCancelled process.run _⟩,
      StaticRun.isTerminal_markCancelled process.run _⟩
  · refine ensures_get fun process ended => ?_
    refine ensures_bind ((recordStaticEvent_ended start _ _ _ _).weaken
      (fun _ same => same ▸ ended) (fun _ _ ended => ended)
      fun _ _ ended => Or.inl ended) fun _ => ?_
    exact ensures_pure fun _ ended => Or.inl ended

/-- Sweeping the deadlines at most ends the run. -/
theorem sweepDeadline_ensures
    (rendering : Rendering)
    (now : Time)
    (handling : Handling) :
    Ensures (fun process => process = start)
      (sweepDeadline rendering now handling)
      (fun _ => Left start) (fun _ => Left start) := by
  refine ensures_get fun process same => ?_
  subst same
  dsimp only
  split
  · next timedOut =>
    refine ensures_via (fun _ => Ended process) ?_ fun _ => ?_
    · apply ensures_modify
      rintro current rfl
      exact ⟨⟨⟨rfl, rfl, rfl, rfl⟩, fun _ terminal => terminal,
        StaticRun.sameSucceeded_markTimedOut rendering current.run now,
        StaticRun.continuation?_markTimedOut rendering current.run now⟩,
        StaticRun.isTerminal_markTimedOut rendering timedOut⟩
    · refine ensures_bind ((recordStaticEvent_ended process _ _ _ _).weaken
        (fun _ ended => ended) (fun _ _ ended => ended)
        fun _ _ ended => Or.inl ended) fun _ => ?_
      exact ensures_pure fun _ ended => Or.inl ended
  · apply ensures_pure
    rintro current rfl
    exact Or.inr (SameCore.refl current)

/-- What a call that is no message leaves behind. -/
theorem leaving_left
    {call : CoreCall Unit}
    (ensures :
      Ensures (fun current => current = { process with saves := handling.saves })
        call (fun _ => Left { process with saves := handling.saves })
        (fun _ => Left { process with saves := handling.saves })) :
    Left process (leaving handling call process) := by
  have saved : SameCore process { process with saves := handling.saves } :=
    (SameCore.refl process).changeFiles process.log handling.saves
  have left : ∀ current, Left { process with saves := handling.saves } current →
      Left process current := by
    rintro current (ended | same)
    · exact Or.inl ⟨saved.follows.trans ended.1, ended.2⟩
    · exact Or.inr (saved.trans same)
  unfold leaving
  cases outcome : call { process with saves := handling.saves } with
  | ok _ current =>
      exact left current (ensures.returned rfl outcome)
  | error _ current =>
      exact left current (ensures.raised rfl outcome)

/-- A coherent process whose waiting message is about its own run. -/
structure Sound (process : StaticProcess) : Prop where
  coherent : Coherent process
  addressed :
    ∀ message, process.retrying = some message →
      message.data.get "workflow_id" = .str process.run.runId

/-- The process is coherent still, and of the same run and workflow. -/
structure Kept (start after : StaticProcess) : Prop where
  coherent : Coherent after
  runId : after.run.runId = start.run.runId
  workflow : after.workflow = start.workflow

theorem Coherent.changeRetrying
    (coherent : Coherent process)
    (retrying : Option SchedulerMessage) :
    Coherent { process with retrying := retrying } where
  known := coherent.known
  terminal := coherent.terminal
  finished := coherent.finished
  completed := coherent.completed
  continued := fun taskId continuation found =>
    have continued := coherent.continued taskId continuation found
    ⟨continued.succeeded, continued.advanced, continued.ready, continued.sent,
      continued.settled⟩
  once := coherent.once
  sent := coherent.sent
  distinct := coherent.distinct
  roots := coherent.roots
  covered := coherent.covered

theorem Coherent.changeSaves
    (coherent : Coherent process)
    (saves : List Bool) :
    Coherent { process with saves := saves } :=
  coherent.follows ((SameCore.refl process).changeFiles process.log saves).follows

theorem Marked.kept
    {start after : StaticProcess}
    (coherent : Coherent start)
    (marked : Marked start after) :
    Kept start after :=
  ⟨coherent.follows marked.1, marked.1.succeeded.runId, marked.1.workflow⟩

theorem At.kept
    {start middle after : StaticProcess}
    (begins : Begins data start taskId middle)
    (at_ : At middle taskId continuation after) :
    Kept start after :=
  ⟨at_.coherent, at_.frame.progress.runId.trans begins.runId,
    at_.frame.workflow.trans begins.workflow⟩

/-- Whatever a message comes to, the process is coherent still. -/
theorem handleMessage_kept
    (rendering : Rendering)
    (primitives : Primitives)
    (handling : Handling)
    (messageType : MessageType)
    (data : PyDict)
    (coherent : Coherent start)
    (addressed : data.get "workflow_id" = .str start.run.runId) :
    Ensures (fun process => process = start)
      (handleAttempt rendering primitives handling messageType data)
      (fun _ => Kept start) (fun _ => Kept start) := by
  by_cases finishing : messageType = .finishTask
  · subst finishing
    refine (handleAttempt_finishes rendering primitives handling coherent
      addressed).weaken (fun _ same => same) ?_ ?_
    · rintro _ after (unfollowed | ⟨taskId, middle, continues, sent⟩)
      · exact unfollowed.1.kept coherent
      · obtain ⟨_, at_, _⟩ := sent
        exact at_.kept (continues.begins coherent addressed)
    · rintro _ after (unfollowed | ⟨taskId, middle, continues, stopped⟩)
      · exact unfollowed.1.kept coherent
      · obtain ⟨⟨_, at_⟩, _⟩ := stopped
        exact at_.kept (continues.begins coherent addressed)
  · exact (handleAttempt_marks rendering primitives handling coherent finishing
      addressed).weaken (fun _ same => same)
      (fun _ _ marked => marked.kept coherent)
      fun _ _ marked => marked.kept coherent

/-- The message that is kept is one about the run, so the process stays sound. -/
theorem Kept.retries
    {start after : StaticProcess}
    (kept : Kept start after)
    {retrying : Option SchedulerMessage}
    (addressed : ∀ message, retrying = some message →
      message.data.get "workflow_id" = .str start.run.runId) :
    Sound { after with retrying := retrying } ∧ after.workflow = start.workflow := by
  refine ⟨⟨kept.coherent.changeRetrying retrying, fun message waiting => ?_⟩,
    kept.workflow⟩
  exact (addressed message waiting).trans (congrArg PyVal.str kept.runId.symm)

/-- The message that is kept is the one that was handled. -/
theorem conclude_keeps
    {call : CoreCall Unit}
    (ensures :
      Ensures (fun process => process = start) call (fun _ => Kept start)
        (fun _ => Kept start))
    (addressed : message.data.get "workflow_id" = .str start.run.runId) :
    Sound (conclude message (call start)) ∧
      (conclude message (call start)).workflow = start.workflow := by
  have dropped {after : StaticProcess} (kept : Kept start after) :
      Sound { after with retrying := none } ∧ after.workflow = start.workflow :=
    kept.retries fun _ impossible => by cases impossible
  have waiting {after : StaticProcess} (kept : Kept start after) :
      Sound { after with retrying := some message } ∧
        after.workflow = start.workflow :=
    kept.retries fun _ same => by
      cases same
      exact addressed
  cases outcome : call start with
  | ok value after => exact dropped (ensures.returned rfl outcome)
  | error raised after =>
      have kept := ensures.raised rfl outcome
      cases raised <;> first | exact waiting kept | exact dropped kept

/-- However a message is handled, the process stays sound and of its workflow. -/
theorem handle_keeps
    (rendering : Rendering)
    (primitives : Primitives)
    (handling : Handling)
    (coherent : Coherent process)
    (addressed : message.data.get "workflow_id" = .str process.run.runId) :
    Sound (handle rendering primitives handling message process) ∧
      (handle rendering primitives handling message process).workflow =
        process.workflow := by
  have saved := coherent.changeSaves handling.saves
  unfold handle
  cases message with
  | pending data =>
      refine conclude_keeps ((handlePending_ensures handling data).weaken
        (fun _ same => same) ?_ ?_) addressed
      · exact fun _ _ same => same.marked.kept saved
      · exact fun _ _ same => same.marked.kept saved
  | attempt messageType data =>
      dsimp only
      split
      · refine ((SameCore.refl _).marked.kept saved).retries fun other same => ?_
        cases same
        exact (artifactFailure_workflow data handling.artifactError).trans addressed
      · exact conclude_keeps (handleMessage_kept rendering primitives handling
          messageType data saved addressed) addressed

/-- A process that is left stays sound. -/
theorem Left.sound
    {start after : StaticProcess}
    (sound : Sound start)
    (left : Left start after) :
    Sound after ∧ after.workflow = start.workflow := by
  have kept := left.marked.kept sound.coherent
  refine ⟨⟨kept.coherent, fun message waiting => ?_⟩, kept.workflow⟩
  rw [left.marked.1.retrying] at waiting
  exact (sound.addressed message waiting).trans (congrArg PyVal.str kept.runId.symm)

/-- Every step keeps the process sound, and no step changes the workflow. -/
theorem step_keeps
    {process after : StaticProcess}
    {action : Action}
    (sound : Sound process)
    (stepped : step? rendering primitives process action = some after) :
    Sound after ∧ after.workflow = process.workflow := by
  cases action with
  | receive message handling =>
      simp only [step?, Option.ite_none_right_eq_some, Option.some.injEq] at stepped
      obtain ⟨⟨_, addressed⟩, rfl⟩ := stepped
      exact handle_keeps rendering primitives handling sound.coherent addressed
  | retry handling =>
      simp only [step?, Option.map_eq_some_iff] at stepped
      obtain ⟨message, waiting, rfl⟩ := stepped
      exact handle_keeps rendering primitives handling sound.coherent
        (sound.addressed message waiting)
  | stop handling =>
      simp only [step?, Option.some.injEq] at stepped
      subst stepped
      exact (leaving_left (stopWorkflow_ensures handling)).sound sound
  | sweep now handling =>
      simp only [step?, Option.some.injEq] at stepped
      subst stepped
      exact (leaving_left (sweepDeadline_ensures rendering now handling)).sound sound

/-! ## Nothing ready is left behind -/

/--
In a run that goes on, every continuation has sent what is ready, or the message
that waits to be handled again belongs to it.
-/
def Following
    (message : Option SchedulerMessage)
    (process : StaticProcess) : Prop :=
  process.run.isTerminal = false →
    ∀ taskId continuation,
      process.run.continuation? taskId = some continuation →
        Settled continuation ∨
          ∃ data, message = some (.attempt .finishTask data) ∧
            Addresses data process taskId continuation

/-- Where no continuation waits for the message, any message will do. -/
theorem Following.marked
    {message other : Option SchedulerMessage}
    {start after : StaticProcess}
    (following : Following message start)
    (marked : Marked start after)
    (unaddressed :
      ∀ data, message = some (.attempt .finishTask data) →
        ∀ taskId continuation,
          start.run.continuation? taskId = some continuation →
            ¬ Addresses data start taskId continuation) :
    Following other after := by
  intro live taskId continuation found
  have earlier : start.run.isTerminal = false := by
    cases terminal : start.run.isTerminal with
    | false =>
        rfl
    | true =>
        rw [marked.2 terminal] at live
        cases live
  rw [marked.1.continuations] at found
  rcases following earlier taskId continuation found with settled |
    ⟨data, same, addresses⟩
  · exact Or.inl settled
  · exact absurd addresses (unaddressed data same taskId continuation found)

/-- A run that goes on where a continuation begins went on before. -/
theorem Continues.live
    {start middle : StaticProcess}
    (continues : Continues rendering handling data start taskId middle)
    (live : middle.run.isTerminal = false) :
    start.run.isTerminal = false := by
  cases continues with
  | committed _ _ taken _ =>
      simpa using (Bool.and_eq_true_iff.mp taken).2
  | resumed _ _ =>
      exact live

/-- The continuations of the other tasks are settled while one is at work. -/
theorem Continues.others_settled
    {start middle after : StaticProcess}
    (continues : Continues rendering handling data start taskId middle)
    (begins : Begins data start taskId middle)
    (at_ : At middle taskId continuation after)
    (following : Following (some (.attempt .finishTask data)) start)
    (live : after.run.isTerminal = false)
    {other : TaskId}
    {found : FinishContinuation}
    (differ : other ≠ taskId)
    (present : after.run.continuation? other = some found) :
    Settled found := by
  have earlier := continues.live (at_.frame.progress.terminal.symm.trans live)
  rw [at_.frame.others other differ, begins.others other differ] at present
  rcases following earlier other found present with settled |
    ⟨message, same, addresses⟩
  · exact settled
  · cases same
    obtain ⟨_, _, here⟩ := begins.here
    exact absurd
      (PyVal.str.inj (addresses.named.symm.trans here.named)) differ

/-- A continuation that has sent everything leaves nothing to follow. -/
theorem Sent.following
    {start middle after : StaticProcess}
    (sent : Sent middle taskId after)
    (continues : Continues rendering handling data start taskId middle)
    (begins : Begins data start taskId middle)
    (following : Following (some (.attempt .finishTask data)) start) :
    Following none after := by
  obtain ⟨settled, at_, isSettled⟩ := sent
  intro live other found present
  by_cases same : other = taskId
  · subst same
    cases at_.here.symm.trans present
    exact Or.inl isSettled
  · exact Or.inl (continues.others_settled begins at_ following live same present)

/-- A continuation that has stopped is followed by the message it belongs to. -/
theorem At.following
    {start middle after : StaticProcess}
    (at_ : At middle taskId continuation after)
    (continues : Continues rendering handling data start taskId middle)
    (begins : Begins data start taskId middle)
    (following : Following (some (.attempt .finishTask data)) start) :
    Following (some (.attempt .finishTask data)) after := by
  intro live other found present
  by_cases same : other = taskId
  · subst same
    cases at_.here.symm.trans present
    obtain ⟨begun, here, addresses⟩ := begins.here
    have identities := at_.frame.identities other
    rw [at_.here, here] at identities
    refine Or.inr ⟨data, rfl, addresses.named, ?_, ?_⟩
    · rw [at_.frame.gate]
      exact addresses.refused
    · rw [Option.some.inj identities]
      exact addresses.identity
  · exact Or.inl (continues.others_settled begins at_ following live same present)

/-- The condition on a message: where it sets a continuation to work, it goes well. -/
def MessageOnCourse
    (rendering : Rendering)
    (primitives : Primitives)
    (handling : Handling)
    (message : SchedulerMessage)
    (process : StaticProcess) : Prop :=
  ∀ data, message = .attempt .finishTask data →
    ∀ taskId middle,
      Continues rendering handling data { process with saves := handling.saves }
        taskId middle →
      middle.run.isTerminal = false →
        OnCourse primitives handling.environment taskId middle

/-- What waits changes which message is followed, and nothing else. -/
theorem Following.changeRetrying
    {message : Option SchedulerMessage}
    (following : Following message process)
    (retrying : Option SchedulerMessage) :
    Following message { process with retrying := retrying } := by
  intro live taskId continuation found
  rcases following live taskId continuation found with settled |
    ⟨data, same, addresses⟩
  · exact Or.inl settled
  · exact Or.inr ⟨data, same, addresses.named, addresses.refused,
      addresses.identity⟩

/-- The message is kept exactly where its continuation has stopped. -/
theorem conclude_following
    {call : CoreCall Unit}
    (ensures :
      Ensures (fun process => process = start) call
        (fun _ after => Following none after)
        (fun raised after =>
          Following none after ∨
            (Following (some message) after ∧
              (after.run.isTerminal = false → raised = .osError)))) :
    Following (conclude message (call start)).retrying
      (conclude message (call start)) := by
  have broaden : ∀ {after : StaticProcess} (other : Option SchedulerMessage),
      Following none after → Following other after := by
    intro after other following live taskId continuation found
    rcases following live taskId continuation found with settled |
      ⟨_, impossible, _⟩
    · exact Or.inl settled
    · cases impossible
  cases outcome : call start with
  | ok value after =>
      exact (ensures.returned rfl outcome).changeRetrying none
  | error raised after =>
      have kept : Following (some message) after := by
        rcases ensures.raised rfl outcome with settled | ⟨following, _⟩
        · exact broaden _ settled
        · exact following
      have dropped : raised ≠ .osError → Following none after := by
        intro other
        rcases ensures.raised rfl outcome with settled | ⟨_, only⟩
        · exact settled
        · intro live
          exact absurd (only live) other
      cases raised <;>
        first
        | exact kept.changeRetrying _
        | exact (dropped (by decide)).changeRetrying none

/-- A message on course is followed as long as anything of it is left. -/
theorem handle_following
    (rendering : Rendering)
    (primitives : Primitives)
    (handling : Handling)
    (coherent : Coherent process)
    (addressed : message.data.get "workflow_id" = .str process.run.runId)
    (following : Following (some message) process)
    (course : MessageOnCourse rendering primitives handling message process) :
    Following (handle rendering primitives handling message process).retrying
      (handle rendering primitives handling message process) := by
  let start : StaticProcess := { process with saves := handling.saves }
  have saved : Coherent start := coherent.changeSaves handling.saves
  have before : Following (some message) start := by
    intro live taskId continuation found
    rcases following live taskId continuation found with settled |
      ⟨data, same, addresses⟩
    · exact Or.inl settled
    · exact Or.inr ⟨data, same, addresses.named, addresses.refused,
        addresses.identity⟩
  unfold handle
  cases message with
  | pending data =>
      have none_ : ∀ after, SameCore start after → Following none after := by
        intro after same
        refine before.marked same.marked fun _ impossible => ?_
        cases impossible
      exact conclude_following ((handlePending_ensures handling data).weaken
        (fun _ same => same) (fun _ after same => none_ after same)
        fun _ after same => Or.inl (none_ after same))
  | attempt messageType data =>
      dsimp only
      split
      · next refused =>
        refine (before.marked (SameCore.refl start).marked ?_).changeRetrying _
        intro other same taskId continuation _ addresses
        cases same
        have accepted : AttemptGate.acceptTaskAttemptEvent .finishTask data
            process.gate = .ok none := addresses.refused
        rw [refused] at accepted
        cases accepted
      · by_cases finishing : messageType = .finishTask
        · subst finishing
          refine conclude_following ((handleAttempt_finishes rendering primitives
            handling saved addressed).weaken (fun _ same => same) ?_ ?_)
          · rintro _ after (⟨marked, unaddressed⟩ |
              ⟨taskId, middle, continues, sent⟩)
            · refine before.marked marked fun other same => ?_
              cases same
              exact unaddressed
            · exact sent.following continues (continues.begins saved addressed)
                before
          · rintro raised after (⟨marked, unaddressed⟩ |
              ⟨taskId, middle, continues, ⟨_, at_⟩, only⟩)
            · refine Or.inl (before.marked marked fun other same => ?_)
              cases same
              exact unaddressed
            · refine Or.inr ⟨at_.following continues
                (continues.begins saved addressed) before, fun live => ?_⟩
              have goesOn := at_.frame.progress.terminal.symm.trans live
              exact only ⟨goesOn, course data rfl taskId middle continues goesOn⟩
        · have none_ : ∀ after, Marked start after → Following none after := by
            intro after marked
            refine before.marked marked fun _ same => ?_
            cases same
            exact absurd rfl finishing
          exact conclude_following ((handleAttempt_marks rendering primitives
            handling saved finishing addressed).weaken (fun _ same => same)
            (fun _ after marked => none_ after marked)
            fun _ after marked => Or.inl (none_ after marked))

/-- The condition on a step: the message that it handles is on course. -/
def StaysOnCourse
    (rendering : Rendering)
    (primitives : Primitives)
    (process : StaticProcess) :
    Action → Prop
  | .receive message handling =>
      MessageOnCourse rendering primitives handling message process
  | .retry handling =>
      ∀ message, process.retrying = some message →
        MessageOnCourse rendering primitives handling message process
  | .stop _ | .sweep _ _ => True

/-- A step on course keeps following what is left of a message. -/
theorem step_following
    {process after : StaticProcess}
    {action : Action}
    (sound : Sound process)
    (following : Following process.retrying process)
    (course : StaysOnCourse rendering primitives process action)
    (stepped : step? rendering primitives process action = some after) :
    Following after.retrying after := by
  have left : ∀ current, Left process current →
      Following current.retrying current := by
    rintro current (ended | same) live
    · rw [ended.2] at live
      cases live
    · intro taskId continuation found
      rw [same.continuations] at found
      rw [same.retrying]
      rcases following (same.progress.terminal.symm.trans live) taskId
        continuation found with settled | ⟨data, waiting, addresses⟩
      · exact Or.inl settled
      · refine Or.inr ⟨data, waiting, addresses.named, ?_, addresses.identity⟩
        rw [same.gate]
        exact addresses.refused
  cases action with
  | receive message handling =>
      simp only [step?, Option.ite_none_right_eq_some, Option.some.injEq] at stepped
      obtain ⟨⟨idle, addressed⟩, rfl⟩ := stepped
      refine handle_following rendering primitives handling sound.coherent
        addressed ?_ course
      intro live taskId continuation found
      rcases following live taskId continuation found with settled |
        ⟨data, waiting, _⟩
      · exact Or.inl settled
      · rw [waiting] at idle
        cases idle
  | retry handling =>
      simp only [step?, Option.map_eq_some_iff] at stepped
      obtain ⟨message, waiting, rfl⟩ := stepped
      exact handle_following rendering primitives handling sound.coherent
        (sound.addressed message waiting) (waiting ▸ following)
        (course message waiting)
  | stop handling =>
      simp only [step?, Option.some.injEq] at stepped
      subst stepped
      exact left _ (leaving_left (stopWorkflow_ensures handling))
  | sweep now handling =>
      simp only [step?, Option.some.injEq] at stepped
      subst stepped
      exact left _ (leaving_left (sweepDeadline_ensures rendering now handling))

/-! ## The first state -/

theorem mem_taskIds_of_node
    (submission : Submission)
    (taskId : TaskId)
    (known : ((newRun submission).node? taskId).isSome = true) :
    taskId ∈ submission.workflow.taskIds := by
  obtain ⟨node, found⟩ := Option.isSome_iff_exists.mp known
  have member := List.mem_of_find?_eq_some found
  have named := StaticRun.node?_taskId found
  simp only [newRun, List.mem_map] at member
  obtain ⟨entry, inside, rfl⟩ := member
  rw [List.mem_insertionSort] at inside
  exact List.mem_map.mpr ⟨entry, inside, named⟩

/-- No task of a new run has succeeded. -/
theorem hasSucceeded_newRun
    (submission : Submission)
    (taskId : TaskId) :
    (newRun submission).hasSucceeded taskId = false := by
  unfold StaticRun.hasSucceeded
  cases found : (newRun submission).node? taskId with
  | none =>
      rfl
  | some node =>
      have member := List.mem_of_find?_eq_some found
      simp only [newRun, List.mem_map] at member
      obtain ⟨entry, _, rfl⟩ := member
      simp only [Option.any_some, decide_eq_false_iff_not, initialNode]
      split <;> simp

theorem submitted_coherent (submission : Submission) :
    Coherent (submitted submission) where
  known := fun taskId known => mem_taskIds_of_node submission taskId known
  terminal := fun taskId succeeded => by
    have fresh := hasSucceeded_newRun submission taskId
    exact absurd (succeeded.symm.trans fresh) (by decide)
  finished := fun taskId succeeded => by
    have fresh := hasSucceeded_newRun submission taskId
    exact absurd (succeeded.symm.trans fresh) (by decide)
  completed := fun taskId completed => absurd completed List.not_mem_nil
  continued := fun taskId continuation found => by
    cases found
  once := fun first second firstFound secondFound ready found => by
    cases found
  sent := fun ready sent => by
    have root := (List.mem_filter.mp sent).2
    exact Or.inl (List.isEmpty_iff.mp root)
  distinct := submission.workflow.distinct.filter _
  roots := fun taskId root => root
  covered := fun ready known some_ all => by
    obtain ⟨task, member⟩ := List.exists_mem_of_ne_nil _ some_
    exact absurd (all task member) List.not_mem_nil

theorem submitted_sound (submission : Submission) :
    Sound (submitted submission) :=
  ⟨submitted_coherent submission, fun _ impossible => by cases impossible⟩

theorem submitted_following (submission : Submission) :
    Following (submitted submission).retrying (submitted submission) := by
  intro _ taskId continuation found
  cases found

/-! ## The tasks that have been sent -/

/--
Each task has been sent at most once, and one that has predecessors only after
all of them had succeeded.
-/
structure SentInOrder (process : StaticProcess) : Prop where
  once : process.sentTasks.Nodup
  ready :
    ∀ taskId ∈ process.sentTasks,
      ∀ task ∈ process.workflow.predecessors taskId,
        process.run.hasSucceeded task = true

theorem Coherent.sentInOrder
    (coherent : Coherent process) :
    SentInOrder process where
  once := coherent.distinct
  ready := by
    intro taskId member task precedes
    rcases coherent.sent taskId member with root | ⟨other, found, present, marked⟩
    · rw [root] at precedes
      exact absurd precedes List.not_mem_nil
    · have continued := coherent.continued other found present
      have isReady := (continued.sent taskId marked).1
      obtain ⟨_, _, all⟩ := continued.ready taskId isReady
      obtain ⟨begun, here⟩ := Option.isSome_iff_exists.mp
        (coherent.completed task (all task precedes))
      exact (coherent.continued task begun here).succeeded

/--
Unless a message waits to be handled again or the run has ended, every task
whose predecessors have all succeeded has been sent.
-/
def NothingLeftBehind (process : StaticProcess) : Prop :=
  process.retrying = none → process.run.isTerminal = false →
    ∀ taskId ∈ process.workflow.taskIds,
      (∀ task ∈ process.workflow.predecessors taskId,
        process.run.hasSucceeded task = true) →
      taskId ∈ process.sentTasks

/-- Where every continuation has sent what is ready, nothing is left behind. -/
theorem Coherent.nothingLeftBehind
    (coherent : Coherent process)
    (following : Following process.retrying process) :
    NothingLeftBehind process := by
  intro idle live taskId known all
  have settled : ∀ other found, process.run.continuation? other = some found →
      Settled found := by
    intro other found present
    rcases following live other found present with settled | ⟨_, waiting, _⟩
    · exact settled
    · rw [idle] at waiting
      cases waiting
  by_cases root : process.workflow.predecessors taskId = []
  · apply coherent.roots
    exact List.mem_filter.mpr ⟨known, by simp [root]⟩
  · have completed : ∀ task ∈ process.workflow.predecessors taskId,
        task ∈ process.completedTasks := by
      intro task precedes
      obtain ⟨found, present⟩ := Option.isSome_iff_exists.mp
        (coherent.finished task (all task precedes))
      exact (coherent.continued task found present).advanced.mp
        (settled task found present).1
    obtain ⟨other, found, present, isReady⟩ :=
      coherent.covered taskId known root completed
    have marked := (settled other found present).2 taskId isReady
    exact ((coherent.continued other found present).sent taskId marked).2

/--
In a run whose messages are all on course nothing that has become ready is left
behind.
-/
theorem nothing_left_behind_on_course
    (rendering : Rendering)
    (primitives : Primitives)
    (submission : Submission)
    (actions : List Action)
    (course :
      EveryStep (step? rendering primitives) (StaysOnCourse rendering primitives)
        (submitted submission) actions) :
    EveryState (step? rendering primitives) NothingLeftBehind
      (submitted submission) actions := by
  have kept := everyState_of_everyStep
    (fun process _ _ (invariant : Sound process ∧
        Following process.retrying process) met stepped =>
      ⟨(step_keeps invariant.1 stepped).1,
        step_following invariant.1 invariant.2 met stepped⟩)
    ⟨submitted_sound submission, submitted_following submission⟩ course
  intro leading rest reached split executed
  obtain ⟨sound, following⟩ := kept leading rest reached split executed
  exact sound.coherent.nothingLeftBehind following

/-! ### Tasks that can be prepared -/

theorem comesThrough_of_schedulable
    {environment : Environment}
    {workflow : Workflow}
    (schedulable :
      ∀ taskId task, workflow.tasks.lookup taskId = some task →
        TaskPreparation.Schedulable primitives environment task)
    (sent rest : List TaskId)
    (saves : List Bool) :
    ComesThrough primitives environment workflow sent rest saves := by
  induction rest generalizing sent saves with
  | nil =>
      trivial
  | cons ready rest inductionHypothesis =>
      unfold ComesThrough
      split
      · exact inductionHypothesis sent saves
      · refine Or.inr fun task found => Or.inr ⟨schedulable ready task found, ?_⟩
        exact Or.inr (inductionHypothesis _ _)

/-- A step stays on course where every task can be prepared. -/
theorem staysOnCourse_of_schedulable
    (sound : Sound process)
    (addressed : message.data.get "workflow_id" = .str process.run.runId)
    (schedulable :
      ∀ taskId task, process.workflow.tasks.lookup taskId = some task →
        TaskPreparation.Schedulable primitives handling.environment task) :
    StaysOnCourse rendering primitives process (.receive message handling) := by
  rintro data rfl taskId middle continues _ continuation _
  have saved := sound.coherent.changeSaves handling.saves
  have begins := continues.begins saved addressed
  have through := comesThrough_of_schedulable
    (fun other task found => schedulable other task (begins.workflow ▸ found))
  unfold ContinuesThrough AdvancesThrough
  split
  · split
    · exact through _ _ _
    · exact Or.inr (through _ _ _)
  · refine Or.inr ?_
    split
    · exact through _ _ _
    · exact Or.inr (through _ _ _)

/-! ### A profile above the limit -/

/-- A task with no inputs and no model. -/
def plainTask
    (code : PyStr)
    (kind : TaskKind)
    (resources : PyDict) :
    WorkflowTask where
  taskName := "task"
  taskKind := kind
  resources := resources
  declaredResources := []
  modelAnchor := []
  codeStr := .str code
  codeSer := .null
  inputParams := []

/-- A CPU task, and a GPU task with a limit that comes after it. -/
def limitedWorkflow : Workflow where
  tasks :=
    [("a", plainTask "def a(): pass" .cpu []),
      ("b", plainTask "def b(): pass" .gpu
        [("gpu_mem", .int 1000), ("gpu_mem_limit", .int 2000)])]
  edges := [("a", "b")]
  distinct := by decide
  closed := by decide

/-- The submission of the two tasks. -/
def limitedSubmission : Submission where
  workflow := limitedWorkflow
  runId := "run"
  workflowId := "workflow"
  timeoutSeconds := .null
  deadline := none
  finalOutputRefs := none
  timestamp := "2026-01-01T00:00:00"

/-- The digests are those of the code of the second task and of its context. -/
def limitedPrimitives : Primitives where
  str := fun _ => ""
  fingerprint := fun value =>
    if value = .list [.str "def b(): pass", .str ""] then
      "3552f9ad655366a0522894daa96f5c8a74a013f65cec1b0fc69ab894a3ab202d"
    else
      "5a045cf701fb0799396b68c2ab8fc011bc43dee8ba32b5d191278f4e1e231205"
  codeDtype := fun _ => .ok ""

/-- No value is rendered here. -/
def limitedRendering : Rendering where
  repr := fun _ => ""
  str := fun _ => ""
  seconds := fun _ => .null

/-- A history in which the second task has once used ten GiB. -/
def profiledHistory : ResourceHistory.HistoryFile :=
  .content (Utf8.encodePoints (PyStr.ofString
    "\x7b\"schema_version\": 3, \"profiles\": \x7b\"5a045cf701fb0799396b68c2ab8fc011bc43dee8ba32b5d191278f4e1e231205\": \x7b\"success_peak_bytes\": 10737418240\x7d\x7d\x7d").chars)

/-- The handling of a message in which every call returns. -/
def plainHandling (history : ResourceHistory.HistoryFile) : Handling where
  environment := ⟨history, fun _ => .ok none⟩
  manifest := .ok .null
  observation := .ok (.dict [])
  published := .ok ()
  artifactError := .null
  write := .completes
  timestamp := "2026-01-01T00:00:01"
  finishWrite := .completes
  finishTimestamp := "2026-01-01T00:00:02"
  saves := []

/-- The first task has finished. -/
def firstFinished : SchedulerMessage :=
  .attempt .finishTask
    [("workflow_id", .str "run"), ("task_id", .str "a"), ("attempt", .int 1),
      ("dispatch_id", .str "dispatch"), ("lease_id", .str "lease"),
      ("result", .dict [])]

/-- Without a history the second task is sent when the first one has finished. -/
theorem limited_task_sent :
    EveryState (step? limitedRendering limitedPrimitives) NothingLeftBehind
      (submitted limitedSubmission)
      [.receive firstFinished (plainHandling .absent)] := by
  refine nothing_left_behind_on_course limitedRendering limitedPrimitives
    limitedSubmission _ fun _ _ => ⟨?_, trivial⟩
  refine staysOnCourse_of_schedulable (submitted_sound limitedSubmission) rfl
    fun taskId task found => ?_
  apply (TaskPreparation.prepareTaskResources_returns_iff _ _ _).mp
  obtain ⟨first, last, split, _⟩ := List.lookup_eq_some_iff.mp found
  have entry : (taskId, task) ∈ limitedWorkflow.tasks := by
    rw [show limitedWorkflow.tasks = first ++ (taskId, task) :: last from split]
    simp
  have prepared : ∀ entry ∈ limitedWorkflow.tasks,
      (TaskPreparation.prepareTaskResources limitedPrimitives
        (plainHandling .absent).environment entry.2).isOk = true := by
    decide +kernel
  have returned := prepared _ entry
  cases outcome : TaskPreparation.prepareTaskResources limitedPrimitives
      (plainHandling .absent).environment task with
  | ok result =>
      exact ⟨result, rfl⟩
  | error raised =>
      simp only [outcome] at returned
      cases returned

/--
The history knows a use above the limit of the second task: preparing it raises
`ResourceLimitExceeded`, the message is dropped, and the task is never sent.
-/
theorem profiled_task_left_behind :
    ¬ EveryState (step? limitedRendering limitedPrimitives) NothingLeftBehind
      (submitted limitedSubmission)
      [.receive firstFinished (plainHandling profiledHistory)] := by
  have ends : (step? limitedRendering limitedPrimitives
      (submitted limitedSubmission)
      (.receive firstFinished (plainHandling profiledHistory))).any
        (fun process =>
          process.retrying.isNone && !process.run.isTerminal &&
            decide (PyStr.ofString "b" ∈ process.workflow.taskIds) &&
            (process.workflow.predecessors "b").all process.run.hasSucceeded &&
            !decide (PyStr.ofString "b" ∈ process.sentTasks)) = true := by
    decide +kernel
  obtain ⟨process, stepped, facts⟩ := (Option.any_eq_true _ _).mp ends
  simp only [Bool.and_eq_true, Bool.not_eq_true', decide_eq_true_eq,
    decide_eq_false_iff_not, List.all_eq_true, Option.isNone_iff_eq_none] at facts
  obtain ⟨⟨⟨⟨idle, live⟩, known⟩, ready⟩, unsent⟩ := facts
  intro every
  have kept := every [.receive firstFinished (plainHandling profiledHistory)] []
    process rfl (by simp [stepped])
  exact unsent (kept idle live "b" known ready)

end Maze.Core.StaticCore
