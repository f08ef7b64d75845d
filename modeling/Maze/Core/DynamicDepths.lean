import Maze.Core.DynamicReadiness

namespace Maze.Core.DynamicDepths

open Maze.Core.DynamicReadiness
open Maze.Library
open Maze.Library.Transition
open Maze.Python

/-!
# The depths of the tasks of a dynamic run

A task gets its depth when it is submitted, from the depths of its parents. These have
been submitted and have finished before, so that the depth is the length of the longest
path to the task from one without parents.
-/

/-! ## Submitting -/

/-- A run with its `_hacs_depths`. -/
structure State where
  process : Process
  depths : List (TaskId × ℕ)

/-- The depth that `_dynamic_scheduling_context` computes. -/
def depthOf
    (run : DynamicRun)
    (depths : List (TaskId × ℕ))
    (taskId : TaskId) :
    ℕ :=
  Digraph.layerOf (Digraph.found depths) (parentsOf run taskId)

/-- What is done to a run, with the sending of its tasks to the scheduler. -/
inductive Action where
  | change (action : DynamicReadiness.Action)
  | submit (taskId : TaskId)

/-- `_submit_dynamic_task`: the depth is computed, and the scheduler gets the task. -/
def submit
    (state : State)
    (taskId : TaskId) :
    State :=
  { state with
    depths := Dict.set state.depths taskId (depthOf state.process.run state.depths taskId) }

/-- A task finishes once the scheduler has it. -/
def enabled (depths : List (TaskId × ℕ)) : DynamicReadiness.Action → Bool
  | .finish taskId _ _ => (depths.lookup taskId).isSome
  | _ => true

/-- One step; the tasks that are sent are those that the run has told to submit. -/
def step?
    (render : Time → PyStr)
    (state : State) :
    Action → Option State
  | .change action =>
      if enabled state.depths action then
        (DynamicReadiness.step? render state.process action).map fun process =>
          { state with process := process }
      else
        none
  | .submit taskId =>
      if taskId ∈ state.process.submissions then
        some (submit state taskId)
      else
        none

/-- A new run. -/
def created
    (runId : PyStr)
    (maxTasks : Int)
    (timeoutSeconds : Option Time)
    (fileContext : PyVal)
    (now : Time) :
    State where
  process := DynamicReadiness.created runId maxTasks timeoutSeconds fileContext now
  depths := []

/-! ## What a step keeps -/

/-- Nothing that a depth rests on has changed. -/
structure Kept (before after : Process) : Prop where
  taskIds : taskIds after.run = taskIds before.run
  taskParents : after.run.taskParents = before.run.taskParents
  completedTasks : after.run.completedTasks = before.run.completedTasks
  submissions : after.submissions = before.submissions

/-- The run is sound after the step, and has gone on from where it was. -/
structure Continued
    (before : Process)
    (action : DynamicReadiness.Action)
    (after : Process) : Prop where
  sound : Sound after
  parents : ∀ taskId ∈ taskIds before.run,
    parentsOf after.run taskId = parentsOf before.run taskId
  submissions : ∀ taskId ∈ before.submissions, taskId ∈ after.submissions
  completed : ∀ taskId ∈ after.run.completedTasks, taskId ∈ before.run.completedTasks ∨
    ∃ faultTolerance now, action = .finish taskId faultTolerance now

theorem append_kept_or_continued
    (render : Time → PyStr)
    {process : Process}
    (sound : SoundWhileActive process)
    (call : AppendCall)
    (now : Time)
    (fresh : call.taskId ∉ taskIds process.run) :
    Kept process (append render process call now) ∨
      Continued process (.append call now) (append render process call now) := by
  rcases appendTask_outcomes render process.run call.request now with
    ⟨_, ended, raised, failed⟩ | ⟨same, old⟩ | ⟨active, appends, _, appended⟩
  · refine .inl ?_
    unfold append
    dsimp only
    rw [ended, failed]
    exact ⟨rfl, rfl, rfl, rfl⟩
  · rw [append_of_same render same old]
    exact .inl ⟨rfl, rfl, rfl, rfl⟩
  · have absent : call.request.taskId ∉ taskIds process.run := call.request_taskId ▸ fresh
    rw [append_of_added render appended]
    refine .inr ⟨sound_addTask (sound active) absent appends, ?_, ?_, ?_⟩
    · intro taskId known
      have other : taskId ≠ call.request.taskId := by
        rintro rfl
        exact absent known
      rw [added, parentsOf_addTask, if_neg other]
    · intro taskId told
      unfold added
      dsimp only
      split
      · exact List.mem_append_left _ told
      · exact told
    · intro taskId completed
      rw [added, (addTask_cases process.run call.request now).1] at completed
      exact .inl completed

theorem finish_kept_or_continued
    {process : Process}
    (sound : SoundWhileActive process)
    (taskId : TaskId)
    (faultTolerance : PyVal)
    (now : Time) :
    Kept process (finish process taskId faultTolerance now) ∨
      Continued process (.finish taskId faultTolerance now)
        (finish process taskId faultTolerance now) := by
  by_cases terminal : process.run.isTerminal = true
  · have same : finish process taskId faultTolerance now = process := by
      simp [finish, DynamicRun.markFinished, terminal]
    rw [same]
    exact .inl ⟨rfl, rfl, rfl, rfl⟩
  · have active : process.run.isTerminal = false := by simpa using terminal
    refine .inr ⟨sound_finish (sound active) taskId faultTolerance now active, ?_, ?_, ?_⟩ <;>
      simp only [finish, DynamicRun.markFinished, active, Bool.false_eq_true, if_false]
    · exact fun _ _ => rfl
    · exact fun _ told => List.mem_append_left _ told
    · intro other completed
      rcases List.mem_insert_iff.mp completed with rfl | before
      · exact .inr ⟨faultTolerance, now, rfl⟩
      · exact .inl before

theorem Same.kept
    {process : Process}
    {after : DynamicRun}
    (same : Same process.run after) :
    Kept process { process with run := after } :=
  ⟨same.taskIds, same.taskParents, same.completedTasks, rfl⟩

/-- A run that goes on goes on soundly; one that has ended keeps what it had. -/
theorem kept_or_continued
    (render : Time → PyStr)
    {process next : Process}
    {action : DynamicReadiness.Action}
    (sound : SoundWhileActive process)
    (stepped : DynamicReadiness.step? render process action = some next) :
    Kept process next ∨ Continued process action next := by
  cases action with
  | append call now =>
      simp only [DynamicReadiness.step?] at stepped
      split at stepped
      · cases stepped
      · next fresh =>
        cases stepped
        exact append_kept_or_continued render sound call now fresh
  | start taskId now =>
      cases stepped
      exact .inl (Same.kept (same_markStarted process.run taskId now))
  | retry taskId error faultTolerance now =>
      cases stepped
      exact .inl (Same.kept (same_markRetrying process.run taskId error faultTolerance now))
  | finish taskId faultTolerance now =>
      simp only [DynamicReadiness.step?] at stepped
      split at stepped
      · cases stepped
        exact finish_kept_or_continued sound taskId faultTolerance now
      · cases stepped

/-! ## The law -/

/-- Tasks finish after they got their depth, and get it after their parents finished. -/
structure Deep (state : State) : Prop where
  sound : SoundWhileActive state.process
  parents : Parents state.process.run
  unknown : ∀ taskId ∉ taskIds state.process.run, parentsOf state.process.run taskId = []
  told : ∀ taskId ∈ state.process.submissions, taskId ∈ taskIds state.process.run
  late : ∀ taskId ∈ state.process.submissions,
    ∀ parent ∈ parentsOf state.process.run taskId, parent ∈ state.process.run.completedTasks
  finished : ∀ taskId ∈ state.process.run.completedTasks,
    (state.depths.lookup taskId).isSome
  submitted : ∀ {taskId}, (state.depths.lookup taskId).isSome →
    taskId ∈ state.process.submissions
  fits : ∀ {taskId}, (state.depths.lookup taskId).isSome →
    state.depths.lookup taskId = some (depthOf state.process.run state.depths taskId)

/-- The parents of a task with a depth have depths. -/
theorem Deep.closed
    {state : State}
    (deep : Deep state)
    {taskId parent : TaskId}
    (known : (state.depths.lookup taskId).isSome)
    (isParent : parent ∈ parentsOf state.process.run taskId) :
    (state.depths.lookup parent).isSome :=
  deep.finished parent (deep.late taskId (deep.submitted known) parent isParent)

theorem deep_created
    (runId : PyStr)
    (maxTasks : Int)
    (timeoutSeconds : Option Time)
    (fileContext : PyVal)
    (now : Time) :
    Deep (created runId maxTasks timeoutSeconds fileContext now) where
  sound := fun _ => created_sound runId maxTasks timeoutSeconds fileContext now
  parents := (created_sound runId maxTasks timeoutSeconds fileContext now).parents
  unknown := fun _ _ => rfl
  told := by simp [created, DynamicReadiness.created]
  late := by simp [created, DynamicReadiness.created]
  finished := by simp [created, DynamicReadiness.created, DynamicRun.new]
  submitted := by simp [created]
  fits := by simp [created]

/-- A task that is submitted again gets the depth that it has. -/
theorem Deep.submit
    {state : State}
    (deep : Deep state)
    {taskId : TaskId}
    (told : taskId ∈ state.process.submissions) :
    Deep (submit state taskId) := by
  have known : ∀ parent ∈ parentsOf state.process.run taskId,
      (state.depths.lookup parent).isSome := fun parent isParent =>
    deep.finished parent (deep.late taskId told parent isParent)
  -- no depth that a depth rests on changes
  have same : ∀ {parent}, (state.depths.lookup parent).isSome →
      Digraph.found (DynamicDepths.submit state taskId).depths parent =
        Digraph.found state.depths parent := by
    intro parent before
    rw [Digraph.found, Digraph.found, DynamicDepths.submit, Dict.lookup_set]
    split
    · next isTask =>
      rw [isTask] at before ⊢
      rw [deep.fits before]
    · rfl
  have depth : ∀ {other}, other = taskId ∨ (state.depths.lookup other).isSome →
      depthOf state.process.run (DynamicDepths.submit state taskId).depths other =
        depthOf state.process.run state.depths other := by
    rintro other (rfl | before)
    · exact Digraph.layerOf_congr fun parent isParent => same (known parent isParent)
    · exact Digraph.layerOf_congr fun parent isParent => same (deep.closed before isParent)
  have lookup : ∀ other, (DynamicDepths.submit state taskId).depths.lookup other =
      if other = taskId then some (depthOf state.process.run state.depths taskId)
      else state.depths.lookup other :=
    fun other => Dict.lookup_set ..
  refine { deep with finished := ?_, submitted := ?_, fits := ?_ }
  · intro other completed
    rw [lookup]
    split
    · rfl
    · exact deep.finished other completed
  · intro other computed
    rw [lookup] at computed
    split at computed
    · next isTask => exact isTask ▸ told
    · exact deep.submitted computed
  · intro other computed
    change _ = some (depthOf state.process.run _ other)
    rw [lookup] at computed ⊢
    split at computed
    · next isTask => rw [depth (.inl isTask), if_pos isTask, isTask]
    · next notTask => rw [depth (.inr computed), if_neg notTask, deep.fits computed]

theorem Deep.change
    (render : Time → PyStr)
    {state : State}
    (deep : Deep state)
    {action : DynamicReadiness.Action}
    (isEnabled : enabled state.depths action = true)
    {next : Process}
    (stepped : DynamicReadiness.step? render state.process action = some next) :
    Deep { state with process := next } := by
  have sound : SoundWhileActive next := sound_step render deep.sound stepped
  rcases kept_or_continued render deep.sound stepped with kept | continued
  · have parents : ∀ taskId, parentsOf next.run taskId = parentsOf state.process.run taskId :=
      fun taskId => by rw [parentsOf, parentsOf, kept.taskParents]
    refine ⟨sound, ⟨?_, ?_⟩, ?_, ?_, ?_, ?_, ?_, ?_⟩ <;>
      simp only [kept.taskIds, kept.completedTasks, kept.submissions, parents, depthOf]
    · exact deep.parents.distinct
    · exact deep.parents.earlier
    · exact deep.unknown
    · exact deep.told
    · exact deep.late
    · exact deep.finished
    · exact deep.submitted
    · exact deep.fits
  · have after := continued.sound
    refine ⟨sound, after.parents, after.unknown, ?_, after.progress.late, ?_, ?_, ?_⟩
    · exact fun taskId told =>
        after.submittedKnown taskId ((after.progress.told taskId).mp told)
    · intro taskId completed
      rcases continued.completed taskId completed with before | ⟨_, _, rfl⟩
      · exact deep.finished taskId before
      · exact isEnabled
    · exact fun computed => continued.submissions _ (deep.submitted computed)
    · intro taskId computed
      have known := deep.told taskId (deep.submitted computed)
      dsimp only [depthOf]
      rw [continued.parents taskId known]
      exact deep.fits computed

theorem Deep.step
    (render : Time → PyStr)
    {state next : State}
    {action : Action}
    (deep : Deep state)
    (stepped : step? render state action = some next) :
    Deep next := by
  cases action with
  | change action =>
      simp only [step?] at stepped
      split at stepped
      · next isEnabled =>
        obtain ⟨process, ran, rfl⟩ := Option.map_eq_some_iff.mp stepped
        exact deep.change render isEnabled ran
      · cases stepped
  | submit taskId =>
      simp only [step?] at stepped
      split at stepped
      · next told =>
        cases stepped
        exact deep.submit told
      · cases stepped

/-- The depth of a task is the length of the longest path from one without parents. -/
theorem Deep.isGreatest
    {state : State}
    (deep : Deep state)
    {taskId : TaskId}
    {depth : ℕ}
    (computed : state.depths.lookup taskId = some depth) :
    IsGreatest
      (Digraph.lengthsTo
        (fun parent child => parent ∈ parentsOf state.process.run child) taskId) depth := by
  have layered : Digraph.Layered
      (fun parent child => parent ∈ parentsOf state.process.run child)
      (fun taskId => (state.depths.lookup taskId).isSome) (Digraph.found state.depths) := by
    refine Digraph.layered_of_layerOf (fun _ _ => Iff.rfl) deep.closed fun known => ?_
    rw [Digraph.found, deep.fits known]
    rfl
  have greatest := layered.isGreatest (Option.isSome_of_eq_some computed)
  rwa [Digraph.found, computed] at greatest

end Maze.Core.DynamicDepths
