import Maze.Scheduler.StopRequest
import Maze.Scheduler.ResourceAccounting

namespace Maze.Scheduler.StopRequest

open Maze.Python
open Maze.Library
open Maze.Library.Transition
open Maze.Scheduler.TaskLeases (Status)
open Maze.Scheduler.ModelInstances (LlmInstanceManager ModelKey ModelRoute)

/-!
# A stop that is repeated

Whatever call of a stop request raises, the tasks that were running when the stop began
are still in the runtime tables or kept in the cleanup state. Their routes and leases
are released once, because a route that is released is no longer the task's and a lease
that is released is no longer active. Only waiters that a released route wakes are
touched beside them.
-/

namespace State

/-! ## Waking waiters -/

section Waking

variable (state : State)

/-- The waiter goes back to its queue when it is woken. -/
def isRestorable (x : ℕ) : Bool :=
  (state.tasks.get? x).any fun task => task.workflowId ∉ state.stoppedWorkflows

theorem restoreWaiter_frame (x : ℕ) :
    ∃ tasks, state.restoreWaiter x =
        { state with
          tasks := tasks
          taskQueues := state.taskQueues ++ [x].filter state.isRestorable } ∧
      ∀ y, tasks.get? y = (state.tasks.get? y).map fun task =>
        if y = x ∧ state.isRestorable y = true then { task with status := .ready }
        else task := by
  unfold restoreWaiter
  split
  · rename_i absent
    refine ⟨state.tasks, ?_, fun y => ?_⟩
    · simp [isRestorable, absent]
    · cases found : state.tasks.get? y <;> simp
      rintro rfl
      rw [absent] at found
      cases found
  · rename_i task found
    split
    · rename_i stopped
      refine ⟨state.tasks, ?_, fun y => ?_⟩
      · simp [isRestorable, found, stopped]
      · cases here : state.tasks.get? y with
        | none => rfl
        | some other =>
            simp only [Option.map_some, Option.some.injEq]
            rw [if_neg]
            rintro ⟨rfl, restorable⟩
            simp [isRestorable, found, stopped] at restorable
    · rename_i stopped
      refine ⟨state.tasks.set x { task with status := .ready }, ?_, fun y => ?_⟩
      · simp [isRestorable, found, stopped]
      · rw [Table.get?_set]
        by_cases same : y = x
        · subst same
          simp [isRestorable, found, stopped]
        · simp [same]

/-- Waking waiters restores those whose workflow is not stopped and changes nothing else. -/
theorem foldl_restoreWaiter (waiting : List ℕ) :
    ∃ tasks, waiting.foldl restoreWaiter state =
        { state with
          tasks := tasks
          taskQueues := state.taskQueues ++ waiting.filter state.isRestorable } ∧
      ∀ y, tasks.get? y = (state.tasks.get? y).map fun task =>
        if y ∈ waiting ∧ state.isRestorable y = true then { task with status := .ready }
        else task := by
  induction waiting generalizing state with
  | nil =>
      refine ⟨state.tasks, by simp, fun y => ?_⟩
      cases state.tasks.get? y <;> simp
  | cons x rest inductionHypothesis =>
      obtain ⟨tasks, first, lookup⟩ := state.restoreWaiter_frame x
      have restorable : (state.restoreWaiter x).isRestorable = state.isRestorable := by
        funext y
        rw [first, isRestorable, lookup, isRestorable]
        cases state.tasks.get? y with
        | none => rfl
        | some task =>
            simp only [Option.map_some, Option.any_some]
            split <;> rfl
      obtain ⟨later, folded, lookup'⟩ := inductionHypothesis (state.restoreWaiter x)
      refine ⟨later, ?_, fun y => ?_⟩
      · rw [List.foldl_cons, folded, restorable, first]
        simp only [List.append_assoc]
        congr 1
        by_cases here : state.isRestorable x = true <;> simp [here]
      · rw [lookup', restorable, first, lookup, Option.map_map]
        congr 1
        funext task
        simp only [Function.comp_apply, List.mem_cons]
        by_cases restore : state.isRestorable y = true
        · by_cases same : y = x
          · subst same
            by_cases after : y ∈ rest <;> simp [after, restore]
          · simp [same, restore]
        · simp [restore]

/-- What releasing the route of a task does. -/
theorem releaseModelRoute_spec
    (strings : Strings)
    (now : ℚ)
    {x : ℕ}
    {route : ModelRoute}
    (held : state.routeOf x = some route) :
    ∃ key waiting tasks, waiting = (state.modelWaiting.get? key).getD [] ∧
      state.releaseModelRoute strings now x =
        { state with
          llmInstanceManager :=
            state.llmInstanceManager.releaseModelRoute route.instanceId now
          tasks := tasks
          modelWaiting := state.modelWaiting.erase key
          taskQueues := state.taskQueues ++ waiting.filter state.isRestorable
          routeReleases := state.routeReleases ++ [x] } ∧
      ∀ y, tasks.get? y = (state.tasks.get? y).map fun task =>
        { task with
          status := if y ∈ waiting ∧ state.isRestorable y = true then .ready
            else task.status
          modelRoute := if y = x then none else task.modelRoute } := by
  let key := waitingKey strings route.key
  let waiting := (state.modelWaiting.get? key).getD []
  let released : State :=
    { state with
      llmInstanceManager :=
        state.llmInstanceManager.releaseModelRoute route.instanceId now
      tasks := state.tasks.modify x fun task => { task with modelRoute := none }
      routeReleases := state.routeReleases ++ [x]
      modelWaiting := state.modelWaiting.erase key }
  have restorable : released.isRestorable = state.isRestorable := by
    funext y
    simp only [isRestorable, released, Table.get?_modify]
    split
    · cases state.tasks.get? y <;> simp
    · rfl
  obtain ⟨tasks, folded, lookup⟩ := released.foldl_restoreWaiter waiting
  refine ⟨key, waiting, tasks, rfl, ?_, fun y => ?_⟩
  · rw [releaseModelRoute, held]
    change waiting.foldl restoreWaiter released = _
    rw [folded, restorable]
  · rw [lookup, restorable]
    simp only [released, Table.get?_modify]
    by_cases same : y = x
    · simp only [same, if_true, Option.map_map]
      congr 1
      funext task
      simp only [Function.comp_apply]
      split <;> rfl
    · simp only [same, if_false]
      congr 1
      funext task
      split <;> rfl

end Waking

/-! ## How far a stop has come -/

/-- The lease is active. -/
def isActive
    (state : State)
    (leaseId : Identifier) :
    Bool :=
  state.resourceManager.activeLeases.contains leaseId.val

/-- The active lease with the identity. -/
def leaseAt
    (state : State)
    (leaseId : Identifier) :
    Option Lease :=
  state.resourceManager.activeLeases.get? leaseId.val

/-- The runtime is as it was, or it waited and a released route has woken it. -/
def SameOrWoken
    (before state : State)
    (x : ℕ) : Prop :=
  state.leaseOf x = before.leaseOf x ∧
    ∀ task, before.tasks.get? x = some task →
      ∃ task', state.tasks.get? x = some task' ∧ task'.workflowId = task.workflowId ∧
        (task'.status = task.status ∨
          task'.status = .ready ∧ x ∈ state.taskQueues ∧
            ∃ key waiting, before.modelWaiting.get? key = some waiting ∧ x ∈ waiting)

/-- A waiter of another workflow still waits, is queued again or belongs to a stopped one. -/
def StillServed
    (workflowId : Identifier)
    (before state : State) : Prop :=
  ∀ key waiting x task, before.modelWaiting.get? key = some waiting → x ∈ waiting →
    before.tasks.get? x = some task → task.workflowId ≠ workflowId →
      (∃ waiting', state.modelWaiting.get? key = some waiting' ∧ x ∈ waiting') ∨
        x ∈ state.taskQueues ∨ task.workflowId ∈ state.stoppedWorkflows

/-- What the request has done to routes and leases, and what it has left alone. -/
structure Progress
    (workflowId : Identifier)
    (before state : State) : Prop where
  routes : ∀ x,
    (state.routeOf x = before.routeOf x ∧
        state.routeReleases.count x = before.routeReleases.count x) ∨
      (x ∈ before.runningOf workflowId ∧ (before.routeOf x).isSome = true ∧
        state.routeOf x = none ∧
        state.routeReleases.count x = before.routeReleases.count x + 1)
  leases : ∀ leaseId,
    (state.leaseAt leaseId = before.leaseAt leaseId ∧
        state.leaseReleases.count leaseId = before.leaseReleases.count leaseId) ∨
      ((∃ x ∈ before.runningOf workflowId, before.leaseOf x = some leaseId) ∧
        before.isActive leaseId = true ∧ state.leaseAt leaseId = none ∧
        state.leaseReleases.count leaseId = before.leaseReleases.count leaseId + 1)
  tasks : ∀ x, SameOrWoken before state x
  waiting : ∀ key waiting x, state.modelWaiting.get? key = some waiting → x ∈ waiting →
    ∃ waiting', before.modelWaiting.get? key = some waiting' ∧ x ∈ waiting'
  served : StillServed workflowId before state
  queues : ∀ x, x ∈ before.taskQueues → x ∈ state.taskQueues
  stopped : ∀ other, other ≠ workflowId →
    (other ∈ state.stoppedWorkflows ↔ other ∈ before.stoppedWorkflows)
  workflows : ∀ other, other ≠ workflowId →
    state.workflows.get? other = before.workflows.get? other
  cleanups : ∀ other, other ≠ workflowId →
    state.workflowCleanupStates.get? other = before.workflowCleanupStates.get? other

/-- The tasks have been taken out, and the cleanup state says what is left to do. -/
structure Underway
    (workflowId : Identifier)
    (before state : State)
    (cleanup : CleanupState) : Prop where
  progress : Progress workflowId before state
  recorded : state.workflowCleanupStates.get? workflowId = some cleanup
  tasks : cleanup.tasks = before.runningOf workflowId
  removed : state.workflows.get? workflowId = none
  marked : workflowId ∈ state.stoppedWorkflows
  unwaited : ∀ key waiting x, state.modelWaiting.get? key = some waiting → x ∈ waiting →
    state.isOf workflowId x = false
  routes : cleanup.modelRoutesReleased = true →
    ∀ x ∈ cleanup.tasks, state.routeOf x = none
  leases : cleanup.resourcesReleased = true →
    ∀ x ∈ cleanup.tasks, ∀ leaseId, before.leaseOf x = some leaseId →
      state.isActive leaseId = false

/-- Nothing has been taken out yet. -/
structure Unbegun
    (workflowId : Identifier)
    (before state : State) : Prop where
  progress : Progress workflowId before state
  unrecorded : state.workflowCleanupStates.get? workflowId = none
  tasks : state.tasks = before.tasks
  workflows : state.workflows.get? workflowId = before.workflows.get? workflowId

/-- Where a request that has failed leaves the stop. -/
def Resumable
    (workflowId : Identifier)
    (before state : State) : Prop :=
  Unbegun workflowId before state ∨ ∃ cleanup, Underway workflowId before state cleanup

section Stages

variable {workflowId : Identifier} {before state : State}

/-- At first nothing has been done. -/
theorem Progress.refl : Progress workflowId before before where
  routes := fun _ => .inl ⟨rfl, rfl⟩
  leases := fun _ => .inl ⟨rfl, rfl⟩
  tasks := fun _ => ⟨rfl, fun task found => ⟨task, found, rfl, .inl rfl⟩⟩
  waiting := fun _ waiting _ found inside => ⟨waiting, found, inside⟩
  served := fun _ waiting _ _ found inside _ _ => .inl ⟨waiting, found, inside⟩
  queues := fun _ => id
  stopped := fun _ _ => Iff.rfl
  workflows := fun _ _ => rfl
  cleanups := fun _ _ => rfl

/-- Releasing the route of a task that was running. -/
theorem Progress.releaseModelRoute
    {strings : Strings}
    {now : ℚ}
    {x : ℕ}
    (progress : Progress workflowId before state)
    (running : x ∈ before.runningOf workflowId) :
    Progress workflowId before (state.releaseModelRoute strings now x) := by
  cases held : state.routeOf x with
  | none =>
      rw [State.releaseModelRoute, held]
      exact progress
  | some route =>
      obtain ⟨key, waiting, tasks, waitingAt, released, lookup⟩ :=
        state.releaseModelRoute_spec strings now held
      rw [released]
      have inWaiting (y : ℕ) (inside : y ∈ waiting) :
          ∃ waiting', state.modelWaiting.get? key = some waiting' ∧ y ∈ waiting' := by
        cases here : state.modelWaiting.get? key with
        | none =>
            rw [waitingAt, here] at inside
            cases inside
        | some waiting' =>
            rw [waitingAt, here] at inside
            exact ⟨waiting', rfl, inside⟩
      refine
        { routes := fun y => ?_
          leases := progress.leases
          tasks := fun y => ⟨?_, fun task found => ?_⟩
          waiting := fun other list y found inside => ?_
          served := fun other list y task found inside known differ => ?_
          queues := fun y inside => List.mem_append_left _ (progress.queues y inside)
          stopped := progress.stopped
          workflows := progress.workflows
          cleanups := progress.cleanups }
      · have routeOf : (tasks.get? y).bind Task.modelRoute =
            if y = x then none else state.routeOf y := by
          rw [lookup, State.routeOf]
          by_cases same : y = x
          · cases state.tasks.get? y <;> simp [same]
          · cases state.tasks.get? y <;> simp [same]
        by_cases same : y = x
        · subst same
          right
          rcases progress.routes y with ⟨unchanged, counted⟩ | ⟨_, _, gone, _⟩
          · refine ⟨running, by rw [← unchanged, held]; rfl, ?_, ?_⟩
            · rw [if_pos rfl] at routeOf
              exact routeOf
            · simp [List.count_append, counted]
          · rw [held] at gone
            cases gone
        · have count : (state.routeReleases ++ [x]).count y =
              state.routeReleases.count y := by
            simp [List.count_append, Ne.symm same]
          rw [if_neg same] at routeOf
          dsimp only
          rw [count, State.routeOf, routeOf]
          exact progress.routes y
      · have leaseOf : (tasks.get? y).bind Task.leaseId = state.leaseOf y := by
          rw [lookup, State.leaseOf]
          cases state.tasks.get? y <;> rfl
        exact leaseOf.trans (progress.tasks y).1
      · obtain ⟨task', here, same, status⟩ := (progress.tasks y).2 task found
        have found' := lookup y
        rw [here, Option.map_some] at found'
        refine ⟨_, found', same, ?_⟩
        dsimp only
        split
        · rename_i woken
          refine .inr ⟨rfl, List.mem_append_right _ (List.mem_filter.mpr woken), ?_⟩
          obtain ⟨list, at_, inside⟩ := inWaiting y woken.1
          obtain ⟨list', at', inside'⟩ := progress.waiting key list y at_ inside
          exact ⟨key, list', at', inside'⟩
        · rcases status with unchanged | ⟨ready, queued, waited⟩
          · exact .inl unchanged
          · exact .inr ⟨ready, List.mem_append_left _ queued, waited⟩
      · simp only [Table.get?_erase] at found
        split at found
        · cases found
        · exact progress.waiting other list y found inside
      · rcases progress.served other list y task found inside known differ with
          ⟨list', at_, inside'⟩ | queued | stopped
        · by_cases same : other = key
          · subst same
            have member : y ∈ waiting := by
              rw [waitingAt, at_]
              exact inside'
            by_cases stopped : task.workflowId ∈ state.stoppedWorkflows
            · exact .inr (.inr stopped)
            · refine .inr (.inl (List.mem_append_right _ (List.mem_filter.mpr
                ⟨member, ?_⟩)))
              obtain ⟨task', here, sameWorkflow, _⟩ := (progress.tasks y).2 task known
              simp [isRestorable, here, sameWorkflow, stopped]
          · exact .inl ⟨list', by simpa [same] using at_, inside'⟩
        · exact .inr (.inl (List.mem_append_left _ queued))
        · exact .inr (.inr stopped)

/-- Taking the lease of a task that was running out of the active ones. -/
theorem Progress.takeLease
    {x : ℕ}
    {leaseId : Identifier}
    {manager : ResourceManager}
    (progress : Progress workflowId before state)
    (running : x ∈ before.runningOf workflowId)
    (held : state.leaseOf x = some leaseId)
    (active : state.isActive leaseId = true)
    (taken : ∀ other, manager.activeLeases.get? other =
      if other = leaseId.val then none
      else state.resourceManager.activeLeases.get? other) :
    Progress workflowId before
      { state with
        resourceManager := manager
        leaseReleases := state.leaseReleases ++ [leaseId] } :=
  { progress with
    leases := fun other => by
      have leaseAt : manager.activeLeases.get? other.val =
          if other = leaseId then none else state.leaseAt other := by
        rw [taken]
        by_cases same : other = leaseId
        · simp [same]
        · have differ : other.val ≠ leaseId.val := fun equal =>
            same (Subtype.ext equal)
          rw [if_neg differ, if_neg same]
          rfl
      have inspected : State.leaseAt
          { state with
            resourceManager := manager
            leaseReleases := state.leaseReleases ++ [leaseId] } other =
          if other = leaseId then none else state.leaseAt other := leaseAt
      rw [inspected]
      dsimp only
      by_cases same : other = leaseId
      · subst same
        right
        have known : before.leaseOf x = some other := by
          rw [← (progress.tasks x).1]
          exact held
        have there : (state.leaseAt other).isSome = true := active
        rcases progress.leases other with ⟨unchanged, counted⟩ | ⟨_, _, gone, _⟩
        · refine ⟨⟨x, running, known⟩, by rw [unchanged] at there; exact there,
            by simp, ?_⟩
          simp [List.count_append, counted]
        · rw [gone] at there
          cases there
      · have count : (state.leaseReleases ++ [leaseId]).count other =
            state.leaseReleases.count other := by
          simp [List.count_append, Ne.symm same]
        rw [count, if_neg same]
        exact progress.leases other }

/-- Releasing the lease of a task that was running. -/
theorem Progress.releaseLease
    {x : ℕ}
    (progress : Progress workflowId before state)
    (running : x ∈ before.runningOf workflowId) :
    Progress workflowId before (state.releaseLease x) := by
  unfold State.releaseLease
  split
  · exact progress
  · next leaseId held =>
    split
    · next active =>
      exact progress.takeLease running held active fun other =>
        ResourceManager.activeLeases_releaseLease leaseId.val other _
    · exact progress

/-- Taking the lease out of the active ones without finishing its release. -/
theorem Progress.popLease
    {x : ℕ}
    (progress : Progress workflowId before state)
    (running : x ∈ before.runningOf workflowId) :
    Progress workflowId before (state.popLease x) := by
  unfold State.popLease
  split
  · exact progress
  · next leaseId held =>
    split
    · next active =>
      exact progress.takeLease running held active fun other =>
        Table.get?_erase state.resourceManager.activeLeases leaseId.val other
    · exact progress

/-- The workflow is marked and its waiters are removed. -/
theorem Progress.mark
    (progress : Progress workflowId before state) :
    Progress workflowId before
      ({ state with
        stoppedWorkflows :=
          state.stoppedWorkflows.insert workflowId }.removeModelWaiters workflowId) :=
  { progress with
    waiting := fun key waiting x found inside => by
      simp only [State.removeModelWaiters, Table.get?_mapValues,
        Option.map_eq_some_iff] at found
      obtain ⟨list, here, rfl⟩ := found
      exact progress.waiting key list x here (List.mem_of_mem_filter inside)
    served := fun key waiting x task found inside known differ => by
      rcases progress.served key waiting x task found inside known differ with
        ⟨list, here, member⟩ | queued | stopped
      · refine .inl ⟨list.filter fun x => !state.isOf workflowId x, ?_,
          List.mem_filter.mpr ⟨member, ?_⟩⟩
        · simp only [State.removeModelWaiters, Table.get?_mapValues, here,
            Option.map_some]
          rfl
        · obtain ⟨task', there, same, _⟩ := (progress.tasks x).2 task known
          simp [isOf, there, same, differ]
      · exact .inr (.inl queued)
      · exact .inr (.inr (List.mem_insert_of_mem stopped))
    stopped := fun other differ => by
      have inserted : other ∈ state.stoppedWorkflows.insert workflowId ↔
          other ∈ state.stoppedWorkflows := by
        simp [differ]
      exact inserted.trans (progress.stopped other differ) }

/-! ## The stages of a request -/

/-- A stage changes neither the runtimes that were taken out nor what is recorded. -/
theorem releaseModelRoute_frame
    (state : State)
    (strings : Strings)
    (now : ℚ)
    (x : ℕ) :
    (state.releaseModelRoute strings now x).workflowCleanupStates =
        state.workflowCleanupStates ∧
      (state.releaseModelRoute strings now x).workflows = state.workflows ∧
      (state.releaseModelRoute strings now x).stoppedWorkflows = state.stoppedWorkflows ∧
      (state.releaseModelRoute strings now x).resourceManager = state.resourceManager ∧
      (state.releaseModelRoute strings now x).dispatched = state.dispatched ∧
      (∀ other, (state.releaseModelRoute strings now x).isOf other = state.isOf other) ∧
      (∀ key waiting, (state.releaseModelRoute strings now x).modelWaiting.get? key =
        some waiting → state.modelWaiting.get? key = some waiting) ∧
      (∀ y, (state.releaseModelRoute strings now x).routeOf y =
        if y = x then none else state.routeOf y) := by
  cases held : state.routeOf x with
  | none =>
      have unchanged : state.releaseModelRoute strings now x = state := by
        rw [State.releaseModelRoute, held]
      rw [unchanged]
      refine ⟨rfl, rfl, rfl, rfl, rfl, fun _ => rfl, fun _ _ => id, fun y => ?_⟩
      by_cases same : y = x
      · rw [if_pos same, same]
        exact held
      · rw [if_neg same]
  | some route =>
      obtain ⟨key, waiting, tasks, _, released, lookup⟩ :=
        state.releaseModelRoute_spec strings now held
      rw [released]
      refine ⟨rfl, rfl, rfl, rfl, rfl, fun other => ?_, fun other list found => ?_,
        fun y => ?_⟩
      · funext y
        rw [isOf, lookup, isOf]
        cases state.tasks.get? y <;> rfl
      · simp only [Table.get?_erase] at found
        split at found
        · cases found
        · exact found
      · rw [routeOf, lookup, routeOf]
        by_cases same : y = x
        · cases state.tasks.get? y <;> simp [same]
        · cases state.tasks.get? y <;> simp [same]

variable {cleanup : CleanupState}

/-- Releasing a route keeps what the request has reached. -/
theorem Underway.releaseModelRoute
    (strings : Strings)
    (now : ℚ)
    {x : ℕ}
    (underway : Underway workflowId before state cleanup)
    (running : x ∈ cleanup.tasks) :
    Underway workflowId before (state.releaseModelRoute strings now x) cleanup := by
  obtain ⟨cleanups, workflows, stopped, manager, _, sameOf, kept, routeOf⟩ :=
    state.releaseModelRoute_frame strings now x
  rw [underway.tasks] at running
  refine
    { progress := underway.progress.releaseModelRoute running
      recorded := cleanups ▸ underway.recorded
      tasks := underway.tasks
      removed := workflows ▸ underway.removed
      marked := stopped ▸ underway.marked
      unwaited := fun key waiting y found inside => ?_
      routes := fun released y member => ?_
      leases := fun released y member leaseId held => ?_ }
  · rw [sameOf]
    exact underway.unwaited key waiting y (kept key waiting found) inside
  · rw [routeOf, underway.routes released y member]
    split <;> rfl
  · rw [isActive, manager]
    exact underway.leases released y member leaseId held

/-- The routes are released one after the other, up to the one that raises. -/
theorem releaseModelRoutes_cons
    {strings : Strings}
    {now : ℚ}
    {fault : Option ℕ}
    (passes : fault ≠ some 0)
    (x : ℕ)
    (rest : List ℕ) :
    releaseModelRoutes strings now fault (x :: rest) state =
      releaseModelRoutes strings now (fault.map Nat.pred) rest
        (state.releaseModelRoute strings now x) := by
  match fault, passes with
  | none, _ => rfl
  | some (index + 1), _ => rfl

/-- Releasing routes keeps what the request has reached; at the end they are released. -/
theorem Underway.releaseModelRoutes
    (strings : Strings)
    (now : ℚ)
    (fault : Option ℕ)
    (tasks : List ℕ)
    (underway : Underway workflowId before state cleanup)
    (members : ∀ x ∈ tasks, x ∈ cleanup.tasks) :
    Underway workflowId before
        (releaseModelRoutes strings now fault tasks state).2 cleanup ∧
      ((releaseModelRoutes strings now fault tasks state).1 = true →
        ∀ x, x ∈ tasks ∨ state.routeOf x = none →
          (releaseModelRoutes strings now fault tasks state).2.routeOf x = none) := by
  induction tasks generalizing fault state with
  | nil =>
      rw [State.releaseModelRoutes]
      refine ⟨underway, fun _ x released => ?_⟩
      rcases released with member | released
      · cases member
      · exact released
  | cons x rest inductionHypothesis =>
      by_cases raises : fault = some 0
      · subst raises
        exact ⟨underway, fun success => by cases success⟩
      · rw [releaseModelRoutes_cons raises]
        obtain ⟨later, released⟩ := inductionHypothesis (fault.map Nat.pred)
          (underway.releaseModelRoute strings now (members x List.mem_cons_self))
          (fun y member => members y (List.mem_cons_of_mem _ member))
        refine ⟨later, fun success y inside => released success y ?_⟩
        have routeOf := (state.releaseModelRoute_frame strings now x).2.2.2.2.2.2.2 y
        rw [routeOf]
        rcases inside with member | gone
        · rcases List.mem_cons.mp member with same | member
          · exact .inr (by rw [if_pos same])
          · exact .inl member
        · right
          rw [gone]
          split <;> rfl

/-- A lease that is taken out of the active ones keeps what the request has reached. -/
theorem Underway.takeLease
    {state' : State}
    (underway : Underway workflowId before state cleanup)
    (progress : Progress workflowId before state')
    (frame : { state with
      resourceManager := state'.resourceManager
      leaseReleases := state'.leaseReleases } = state')
    (inactive : ∀ leaseId, state.isActive leaseId = false →
      state'.isActive leaseId = false) :
    Underway workflowId before state' cleanup where
  progress := progress
  recorded := frame ▸ underway.recorded
  tasks := underway.tasks
  removed := frame ▸ underway.removed
  marked := frame ▸ underway.marked
  unwaited := frame ▸ underway.unwaited
  routes := frame ▸ underway.routes
  leases := fun released x member leaseId held =>
    inactive leaseId (underway.leases released x member leaseId held)

/-- Taking away a lease leaves no active lease that was not active, and not this one. -/
theorem isActive_of_taken
    (state : State)
    (leaseId : Identifier)
    {manager : ResourceManager}
    (taken : ∀ other, manager.activeLeases.get? other =
      if other = leaseId.val then none
      else state.resourceManager.activeLeases.get? other) :
    (∀ id : Identifier, state.isActive id = false →
        manager.activeLeases.contains id.val = false) ∧
      manager.activeLeases.contains leaseId.val = false := by
  refine ⟨fun id inactive => ?_, ?_⟩
  · rw [Table.contains, taken]
    split
    · rfl
    · exact inactive
  · rw [Table.contains, taken, if_pos rfl]
    rfl

/-- What releasing the lease of a task changes. -/
theorem releaseLease_frame (state : State) (x : ℕ) :
    { state with
        resourceManager := (state.releaseLease x).resourceManager
        leaseReleases := (state.releaseLease x).leaseReleases } = state.releaseLease x ∧
      (∀ id, state.isActive id = false → (state.releaseLease x).isActive id = false) ∧
      ∀ id, state.leaseOf x = some id → (state.releaseLease x).isActive id = false := by
  unfold State.releaseLease
  split
  · next free =>
    exact ⟨rfl, fun _ => id, fun id held => by rw [free] at held; cases held⟩
  · next leaseId held =>
    have same (id : Identifier) (other : state.leaseOf x = some id) : id = leaseId :=
      Option.some.inj (other.symm.trans held)
    split
    · obtain ⟨kept, gone⟩ := state.isActive_of_taken leaseId
        fun other => ResourceManager.activeLeases_releaseLease
          leaseId.val other state.resourceManager
      exact ⟨rfl, kept, fun id other => by rw [same id other]; exact gone⟩
    · next inactive =>
      refine ⟨rfl, fun _ => id, fun id other => ?_⟩
      rw [same id other]
      exact Bool.eq_false_iff.mpr inactive

/-- What taking the lease of a task out of the active ones changes. -/
theorem popLease_frame (state : State) (x : ℕ) :
    { state with
        resourceManager := (state.popLease x).resourceManager
        leaseReleases := (state.popLease x).leaseReleases } = state.popLease x ∧
      ∀ id, state.isActive id = false → (state.popLease x).isActive id = false := by
  unfold State.popLease
  split
  · exact ⟨rfl, fun _ => id⟩
  · next leaseId _ =>
    split
    · exact ⟨rfl, (state.isActive_of_taken leaseId fun other =>
        Table.get?_erase state.resourceManager.activeLeases leaseId.val other).1⟩
    · exact ⟨rfl, fun _ => id⟩

/-- The leases are released one after the other, up to the one that raises. -/
theorem releaseTaskResource_cons
    {fault : Option (ℕ × Bool)}
    (passes : ∀ popped, fault ≠ some (0, popped))
    (x : ℕ)
    (rest : List ℕ) :
    releaseTaskResource fault (x :: rest) state =
      releaseTaskResource (fault.map fun (index, popped) => (index.pred, popped)) rest
        (state.releaseLease x) := by
  match fault, passes with
  | none, _ => rfl
  | some (index + 1, _), _ => rfl
  | some (0, popped), passes => exact absurd rfl (passes popped)

/-- Releasing leases keeps what the request has reached; at the end none is active. -/
theorem Underway.releaseTaskResource
    (fault : Option (ℕ × Bool))
    (tasks : List ℕ)
    (underway : Underway workflowId before state cleanup)
    (members : ∀ x ∈ tasks, x ∈ cleanup.tasks) :
    Underway workflowId before (releaseTaskResource fault tasks state).2 cleanup ∧
      ((releaseTaskResource fault tasks state).1 = true →
        ∀ leaseId, (∃ x ∈ tasks, before.leaseOf x = some leaseId) ∨
            state.isActive leaseId = false →
          (releaseTaskResource fault tasks state).2.isActive leaseId = false) := by
  induction tasks generalizing fault state with
  | nil =>
      rw [State.releaseTaskResource]
      refine ⟨underway, fun _ leaseId released => ?_⟩
      rcases released with ⟨x, member, _⟩ | released
      · cases member
      · exact released
  | cons x rest inductionHypothesis =>
      have running : x ∈ before.runningOf workflowId :=
        underway.tasks ▸ members x List.mem_cons_self
      by_cases raises : ∃ popped, fault = some (0, popped)
      · obtain ⟨popped, rfl⟩ := raises
        refine ⟨?_, fun success => by cases success⟩
        cases popped with
        | false => exact underway
        | true =>
            obtain ⟨frame, kept⟩ := state.popLease_frame x
            exact underway.takeLease (underway.progress.popLease running) frame kept
      · rw [releaseTaskResource_cons fun popped raised => raises ⟨popped, raised⟩]
        obtain ⟨frame, kept, gone⟩ := state.releaseLease_frame x
        obtain ⟨later, released⟩ := inductionHypothesis
          (fault.map fun (index, popped) => (index.pred, popped))
          (underway.takeLease (underway.progress.releaseLease running) frame kept)
          (fun y member => members y (List.mem_cons_of_mem _ member))
        refine ⟨later, fun success leaseId inside => released success leaseId ?_⟩
        rcases inside with ⟨y, member, held⟩ | inactive
        · rcases List.mem_cons.mp member with rfl | member
          · exact .inr (gone leaseId ((underway.progress.tasks y).1.trans held))
          · exact .inl ⟨y, member, held⟩
        · exact .inr (kept leaseId inactive)

/-- The cleanup state is changed once its new flags are earned. -/
theorem Underway.setCleanup
    (underway : Underway workflowId before state cleanup)
    (cleanup' : CleanupState)
    (tasks : cleanup'.tasks = cleanup.tasks)
    (routes : cleanup'.modelRoutesReleased = true →
      ∀ x ∈ cleanup.tasks, state.routeOf x = none)
    (leases : cleanup'.resourcesReleased = true →
      ∀ x ∈ cleanup.tasks, ∀ leaseId, before.leaseOf x = some leaseId →
        state.isActive leaseId = false) :
    Underway workflowId before (state.setCleanup workflowId cleanup') cleanup' where
  progress :=
    { underway.progress with
      cleanups := fun other differ => by
        simp only [State.setCleanup, Table.get?_set, differ, if_false]
        exact underway.progress.cleanups other differ }
  recorded := by simp [State.setCleanup]
  tasks := tasks.trans underway.tasks
  removed := underway.removed
  marked := underway.marked
  unwaited := underway.unwaited
  routes := tasks ▸ routes
  leases := tasks ▸ leases

/--
The stage keeps the stop resumable, and when it succeeds its flag is set. It succeeds when
nothing raises.
-/
def StageLaw
    (workflowId : Identifier)
    (before : State)
    (fault : Option Fault)
    (flag : CleanupState → Bool)
    (stage : CleanupState → State → Bool × State) : Prop :=
  ∀ state cleanup, Underway workflowId before state cleanup →
    ∃ cleanup', Underway workflowId before (stage cleanup state).2 cleanup' ∧
      ((stage cleanup state).1 = true → flag cleanup' = true ∧
        (cleanup.modelRoutesReleased = true → cleanup'.modelRoutesReleased = true) ∧
        (cleanup.resourcesReleased = true → cleanup'.resourcesReleased = true)) ∧
      (fault = none → (stage cleanup state).1 = true)

/-- Every route is released when nothing raises. -/
theorem releaseModelRoutes_none
    (strings : Strings)
    (now : ℚ)
    (tasks : List ℕ)
    (state : State) :
    (releaseModelRoutes strings now none tasks state).1 = true := by
  induction tasks generalizing state with
  | nil => rfl
  | cons x rest inductionHypothesis =>
      exact inductionHypothesis (state.releaseModelRoute strings now x)

/-- Every lease is released when nothing raises. -/
theorem releaseTaskResource_none
    (tasks : List ℕ)
    (state : State) :
    (releaseTaskResource none tasks state).1 = true := by
  induction tasks generalizing state with
  | nil => rfl
  | cons x rest inductionHypothesis =>
      exact inductionHypothesis (state.releaseLease x)

theorem releaseRoutesStage_law
    (strings : Strings)
    (now : ℚ)
    (fault : Option Fault) :
    StageLaw workflowId before fault CleanupState.modelRoutesReleased
      (releaseRoutesStage strings now fault workflowId) := by
  intro state cleanup underway
  unfold releaseRoutesStage
  split
  · next done =>
    exact ⟨cleanup, underway, fun _ => ⟨done, id, id⟩, fun _ => rfl⟩
  · obtain ⟨later, released⟩ := underway.releaseModelRoutes strings now
      (fault.bind Fault.route?) cleanup.tasks fun _ => id
    dsimp only
    split
    · next success =>
      exact ⟨_, later.setCleanup { cleanup with modelRoutesReleased := true }
        rfl (fun _ x member => released success x (.inl member)) later.leases,
        fun _ => ⟨rfl, fun _ => rfl, id⟩, fun _ => rfl⟩
    · next failure =>
      refine ⟨cleanup, later, fun success => absurd success failure, fun quiet => ?_⟩
      subst quiet
      exact releaseModelRoutes_none strings now cleanup.tasks state

theorem releaseLeasesStage_law
    (fault : Option Fault) :
    StageLaw workflowId before fault CleanupState.resourcesReleased
      (releaseLeasesStage fault workflowId) := by
  intro state cleanup underway
  unfold releaseLeasesStage
  split
  · next done =>
    exact ⟨cleanup, underway, fun _ => ⟨done, id, id⟩, fun _ => rfl⟩
  · obtain ⟨later, released⟩ := underway.releaseTaskResource
      (fault.bind Fault.lease?) cleanup.tasks fun _ => id
    dsimp only
    split
    · next success =>
      exact ⟨_, later.setCleanup { cleanup with resourcesReleased := true }
        rfl later.routes
        (fun _ x member leaseId held => released success leaseId (.inl ⟨x, member, held⟩)),
        fun _ => ⟨rfl, id, fun _ => rfl⟩, fun _ => rfl⟩
    · next failure =>
      refine ⟨cleanup, later, fun success => absurd success failure, fun quiet => ?_⟩
      subst quiet
      exact releaseTaskResource_none cleanup.tasks state

theorem clearWorkflowStage_law
    (fault : Option Fault) :
    StageLaw workflowId before fault CleanupState.workflowCleared
      (clearWorkflowStage fault workflowId) := by
  intro state cleanup underway
  unfold clearWorkflowStage
  split
  · next done =>
    exact ⟨cleanup, underway, fun _ => ⟨done, id, id⟩, fun _ => rfl⟩
  · split
    · next raises =>
      refine ⟨cleanup, underway, fun success => Bool.noConfusion success, fun quiet => ?_⟩
      rw [quiet] at raises
      cases raises
    · let workflows :=
        if cleanup.tasks.isEmpty then state.workflows else state.workflows.erase workflowId
      have lookup (other : Identifier) :
          workflows.get? other = state.workflows.get? other := by
        simp only [workflows]
        split
        · rfl
        · rw [Table.get?_erase]
          split
          · next same =>
            rw [same, underway.removed]
          · rfl
      have cleared : Underway workflowId before
          { state with workflows := workflows } cleanup :=
        { underway with
          progress :=
            { underway.progress with
              workflows := fun other differ =>
                (lookup other).trans (underway.progress.workflows other differ) }
          removed := (lookup workflowId).trans underway.removed }
      exact ⟨_, cleared.setCleanup { cleanup with workflowCleared := true }
        rfl cleared.routes cleared.leases, fun _ => ⟨rfl, id, id⟩, fun _ => rfl⟩

theorem releaseDagStage_law
    (fault : Option Fault) :
    StageLaw workflowId before fault CleanupState.dagReleased
      (releaseDagStage fault workflowId) := by
  intro state cleanup underway
  unfold releaseDagStage
  split
  · next done =>
    exact ⟨cleanup, underway, fun _ => ⟨done, id, id⟩, fun _ => rfl⟩
  · split
    · next raises =>
      refine ⟨cleanup, underway, fun success => Bool.noConfusion success, fun quiet => ?_⟩
      rw [quiet] at raises
      cases raises
    · have released : Underway workflowId before
          { state with
            resourceManager :=
              { state.resourceManager with
                dagContexts :=
                  state.resourceManager.dagContexts.release workflowId.val } } cleanup :=
        { underway with
          progress := { underway.progress with leases := underway.progress.leases } }
      exact ⟨_, released.setCleanup { cleanup with dagReleased := true }
        rfl released.routes released.leases, fun _ => ⟨rfl, id, id⟩, fun _ => rfl⟩

/-! ## A whole request -/

/-- The stop is underway, and a result that succeeds has earned the flags. -/
def Reached
    (workflowId : Identifier)
    (before : State)
    (fault : Option Fault)
    (earned : CleanupState → Prop)
    (result : Bool × State) : Prop :=
  ∃ cleanup, Underway workflowId before result.2 cleanup ∧
    (result.1 = true → earned cleanup) ∧ (fault = none → result.1 = true)

theorem Reached.thenStage
    {fault : Option Fault}
    {earned : CleanupState → Prop}
    (earned' : CleanupState → Prop)
    {flag : CleanupState → Bool}
    {stage : CleanupState → State → Bool × State}
    {result : Bool × State}
    (reached : Reached workflowId before fault earned result)
    (law : StageLaw workflowId before fault flag stage)
    (earn : ∀ cleanup cleanup' : CleanupState, earned cleanup → flag cleanup' = true →
      (cleanup.modelRoutesReleased = true → cleanup'.modelRoutesReleased = true) →
      (cleanup.resourcesReleased = true → cleanup'.resourcesReleased = true) →
        earned' cleanup') :
    Reached workflowId before fault earned' (thenStage workflowId stage result) := by
  obtain ⟨cleanup, underway, done, quiet⟩ := reached
  unfold State.thenStage
  rw [underway.recorded]
  cases success : result.1 with
  | false =>
      exact ⟨cleanup, underway, fun succeeds => Bool.noConfusion (success.symm.trans succeeds),
        quiet⟩
  | true =>
      obtain ⟨cleanup', later, advanced, quiet'⟩ := law result.2 cleanup underway
      refine ⟨cleanup', later, fun succeeds => ?_, quiet'⟩
      obtain ⟨set, routes, leases⟩ := advanced succeeds
      exact earn cleanup cleanup' (done success) set routes leases

/-- The stop has come to its end. -/
structure Stopped
    (workflowId : Identifier)
    (before state : State) : Prop where
  progress : Progress workflowId before state
  unrecorded : state.workflowCleanupStates.get? workflowId = none
  removed : state.workflows.get? workflowId = none
  marked : workflowId ∈ state.stoppedWorkflows
  unwaited : ∀ key waiting x, state.modelWaiting.get? key = some waiting → x ∈ waiting →
    state.isOf workflowId x = false
  routes : ∀ x ∈ before.runningOf workflowId, state.routeOf x = none
  leases : ∀ x ∈ before.runningOf workflowId, ∀ leaseId,
    before.leaseOf x = some leaseId → state.isActive leaseId = false

/-- No waiter of the workflow is left by `_remove_model_waiters_for_workflow`. -/
theorem removeModelWaiters_unwaited
    (key : PyStr × PyStr)
    (waiting : List ℕ)
    (x : ℕ)
    (found : (state.removeModelWaiters workflowId).modelWaiting.get? key = some waiting)
    (inside : x ∈ waiting) :
    state.isOf workflowId x = false := by
  simp only [State.removeModelWaiters, Table.get?_mapValues,
    Option.map_eq_some_iff] at found
  obtain ⟨list, _, rfl⟩ := found
  simpa using (List.mem_filter.mp inside).2

/-- The workflow is marked before anything is taken out. -/
theorem Unbegun.mark
    (unbegun : Unbegun workflowId before state) :
    Unbegun workflowId before
      ({ state with
        stoppedWorkflows :=
          state.stoppedWorkflows.insert workflowId }.removeModelWaiters workflowId) :=
  { unbegun with progress := unbegun.progress.mark }

/-- The workflow is marked once more. -/
theorem Underway.mark
    (underway : Underway workflowId before state cleanup) :
    Underway workflowId before
      ({ state with
        stoppedWorkflows :=
          state.stoppedWorkflows.insert workflowId }.removeModelWaiters workflowId)
      cleanup :=
  { underway with
    progress := underway.progress.mark
    marked := List.mem_insert_of_mem underway.marked
    unwaited := removeModelWaiters_unwaited }

/-- The tasks that are running are taken out and recorded. -/
theorem Unbegun.cancelWorkflow
    (unbegun : Unbegun workflowId before state)
    (marked : workflowId ∈ state.stoppedWorkflows)
    (unwaited : ∀ key waiting x, state.modelWaiting.get? key = some waiting →
      x ∈ waiting → state.isOf workflowId x = false) :
    ∃ cleanup, Underway workflowId before (state.cancelWorkflow workflowId) cleanup := by
  have runningOf : state.runningOf workflowId = before.runningOf workflowId := by
    have isRunning : state.isRunning = before.isRunning := by
      funext x
      rw [State.isRunning, unbegun.tasks, State.isRunning]
    rw [State.runningOf, unbegun.workflows, isRunning, State.runningOf]
  refine ⟨⟨state.runningOf workflowId, false, false, false, false⟩, ?_⟩
  exact
    { progress :=
        { unbegun.progress with
          workflows := fun other differ => by
            simp only [State.cancelWorkflow, State.setCleanup, Table.get?_erase, differ,
              if_false]
            exact unbegun.progress.workflows other differ
          cleanups := fun other differ => by
            simp only [State.cancelWorkflow, State.setCleanup, Table.get?_set, differ,
              if_false]
            exact unbegun.progress.cleanups other differ }
      recorded := by simp [State.cancelWorkflow, State.setCleanup]
      tasks := runningOf
      removed := by simp [State.cancelWorkflow, State.setCleanup]
      marked := marked
      unwaited := unwaited
      routes := fun released => by cases released
      leases := fun released => by cases released }

/-- The stages of a request, from the cleanup state on. -/
theorem stages_reached
    (strings : Strings)
    (now : ℚ)
    (fault : Option Fault)
    (underway : Underway workflowId before state cleanup) :
    Reached workflowId before fault
      (fun cleanup => cleanup.modelRoutesReleased = true ∧ cleanup.resourcesReleased = true)
      ([releaseRoutesStage strings now fault workflowId,
        releaseLeasesStage fault workflowId,
        clearWorkflowStage fault workflowId,
        releaseDagStage fault workflowId].foldl
          (fun result stage => thenStage workflowId stage result) (true, state)) := by
  have begun : Reached workflowId before fault (fun _ => True) (true, state) :=
    ⟨cleanup, underway, fun _ => trivial, fun _ => rfl⟩
  have routes := begun.thenStage (fun cleanup => cleanup.modelRoutesReleased = true)
    (releaseRoutesStage_law strings now fault)
    fun _ _ _ set _ _ => set
  have leases := routes.thenStage
    (fun cleanup =>
      cleanup.modelRoutesReleased = true ∧ cleanup.resourcesReleased = true)
    (releaseLeasesStage_law fault)
    fun _ _ released set kept _ => ⟨kept released, set⟩
  have cleared := leases.thenStage
    (fun cleanup =>
      cleanup.modelRoutesReleased = true ∧ cleanup.resourcesReleased = true)
    (clearWorkflowStage_law fault)
    fun _ _ released _ keptRoutes keptLeases =>
      ⟨keptRoutes released.1, keptLeases released.2⟩
  exact cleared.thenStage _ (releaseDagStage_law fault)
    fun _ _ released _ keptRoutes keptLeases =>
      ⟨keptRoutes released.1, keptLeases released.2⟩

/--
A request that fails can be repeated, one that succeeds has ended the stop, and one in
which nothing raises succeeds.
-/
theorem stopWorkflowRequest_law
    (strings : Strings)
    (now : ℚ)
    (fault : Option Fault)
    (resumable : Resumable workflowId before state) :
    ((state.stopWorkflowRequest strings now fault workflowId).1 = false →
        Resumable workflowId before
          (state.stopWorkflowRequest strings now fault workflowId).2) ∧
      ((state.stopWorkflowRequest strings now fault workflowId).1 = true →
        Stopped workflowId before
          (state.stopWorkflowRequest strings now fault workflowId).2) ∧
      (fault = none →
        (state.stopWorkflowRequest strings now fault workflowId).1 = true) := by
  let marked :=
    { state with
      stoppedWorkflows := state.stoppedWorkflows.insert workflowId }.removeModelWaiters
        workflowId
  let cleared :=
    { marked with
      llmInstanceManager :=
        marked.llmInstanceManager.clearWorkflowState workflowId.val }
  have isMarked : workflowId ∈ cleared.stoppedWorkflows := List.mem_insert_self
  have unwaited : ∀ key waiting x, cleared.modelWaiting.get? key = some waiting →
      x ∈ waiting → cleared.isOf workflowId x = false := removeModelWaiters_unwaited
  have resumableCleared : Resumable workflowId before cleared := by
    rcases resumable with unbegun | ⟨cleanup, underway⟩
    · exact .inl { unbegun.mark with progress := { unbegun.mark.progress with } }
    · exact .inr ⟨cleanup,
        { underway.mark with progress := { underway.mark.progress with } }⟩
  have resumableMarked : Resumable workflowId before marked := by
    rcases resumable with unbegun | ⟨cleanup, underway⟩
    · exact .inl unbegun.mark
    · exact .inr ⟨cleanup, underway.mark⟩
  have stages (cancelled : State) (cleanup : CleanupState)
      (underway : Underway workflowId before cancelled cleanup) :
      let result := [releaseRoutesStage strings now fault workflowId,
        releaseLeasesStage fault workflowId,
        clearWorkflowStage fault workflowId,
        releaseDagStage fault workflowId].foldl
          (fun result stage => thenStage workflowId stage result) (true, cancelled)
      (result.1 = false → Resumable workflowId before result.2) ∧
        (result.1 = true → Stopped workflowId before
          { result.2 with
            workflowCleanupStates := result.2.workflowCleanupStates.erase workflowId }) ∧
        (fault = none → result.1 = true) := by
    obtain ⟨cleanup', later, earned, quiet⟩ := stages_reached strings now fault underway
    refine ⟨fun _ => .inr ⟨cleanup', later⟩, fun success => ?_, quiet⟩
    obtain ⟨routes, leases⟩ := earned success
    exact
      { progress :=
          { later.progress with
            cleanups := fun other differ => by
              simp only [Table.get?_erase, differ, if_false]
              exact later.progress.cleanups other differ }
        unrecorded := by simp
        removed := later.removed
        marked := later.marked
        unwaited := later.unwaited
        routes := later.tasks ▸ later.routes routes
        leases := later.tasks ▸ later.leases leases }
  have finish (cancelled : State) (cleanup : CleanupState)
      (underway : Underway workflowId before cancelled cleanup)
      (request : state.stopWorkflowRequest strings now fault workflowId =
        let result := [releaseRoutesStage strings now fault workflowId,
          releaseLeasesStage fault workflowId,
          clearWorkflowStage fault workflowId,
          releaseDagStage fault workflowId].foldl
            (fun result stage => thenStage workflowId stage result) (true, cancelled)
        if result.1 then
          (true, { result.2 with
            workflowCleanupStates := result.2.workflowCleanupStates.erase workflowId })
        else
          result) :
      ((state.stopWorkflowRequest strings now fault workflowId).1 = false →
          Resumable workflowId before
            (state.stopWorkflowRequest strings now fault workflowId).2) ∧
        ((state.stopWorkflowRequest strings now fault workflowId).1 = true →
          Stopped workflowId before
            (state.stopWorkflowRequest strings now fault workflowId).2) ∧
        (fault = none →
          (state.stopWorkflowRequest strings now fault workflowId).1 = true) := by
    obtain ⟨failed, succeeded, quiet⟩ := stages cancelled cleanup underway
    rw [request]
    dsimp only at failed succeeded quiet ⊢
    split
    · next success =>
      exact ⟨fun failure => Bool.noConfusion failure, fun _ => succeeded success,
        fun _ => rfl⟩
    · next failure =>
      exact ⟨failed, fun success => absurd success failure, quiet⟩
  by_cases clearRaises : fault = some .clearModelWorkflowState
  · have request : state.stopWorkflowRequest strings now fault workflowId =
        (false, marked) := by
      rw [stopWorkflowRequest, if_pos clearRaises]
    rw [request]
    refine ⟨fun _ => resumableMarked, fun success => Bool.noConfusion success, fun quiet => ?_⟩
    rw [quiet] at clearRaises
    cases clearRaises
  · rcases resumableCleared with unbegun | ⟨cleanup, underway⟩
    · have absent : (cleared.workflowCleanupStates.get? workflowId).isNone = true := by
        rw [unbegun.unrecorded]
        rfl
      by_cases cancelRaises : fault = some .cancelWorkflow
      · have request : state.stopWorkflowRequest strings now fault workflowId =
            (false, cleared) := by
          rw [stopWorkflowRequest, if_neg clearRaises]
          exact if_pos ⟨absent, cancelRaises⟩
        rw [request]
        refine ⟨fun _ => .inl unbegun, fun success => Bool.noConfusion success, fun quiet => ?_⟩
        rw [quiet] at cancelRaises
        cases cancelRaises
      · obtain ⟨cleanup, underway⟩ := unbegun.cancelWorkflow isMarked unwaited
        refine finish _ cleanup underway ?_
        rw [stopWorkflowRequest, if_neg clearRaises]
        have passes : ¬((cleared.workflowCleanupStates.get? workflowId).isNone = true ∧
            fault = some .cancelWorkflow) := fun raises => cancelRaises raises.2
        exact (if_neg passes).trans (by rw [if_pos absent])
    · have recorded : ¬(cleared.workflowCleanupStates.get? workflowId).isNone = true := by
        rw [underway.recorded]
        exact Bool.false_ne_true
      refine finish cleared cleanup underway ?_
      rw [stopWorkflowRequest, if_neg clearRaises]
      have passes : ¬((cleared.workflowCleanupStates.get? workflowId).isNone = true ∧
          fault = some .cancelWorkflow) := fun raises => recorded raises.1
      exact (if_neg passes).trans (by rw [if_neg recorded])

/-- The request is repeated, from wherever the last one has left the stop. -/
theorem repeatUntilStopped_law
    {strings : Strings}
    {after : State}
    (requests : List (ℚ × Option Fault))
    (resumable : Resumable workflowId before state)
    (repeated : repeatUntilStopped strings workflowId requests state = some after) :
    Stopped workflowId before after := by
  induction requests generalizing state with
  | nil => cases repeated
  | cons request rest inductionHypothesis =>
      obtain ⟨now, fault⟩ := request
      obtain ⟨failed, succeeded, _⟩ :=
        stopWorkflowRequest_law strings now fault resumable
      rw [repeatUntilStopped] at repeated
      split at repeated
      · next success =>
        obtain rfl := Option.some.inj repeated
        exact succeeded success
      · next failure =>
        exact inductionHypothesis (failed (Bool.eq_false_iff.mpr failure)) repeated

/-- Once nothing raises any more the request succeeds. -/
theorem repeatUntilStopped_isSome
    {strings : Strings}
    (requests : List (ℚ × Option Fault))
    (now : ℚ)
    (resumable : Resumable workflowId before state) :
    (repeatUntilStopped strings workflowId (requests ++ [(now, none)]) state).isSome =
      true := by
  induction requests generalizing state with
  | nil =>
      have succeeds := (stopWorkflowRequest_law strings now none resumable).2.2 rfl
      rw [List.nil_append, repeatUntilStopped]
      rw [if_pos succeeds]
      rfl
  | cons request rest inductionHypothesis =>
      obtain ⟨then_, fault⟩ := request
      obtain ⟨failed, _⟩ := stopWorkflowRequest_law strings then_ fault resumable
      rw [List.cons_append, repeatUntilStopped]
      split
      · rfl
      · next failure =>
        exact inductionHypothesis (failed (Bool.eq_false_iff.mpr failure))

end Stages

end State

end Maze.Scheduler.StopRequest
