import Mathlib.Logic.Relation
import Maze.Scheduler.TaskLeases
import Maze.Scheduler.ResourceAccounting

namespace Maze.Scheduler.TaskLeases

open Maze.Python
open Maze.Library
open Maze.Library.Transition

/-!
# What a step does to leases

A lease of a task is held by a running attempt and may pass from there to the
recovery of the attempt. Every step of the scheduler is a chain of a few effects
on the running attempts, the registered tasks, the active leases and the
recoveries; what a step does besides is irrelevant to leases and hidden behind
`SameAttempts`. What the effects preserve holds of every run.
-/

/-! ## Running attempts -/

/-- The runtime is at a running attempt that holds the lease. -/
def State.Holds
    (state : State)
    (x : ℕ)
    (leaseId : Identifier) : Prop :=
  ∃ task, state.tasks.get? x = some task ∧ task.status = .running ∧
    task.leaseId = some leaseId

/-- The runtime is registered with some workflow. -/
def State.Listed
    (state : State)
    (x : ℕ) : Prop :=
  ∃ workflowId workflow taskId,
    state.workflows.get? workflowId = some workflow ∧
      workflow.get? taskId = some x

/-- The change leaves the running attempts what they are. -/
structure StillRuns (before after : Task) : Prop where
  running : after.status = .running ↔ before.status = .running
  lease : after.status = .running → after.leaseId = before.leaseId
  place : after.status = .running → before.place = .taken → after.place = .taken

/-- The task runs in both states or in none; it may be new in the second. -/
inductive RunsAlike : Option Task → Option Task → Prop where
  | absent : RunsAlike none none
  | kept {before after : Task} :
      StillRuns before after → RunsAlike (some before) (some after)
  | received {task : Task} : task.status ≠ .running → RunsAlike none (some task)

/-- Two states that differ in nothing that leases depend on. -/
structure SameAttempts (before after : State) : Prop where
  leases :
    after.resourceManager.activeLeases = before.resourceManager.activeLeases
  workflows : after.workflows = before.workflows
  recoveries : after.recoveries = before.recoveries
  unverified : after.unverified = before.unverified
  issued : after.issuedLeases = before.issuedLeases
  tasks :
    ∀ x, RunsAlike (before.tasks.get? x) (after.tasks.get? x)

theorem StillRuns.refl (task : Task) : StillRuns task task :=
  ⟨Iff.rfl, fun _ => rfl, fun _ taken => taken⟩

theorem StillRuns.trans
    {first second third : Task}
    (earlier : StillRuns first second)
    (later : StillRuns second third) :
    StillRuns first third where
  running := later.running.trans earlier.running
  lease runs := (later.lease runs).trans (earlier.lease (later.running.mp runs))
  place runs taken :=
    later.place runs (earlier.place (later.running.mp runs) taken)

/-- A change of a task that does not run and does not start to run. -/
theorem StillRuns.of_idle
    {before after : Task}
    (idle : before.status ≠ .running)
    (stays : after.status ≠ .running) :
    StillRuns before after :=
  ⟨iff_of_false stays idle, fun runs => absurd runs stays,
    fun runs => absurd runs stays⟩

theorem SameAttempts.refl (state : State) : SameAttempts state state where
  leases := rfl
  workflows := rfl
  recoveries := rfl
  unverified := rfl
  issued := rfl
  tasks x := by
    cases state.tasks.get? x with
    | none => exact .absent
    | some task => exact .kept (StillRuns.refl task)

theorem SameAttempts.trans
    {first second third : State}
    (earlier : SameAttempts first second)
    (later : SameAttempts second third) :
    SameAttempts first third where
  leases := later.leases.trans earlier.leases
  workflows := later.workflows.trans earlier.workflows
  recoveries := later.recoveries.trans earlier.recoveries
  unverified := later.unverified.trans earlier.unverified
  issued := later.issued.trans earlier.issued
  tasks x := by
    have one := earlier.tasks x
    have two := later.tasks x
    revert one two
    generalize first.tasks.get? x = a
    generalize second.tasks.get? x = b
    generalize third.tasks.get? x = c
    intro one two
    cases one with
    | absent => exact two
    | kept runs =>
        cases two with
        | kept still => exact .kept (runs.trans still)
    | received idle =>
        cases two with
        | kept still =>
            exact .received fun runs => idle (still.running.mp runs)

variable
  {state : State}
  {x : ℕ}
  {draining : List PendingRecovery}
  {workflowId : Identifier}
  {lease : Lease}
  {error : PyDict}
  {recovery : PendingRecovery}
  {manager : ResourceManager}
  {change : Task → Task}
  {leaseId : PyStr}

/-- A change of one task keeps the attempts if it keeps that of the task. -/
theorem sameAttempts_modifyTask
    (keeps :
      ∀ task, state.tasks.get? x = some task → StillRuns task (change task)) :
    SameAttempts state (state.modifyTask x change) where
  leases := rfl
  workflows := rfl
  recoveries := rfl
  unverified := rfl
  issued := rfl
  tasks y := by
    simp only [State.modifyTask, Table.get?_modify]
    split
    · next same =>
      subst same
      cases found : state.tasks.get? y with
      | none => exact .absent
      | some task => exact .kept (keeps task found)
    · exact (SameAttempts.refl state).tasks y

theorem sameAttempts_removeModelWaiters
    (state : State)
    (workflowId : Identifier) :
    SameAttempts state (state.removeModelWaiters workflowId) where
  leases := rfl
  workflows := rfl
  recoveries := rfl
  unverified := rfl
  issued := rfl
  tasks y := by
    simp only [State.removeModelWaiters, Table.get?_mapValues]
    cases state.tasks.get? y with
    | none => exact .absent
    | some task =>
        refine .kept ?_
        dsimp only
        split
        · exact ⟨Iff.rfl, fun _ => rfl, fun _ _ => rfl⟩
        · exact StillRuns.refl task

/-- The same attempts hold the same leases. -/
theorem SameAttempts.holds
    {before after : State}
    (same : SameAttempts before after)
    (x : ℕ)
    (leaseId : Identifier) :
    after.Holds x leaseId ↔ before.Holds x leaseId := by
  have related := same.tasks x
  unfold State.Holds
  revert related
  generalize before.tasks.get? x = old
  generalize after.tasks.get? x = new
  intro related
  cases related with
  | absent => simp
  | received idle => simp [idle]
  | kept runs =>
      simp only [Option.some.injEq, exists_eq_left']
      constructor
      · rintro ⟨running, holds⟩
        exact ⟨runs.running.mp running, runs.lease running ▸ holds⟩
      · rintro ⟨running, holds⟩
        have stays := runs.running.mpr running
        exact ⟨stays, (runs.lease stays).trans holds⟩

theorem isRunning_iff
    (state : State)
    (x : ℕ) :
    state.isRunning x = true ↔
      ∃ task, state.tasks.get? x = some task ∧ task.status = .running := by
  unfold State.isRunning
  cases state.tasks.get? x <;> simp

/-- A task of the one state is there in the other. -/
theorem SameAttempts.task
    {before after : State}
    {task : Task}
    (same : SameAttempts before after)
    (found : before.tasks.get? x = some task) :
    ∃ current, after.tasks.get? x = some current ∧ StillRuns task current := by
  have related := same.tasks x
  rw [found] at related
  generalize after.tasks.get? x = new at related
  cases related with
  | kept still => exact ⟨_, rfl, still⟩

theorem SameAttempts.isRunning
    {before after : State}
    (same : SameAttempts before after) :
    after.isRunning = before.isRunning := by
  funext x
  have related := same.tasks x
  rw [Bool.eq_iff_iff, isRunning_iff, isRunning_iff]
  revert related
  generalize before.tasks.get? x = old
  generalize after.tasks.get? x = new
  intro related
  cases related with
  | absent => simp
  | received idle => simpa using idle
  | kept runs => simpa using runs.running

/-- The same attempts run in a workflow. -/
theorem SameAttempts.runningOf
    {before after : State}
    (same : SameAttempts before after)
    (workflowId : Identifier) :
    after.runningOf workflowId = before.runningOf workflowId := by
  simp only [State.runningOf, State.runningIn, same.workflows, same.isRunning]

theorem mem_runningIn
    (state : State)
    (workflow : Table Identifier ℕ)
    (x : ℕ) :
    x ∈ state.runningIn workflow ↔
      (∃ taskId, workflow.get? taskId = some x) ∧ state.isRunning x = true := by
  simp [State.runningIn, Table.get?_eq_some_iff]

theorem mem_runningOf
    (state : State)
    (workflowId : Identifier)
    (x : ℕ) :
    x ∈ state.runningOf workflowId ↔
      (∃ workflow taskId, state.workflows.get? workflowId = some workflow ∧
        workflow.get? taskId = some x) ∧ state.isRunning x = true := by
  unfold State.runningOf
  cases state.workflows.get? workflowId with
  | none => simp
  | some workflow => simp [mem_runningIn]

theorem mem_runningTasks
    (state : State)
    (x : ℕ) :
    x ∈ state.runningTasks ↔ state.Listed x ∧ state.isRunning x = true := by
  unfold State.runningTasks State.Listed
  simp only [List.mem_flatMap, mem_runningIn, Prod.exists,
    ← Table.get?_eq_some_iff]
  constructor
  · rintro ⟨workflowId, workflow, there, ⟨taskId, listed⟩, runs⟩
    exact ⟨⟨workflowId, workflow, taskId, there, listed⟩, runs⟩
  · rintro ⟨⟨workflowId, workflow, taskId, there, listed⟩, runs⟩
    exact ⟨workflowId, workflow, there, ⟨taskId, listed⟩, runs⟩

theorem State.Holds.isRunning
    {leaseId : Identifier}
    (holds : state.Holds x leaseId) :
    state.isRunning x = true := by
  obtain ⟨task, found, runs, _⟩ := holds
  exact (isRunning_iff state x).mpr ⟨task, found, runs⟩

/-! ## Active leases -/

/-- The lease with the id, if it is active. -/
def State.activeLease
    (state : State)
    (leaseId : PyStr) :
    Option Lease :=
  state.resourceManager.activeLeases.get? leaseId

/-- A release takes its lease away and no other. -/
theorem activeLease_release
    (released : Option Identifier)
    (state : State)
    (leaseId : PyStr) :
    (state.release released).activeLease leaseId =
      if released.map Subtype.val = some leaseId then none
      else state.activeLease leaseId := by
  cases released with
  | none => rfl
  | some released =>
      simp only [State.activeLease, State.release, Option.map_some,
        Option.some.injEq, ResourceManager.activeLeases_releaseLease, eq_comm]

/-- Releasing the leases of some tasks takes these away and no others. -/
theorem activeLease_releaseTasks
    (cancelled : List ℕ)
    (state : State)
    (leaseId : PyStr) :
    (cancelled.foldl (fun state x => state.releaseTask x) state).activeLease
        leaseId =
      if ∃ x ∈ cancelled, (state.leaseOf x).map Subtype.val = some leaseId then
        none
      else
        state.activeLease leaseId := by
  induction cancelled generalizing state with
  | nil => simp
  | cons x rest inductionHypothesis =>
      have kept : (state.releaseTask x).leaseOf = state.leaseOf := rfl
      rw [List.foldl_cons, inductionHypothesis, kept, State.releaseTask,
        activeLease_release]
      simp only [List.mem_cons, exists_eq_or_imp]
      split <;> split <;> simp_all

/-- What is not about leases is left alone by the releases. -/
theorem releaseTasks_frame
    (cancelled : List ℕ)
    (state : State) :
    let released := cancelled.foldl (fun state x => state.releaseTask x) state
    released.tasks = state.tasks ∧ released.workflows = state.workflows ∧
      released.recoveries = state.recoveries ∧
      released.unverified = state.unverified ∧
      released.issuedLeases = state.issuedLeases := by
  induction cancelled generalizing state with
  | nil => exact ⟨rfl, rfl, rfl, rfl, rfl⟩
  | cons x rest inductionHypothesis => exact inductionHypothesis (state.releaseTask x)

/-- What the end of a workflow does to leases and attempts. -/
structure EndsWorkflow
    (workflowId : Identifier)
    (before after : State) : Prop where
  leases :
    ∀ leaseId, after.activeLease leaseId =
      if ∃ x ∈ before.runningOf workflowId,
          (before.leaseOf x).map Subtype.val = some leaseId then
        none
      else
        before.activeLease leaseId
  workflows : after.workflows = before.workflows.erase workflowId
  recoveries : after.recoveries = before.recoveries
  unverified : after.unverified = before.unverified
  issued : after.issuedLeases = before.issuedLeases
  tasks :
    ∀ x, RunsAlike (before.tasks.get? x) (after.tasks.get? x)

theorem leaseOf_removeModelWaiters
    (state : State)
    (workflowId : Identifier)
    (x : ℕ) :
    (state.removeModelWaiters workflowId).leaseOf x = state.leaseOf x := by
  simp only [State.leaseOf, State.removeModelWaiters, Table.get?_mapValues]
  cases state.tasks.get? x with
  | none => rfl
  | some task =>
      simp only [Option.map_some, Option.bind_some]
      split <;> rfl

theorem cancelWorkflow_ends
    (state : State)
    (workflowId : Identifier) :
    EndsWorkflow workflowId state (state.cancelWorkflow workflowId) := by
  have waiting := sameAttempts_removeModelWaiters state workflowId
  have running := waiting.runningOf workflowId
  obtain ⟨tasks, workflows, recoveries, unverified, issued⟩ :=
    releaseTasks_frame
      ((state.removeModelWaiters workflowId).runningOf workflowId)
      ((state.removeModelWaiters workflowId).clearWorkflow workflowId)
  refine ⟨fun leaseId => ?_, workflows, recoveries, unverified, issued, fun x => ?_⟩
  · have released :=
      activeLease_releaseTasks
        ((state.removeModelWaiters workflowId).runningOf workflowId)
        ((state.removeModelWaiters workflowId).clearWorkflow workflowId) leaseId
    have kept :
        ((state.removeModelWaiters workflowId).clearWorkflow workflowId).leaseOf =
          state.leaseOf :=
      funext (leaseOf_removeModelWaiters state workflowId)
    rw [kept] at released
    rw [← running]
    exact released
  · have same := waiting.tasks x
    rw [show (state.removeModelWaiters workflowId).tasks =
      (state.cancelWorkflow workflowId).tasks from tasks.symm] at same
    exact same

/-- The same attempts hold the same leases after the end of a workflow. -/
theorem EndsWorkflow.holds
    {before after : State}
    (ends : EndsWorkflow workflowId before after)
    (x : ℕ)
    (leaseId : Identifier) :
    after.Holds x leaseId ↔ before.Holds x leaseId := by
  have same :
      SameAttempts before
        { before with tasks := after.tasks } :=
    ⟨rfl, rfl, rfl, rfl, rfl, ends.tasks⟩
  exact same.holds x leaseId

/-- The end of a workflow makes no lease active. -/
theorem EndsWorkflow.before_of_active
    {before after : State}
    (ends : EndsWorkflow workflowId before after)
    (active : after.activeLease leaseId = some lease) :
    before.activeLease leaseId = some lease := by
  rw [ends.leases] at active
  split at active
  · cases active
  · exact active

/-- A release makes no lease active. -/
theorem active_of_release
    {released : Option Identifier}
    (active : (state.release released).activeLease leaseId = some lease) :
    state.activeLease leaseId = some lease := by
  rw [activeLease_release] at active
  split at active
  · cases active
  · exact active

/-! ## Claims on leases -/

/-- The recoveries that have a claim on a lease, with those being drained. -/
def State.claims
    (state : State)
    (draining : List PendingRecovery) :
    List PendingRecovery :=
  draining ++ (state.recoveries ++ state.unverified)

/-- No lease is claimed twice. -/
structure State.Sound
    (state : State)
    (draining : List PendingRecovery) : Prop where
  placed :
    ∀ x task, state.tasks.get? x = some task → task.status = .running →
      task.place = .taken ∧ task.leaseId ≠ none
  issued : ∀ x leaseId, state.Holds x leaseId → leaseId.val ∈ state.issuedLeases
  distinct :
    ∀ x y leaseId, state.Holds x leaseId → state.Holds y leaseId → x = y
  apart :
    ∀ x leaseId, state.Holds x leaseId →
      ∀ recovery ∈ state.claims draining,
        recovery.identity.leaseId ≠ some leaseId
  recovered :
    ∀ recovery ∈ state.claims draining, ∃ leaseId : Identifier,
      recovery.identity.leaseId = some leaseId ∧ leaseId.val ∈ state.issuedLeases
  separate :
    ((state.claims draining).map fun recovery => recovery.identity.leaseId).Nodup
  drawn :
    ∀ leaseId lease, state.activeLease leaseId = some lease →
      leaseId ∈ state.issuedLeases

/-- Fewer attempts and the same claims are sound. -/
theorem State.Sound.shrink
    {before after : State}
    {draining rest : List PendingRecovery}
    (sound : before.Sound draining)
    (placed :
      ∀ x task, after.tasks.get? x = some task → task.status = .running →
        task.place = .taken ∧ task.leaseId ≠ none)
    (holds : ∀ x leaseId, after.Holds x leaseId → before.Holds x leaseId)
    (issued : ∀ leaseId ∈ before.issuedLeases, leaseId ∈ after.issuedLeases)
    (drawn :
      ∀ leaseId lease, after.activeLease leaseId = some lease →
        leaseId ∈ after.issuedLeases)
    (claims :
      ((after.claims rest).map fun recovery => recovery.identity.leaseId).Subperm
        ((before.claims draining).map fun recovery =>
          recovery.identity.leaseId)) :
    after.Sound rest := by
  have claimed :
      ∀ recovery ∈ after.claims rest,
        ∃ old ∈ before.claims draining,
          old.identity.leaseId = recovery.identity.leaseId := by
    intro recovery inside
    exact List.mem_map.mp (claims.subset (List.mem_map_of_mem inside))
  refine
    { placed := placed
      issued := fun x leaseId here => issued _ (sound.issued x leaseId (holds _ _ here))
      distinct := fun x y leaseId first second =>
        sound.distinct x y leaseId (holds _ _ first) (holds _ _ second)
      apart := ?_
      recovered := ?_
      separate := by
        obtain ⟨arranged, same, part⟩ := claims
        exact same.nodup_iff.mp (part.nodup sound.separate)
      drawn := drawn }
  · intro x leaseId here recovery inside same
    obtain ⟨old, there, equal⟩ := claimed recovery inside
    exact sound.apart x leaseId (holds _ _ here) old there (equal.trans same)
  · intro recovery inside
    obtain ⟨old, there, equal⟩ := claimed recovery inside
    obtain ⟨leaseId, named, drawn⟩ := sound.recovered old there
    exact ⟨leaseId, equal ▸ named, issued _ drawn⟩

/-- Running tasks stay in their place while their attempts stay the same. -/
theorem placed_of_rel
    {before after : State}
    (tasks :
      ∀ x, RunsAlike (before.tasks.get? x) (after.tasks.get? x))
    (placed :
      ∀ x task, before.tasks.get? x = some task → task.status = .running →
        task.place = .taken ∧ task.leaseId ≠ none) :
    ∀ x task, after.tasks.get? x = some task → task.status = .running →
      task.place = .taken ∧ task.leaseId ≠ none := by
  intro x task found runs
  have related := tasks x
  rw [found] at related
  cases old : before.tasks.get? x with
  | none =>
      rw [old] at related
      cases related with
      | received idle => exact absurd runs idle
  | some earlier =>
      rw [old] at related
      cases related with
      | kept still =>
          obtain ⟨taken, leased⟩ := placed x earlier old (still.running.mp runs)
          exact ⟨still.place runs taken, still.lease runs ▸ leased⟩

theorem SameAttempts.sound
    {before after : State}
    (same : SameAttempts before after)
    (sound : before.Sound draining) :
    after.Sound draining := by
  refine sound.shrink (placed_of_rel same.tasks sound.placed)
    (fun x leaseId => (same.holds x leaseId).mp) ?_ ?_ ?_
  · rw [same.issued]
    exact fun _ => id
  · simp only [State.activeLease, same.leases, same.issued]
    exact sound.drawn
  · rw [State.claims, State.claims, same.recoveries, same.unverified]

theorem EndsWorkflow.sound
    {before after : State}
    (ends : EndsWorkflow workflowId before after)
    (sound : before.Sound draining) :
    after.Sound draining := by
  refine sound.shrink (placed_of_rel ends.tasks sound.placed)
    (fun x leaseId => (ends.holds x leaseId).mp) ?_ ?_ ?_
  · rw [ends.issued]
    exact fun _ => id
  · intro leaseId lease active
    rw [ends.issued]
    exact sound.drawn leaseId lease (ends.before_of_active active)
  · rw [State.claims, State.claims, ends.recoveries, ends.unverified]

/-- A task that stops to run leaves the others what they are. -/
theorem State.Sound.stop
    (sound : state.Sound draining)
    (stops : ∀ task, (change task).status ≠ .running) :
    (state.modifyTask x change).Sound draining := by
  have found :
      ∀ y task, (state.modifyTask x change).tasks.get? y = some task →
        task.status = .running → state.tasks.get? y = some task := by
    intro y task found runs
    simp only [State.modifyTask, Table.get?_modify] at found
    split at found
    · obtain ⟨old, _, rfl⟩ := Option.map_eq_some_iff.mp found
      exact absurd runs (stops old)
    · exact found
  refine sound.shrink ?_ ?_ (fun _ => id) sound.drawn (List.Subperm.refl _)
  · intro y task here runs
    exact sound.placed y task (found y task here runs) runs
  · rintro y leaseId ⟨task, here, runs, holds⟩
    exact ⟨task, found y task here runs, runs, holds⟩

theorem State.Sound.release
    (sound : state.Sound draining)
    (leaseId : Option Identifier) :
    (state.release leaseId).Sound draining :=
  sound.shrink sound.placed (fun _ _ => id) (fun _ => id)
    (fun id lease active => sound.drawn id lease (active_of_release active))
    (List.Subperm.refl _)

/-! ## What a failure does -/

/-- The attempt of the task has been handed to the recovery coordinator. -/
def State.handOver
    (state : State)
    (x : ℕ)
    (recovery : PendingRecovery) :
    State :=
  { state.modifyTask x fun task => { task with status := .recovering } with
    recoveries := state.recoveries ++ [recovery] }

/-- How `_retry_or_fail_task` can end for a task. -/
inductive FailureOutcome
    (x : ℕ)
    (task : Task)
    (before : State) : State → Prop where
  | ended {after : State} :
      EndsWorkflow task.workflowId before after →
        FailureOutcome x task before after
  | retried {base : State} (request : ResourceRequest) :
      SameAttempts before base →
        FailureOutcome x task before
          ((base.release task.leaseId).modifyTask x (scheduleRetry request))
  | handedOver {base : State} {recovery : PendingRecovery} :
      SameAttempts before base → recovery.task = x →
        recovery.identity = task.identity → recovery.future = none →
          FailureOutcome x task before (base.handOver x recovery)

/-- The same attempts, and then the end of a workflow. -/
theorem SameAttempts.ends
    {before base after : State}
    (same : SameAttempts before base)
    (ends : EndsWorkflow workflowId base after) :
    EndsWorkflow workflowId before after where
  leases leaseId := by
    have running := same.runningOf workflowId
    have leases :
        ∀ x ∈ before.runningOf workflowId, base.leaseOf x = before.leaseOf x := by
      intro x inside
      have runs := ((mem_runningOf before workflowId x).mp inside).2
      obtain ⟨task, found, status⟩ := (isRunning_iff before x).mp runs
      obtain ⟨current, there, still⟩ := same.task found
      simp only [State.leaseOf, found, there, Option.bind_some]
      exact still.lease (still.running.mpr status)
    have active : base.activeLease leaseId = before.activeLease leaseId := by
      simp only [State.activeLease, same.leases]
    rw [ends.leases, running, active]
    congr 1
    refine propext (exists_congr fun x => and_congr_right fun inside => ?_)
    rw [leases x inside]
  workflows := by rw [ends.workflows, same.workflows]
  recoveries := ends.recoveries.trans same.recoveries
  unverified := ends.unverified.trans same.unverified
  issued := ends.issued.trans same.issued
  tasks := by
    have later : SameAttempts base { base with tasks := after.tasks } :=
      ⟨rfl, rfl, rfl, rfl, rfl, ends.tasks⟩
    exact (same.trans later).tasks

theorem sameAttempts_recordOutcome
    (state : State)
    (x : ℕ)
    (assessment : Assessment)
    (stoppedWorkflows : List Identifier) :
    SameAttempts state
      { state.modifyTask x (recordOutcome assessment) with
        stoppedWorkflows := stoppedWorkflows } := by
  have same :
      SameAttempts state (state.modifyTask x (recordOutcome assessment)) :=
    sameAttempts_modifyTask fun _ _ => ⟨Iff.rfl, fun _ => rfl, fun _ => id⟩
  exact ⟨same.leases, same.workflows, same.recoveries, same.unverified, same.issued,
    same.tasks⟩

/-- The change of the nested call keeps the attempts. -/
theorem sameAttempts_exhausted
    (state : State)
    (x : ℕ) :
    SameAttempts state
      (state.modifyTask x fun task =>
        { task with
          maxRetries := 0
          lastMetrics := .null }) :=
  sameAttempts_modifyTask fun _ _ => ⟨Iff.rfl, fun _ => rfl, fun _ => id⟩

/-- `should_retry` for the error as it is enriched. -/
def retries
    (task : Task)
    (error : PyDict)
    (assessment : Assessment) :
    Bool :=
  task.shouldRetry
      (enrichErrorForTask error task.toTaskRuntime assessment.memoryFailure
        assessment.timestamp) &&
    assessment.recoverable

/-- `submit` refuses, or hands the attempt to the coordinator. -/
theorem submitRecovery_eq
    (state : State)
    (x : ℕ)
    (task : Task)
    (error : PyDict)
    (scope : RecoveryScope)
    (request : ResourceRequest) :
    state.submitRecovery x task error scope request =
      if maxRecoveries ≤ state.recoveries.length then none
      else some (state.handOver x ⟨x, task.identity, error, scope, request, none⟩) :=
  rfl

theorem retryOrFailTask_outcome
    {task : Task}
    (found : state.tasks.get? x = some task)
    (error : PyDict)
    (assessment : Assessment) :
    FailureOutcome x task state (state.retryOrFailTask x error assessment) ∧
      (retries task error assessment = false →
        EndsWorkflow task.workflowId state
          (state.retryOrFailTask x error assessment)) := by
  have base := sameAttempts_recordOutcome state x assessment
  have exhausted := fun marks =>
    (base marks).trans (sameAttempts_exhausted
      { state.modifyTask x (recordOutcome assessment) with
        stoppedWorkflows := marks } x)
  unfold State.retryOrFailTask
  rw [found]
  dsimp only
  split
  · next retried =>
    refine ⟨?_, fun final => absurd retried (by rw [retries] at final; simp [final])⟩
    split
    · exact .ended ((base _).ends (cancelWorkflow_ends _ _))
    · exact .retried _ (base _)
    · next scope request instanceCleanup _ =>
      split
      · next submitted handed =>
        split at handed
        · cases handed
        · rw [submitRecovery_eq] at handed
          split at handed
          · cases handed
          · obtain rfl := Option.some.inj handed
            exact .handedOver (base _) rfl rfl rfl
      · exact .ended ((exhausted _).ends (cancelWorkflow_ends _ _))
  · have marked :
        SameAttempts state
          ((state.modifyTask x (recordOutcome assessment)).markStopped
            task.workflowId) :=
      base _
    have ends := marked.ends (cancelWorkflow_ends _ task.workflowId)
    exact ⟨.ended ends, fun _ => ends⟩

/-! ### Errors that are not retryable -/

/-- An error that is not retryable is never retried. -/
theorem retries_of_not_retryable
    (task : Task)
    (assessment : Assessment)
    (final : error.get "retryable" = .bool false) :
    retries task error assessment = false := by
  have kept :
      (enrichErrorForTask error task.toTaskRuntime assessment.memoryFailure
          assessment.timestamp).get "retryable" =
        .bool false :=
    (enrichErrorForTask_get _ _ _ _ (by simp [enrichedKeys])).trans final
  simp [retries, TaskRuntime.shouldRetry, kept, PyVal.truthy]

/-- The errors that the scheduler makes itself. -/
def schedulerErrors : List PyStr :=
  ["scheduler_error", "resource_capacity_exceeded", "timeout",
    "resource_cleanup_failed"]

theorem makeErrorEnvelope_final
    {errorType : PyStr}
    (made : errorType ∈ schedulerErrors)
    (message timestamp : PyStr)
    (attempt : PyVal) :
    (makeErrorEnvelope errorType message none attempt timestamp).get "retryable" =
      .bool false := by
  rw [makeErrorEnvelope_retryable]
  simp only [schedulerErrors, List.mem_cons, List.not_mem_nil, or_false] at made
  rcases made with rfl | rfl | rfl | rfl <;> simp [retryableDefault]

theorem exceptionToErrorEnvelope_final
    {errorType : PyStr}
    (made : errorType ∈ schedulerErrors)
    (info : ExceptionInfo)
    (attempt : PyVal)
    (timestamp : PyStr) :
    (exceptionToErrorEnvelope errorType info attempt timestamp).get "retryable" =
      .bool false := by
  rw [exceptionToErrorEnvelope_get _ _ _ _ (by simp) (by simp) (by simp)]
  exact makeErrorEnvelope_final made _ _ _

/-- A failure that is not retryable ends the workflow of the task. -/
theorem retryOrFailTask_ends
    {task : Task}
    (found : state.tasks.get? x = some task)
    (assessment : Assessment)
    (final : error.get "retryable" = .bool false) :
    EndsWorkflow task.workflowId state
      (state.retryOrFailTask x error assessment) :=
  (retryOrFailTask_outcome found error assessment).2
    (retries_of_not_retryable task assessment final)

/-! ## Soundness is kept -/

/-- A running attempt that is handed over keeps its claim on its lease. -/
theorem State.Sound.handOver
    {task : Task}
    (sound : state.Sound draining)
    (found : state.tasks.get? x = some task)
    (runs : task.status = .running)
    (claimed : recovery.identity.leaseId = task.leaseId) :
    (state.handOver x recovery).Sound draining := by
  obtain ⟨_, leased⟩ := sound.placed x task found runs
  obtain ⟨leaseId, holds⟩ := Option.ne_none_iff_exists'.mp leased
  have named : recovery.identity.leaseId = some leaseId := claimed.trans holds
  have owner : state.Holds x leaseId := ⟨task, found, runs, holds⟩
  have stopped :
      (state.modifyTask x fun task => { task with status := .recovering }).Sound
        draining :=
    sound.stop fun _ => by simp
  have others :
      ∀ y id, (state.handOver x recovery).Holds y id → state.Holds y id ∧ y ≠ x := by
    rintro y id ⟨other, there, running, held⟩
    simp only [State.handOver, State.modifyTask, Table.get?_modify] at there
    split at there
    · obtain ⟨old, _, rfl⟩ := Option.map_eq_some_iff.mp there
      cases running
    · next differ => exact ⟨⟨other, there, running, held⟩, differ⟩
  have claims :
      ((state.handOver x recovery).claims draining).Perm
        (recovery :: state.claims draining) := by
    simp only [State.claims, State.handOver, State.modifyTask, List.append_assoc]
    refine (List.Perm.append_left draining List.perm_middle).trans ?_
    exact List.perm_middle
  have inside :
      ∀ claim ∈ (state.handOver x recovery).claims draining,
        claim = recovery ∨ claim ∈ state.claims draining := fun claim member =>
    List.mem_cons.mp (claims.mem_iff.mp member)
  refine
    { placed := stopped.placed
      issued := fun y id here => sound.issued y id (others y id here).1
      distinct := fun y z id first second =>
        sound.distinct y z id (others y id first).1 (others z id second).1
      apart := ?_
      recovered := ?_
      separate := ?_
      drawn := sound.drawn }
  · intro y id here claim member same
    obtain ⟨held, differ⟩ := others y id here
    rcases inside claim member with rfl | earlier
    · obtain rfl : leaseId = id := Option.some.inj (named.symm.trans same)
      exact differ (sound.distinct y x leaseId held owner)
    · exact sound.apart y id held claim earlier same
  · intro claim member
    rcases inside claim member with rfl | earlier
    · exact ⟨leaseId, named, sound.issued x leaseId owner⟩
    · exact sound.recovered claim earlier
  · refine ((claims.map _).nodup_iff).mpr (List.nodup_cons.mpr ⟨?_, sound.separate⟩)
    intro member
    obtain ⟨claim, earlier, same⟩ := List.mem_map.mp member
    exact sound.apart x leaseId owner claim earlier (same.trans named)

/-! ## Effects -/

/-- The scheduler, and the completed recoveries that it is still draining. -/
abbrev Moment := List PendingRecovery × State

/-- The lease with the id that the attempt of a recovery holds. -/
def PendingRecovery.holdsLease
    (recovery : PendingRecovery)
    (leaseId : PyStr) : Prop :=
  recovery.identity.leaseId.map Subtype.val = some leaseId

/--
What a run is known to do. If it is `careful`, a workflow is not cleared while a
task of it runs, and only the recovery of a GPU worker is dropped with an active
lease. Cleanups end as `mayEnd` says.
-/
structure Discipline where
  careful : Prop
  mayEnd : AttemptIdentity → CleanupResult → Prop

/-- What the steps of the scheduler are made of. -/
inductive Effect (discipline : Discipline) : Moment → Moment → Prop where
  | same {draining : List PendingRecovery} {before after : State} :
      SameAttempts before after →
        Effect discipline (draining, before) (draining, after)
  /-- Only leases of model instances are granted or released. -/
  | ledger {draining : List PendingRecovery} {state : State}
      {manager : ResourceManager} {issuedLeases : List PyStr} :
      (∀ leaseId lease, lease.reservationKind = .task →
        (manager.activeLeases.get? leaseId = some lease ↔
          state.activeLease leaseId = some lease)) →
      (∀ leaseId lease, manager.activeLeases.get? leaseId = some lease →
        leaseId ∈ issuedLeases) →
      (∀ leaseId ∈ state.issuedLeases, leaseId ∈ issuedLeases) →
        Effect discipline (draining, state)
          (draining,
            { state with
              resourceManager := manager
              issuedLeases := issuedLeases })
  /-- A task is registered; all others stay where they are. -/
  | registered {draining : List PendingRecovery} {state : State}
      {workflows : Table Identifier (Table Identifier ℕ)} :
      (∀ x, state.Listed x → { state with workflows := workflows }.Listed x) →
        Effect discipline (draining, state)
          (draining, { state with workflows := workflows })
  | ended {draining : List PendingRecovery} {before after : State}
      {workflowId : Identifier} :
      EndsWorkflow workflowId before after →
        Effect discipline (draining, before) (draining, after)
  | cleared {draining : List PendingRecovery} {state : State}
      {workflowId : Identifier} :
      (discipline.careful → state.runningOf workflowId = []) →
        Effect discipline (draining, state)
          (draining, state.clearWorkflow workflowId)
  /-- A running task stops and its lease is released. -/
  | stopped {draining : List PendingRecovery} {state : State} {x : ℕ}
      {task : Task} {change : Task → Task} :
      state.tasks.get? x = some task → task.status = .running →
        (∀ other, (change other).status ≠ .running) →
          Effect discipline (draining, state)
            (draining, (state.release task.leaseId).modifyTask x change)
  | handedOver {draining : List PendingRecovery} {state : State} {x : ℕ}
      {task : Task} {recovery : PendingRecovery} :
      state.tasks.get? x = some task → task.status = .running →
        recovery.identity.leaseId = task.leaseId → recovery.future = none →
          Effect discipline (draining, state)
            (draining, state.handOver x recovery)
  /-- A registered task that did not run starts on a lease that is new. -/
  | granted {draining : List PendingRecovery} {state : State} {x : ℕ}
      {task : Task} {leaseId : Identifier} {change : Task → Task}
      {manager : ResourceManager} {lease : Lease} :
      state.tasks.get? x = some task → task.status ≠ .running →
        state.Listed x → (change task).status = .running →
          (change task).leaseId = some leaseId → (change task).place = .taken →
            leaseId.val ∉ state.issuedLeases →
              (∀ id, manager.activeLeases.get? id =
                if id = leaseId.val then some lease else state.activeLease id) →
                Effect discipline (draining, state)
                  (draining,
                    { state.modifyTask x change with
                      resourceManager := manager
                      issuedLeases := leaseId.val :: state.issuedLeases })
  /-- A cleanup ends. -/
  | cleanupEnded {draining : List PendingRecovery} {state : State}
      (identity : AttemptIdentity) (result : CleanupResult) :
      discipline.mayEnd identity result →
      Effect discipline (draining, state)
        (draining,
          { state with
            recoveries := state.recoveries.map (endCleanup identity result) })
  | drainStarted {state : State} :
      Effect discipline ([], state)
        (state.completedRecoveries,
          { state with
            recoveries :=
              state.recoveries.filter fun recovery => recovery.future.isNone })
  /-- The lease of a verified recovery is released. -/
  | verified {draining : List PendingRecovery} {state : State}
      {recovery : PendingRecovery} :
      recovery.future = some .returned →
        Effect discipline (recovery :: draining, state)
          (draining, state.release recovery.identity.leaseId)
  /-- The lease of the caller of a model instance is released. -/
  | callerReleased {draining : List PendingRecovery} {state : State}
      {recovery : PendingRecovery} :
      recovery.scope = .modelInstance →
        Effect discipline (recovery :: draining, state)
          (recovery :: draining, state.release recovery.identity.leaseId)
  /-- A recovery is dropped after its cleanup has raised. -/
  | dropped {draining : List PendingRecovery} {state : State}
      {recovery : PendingRecovery} :
      (discipline.careful → recovery.scope = .task ∨
        ∀ leaseId, recovery.holdsLease leaseId →
          state.activeLease leaseId = none) →
        Effect discipline (recovery :: draining, state)
          (draining, { state with unverified := recovery :: state.unverified })

/-- A chain of effects. -/
abbrev Effects (discipline : Discipline) : Moment → Moment → Prop :=
  Relation.ReflTransGen (Effect discipline)

theorem identity_endCleanup
    (identity : AttemptIdentity)
    (result : CleanupResult)
    (recovery : PendingRecovery) :
    (endCleanup identity result recovery).identity = recovery.identity := by
  unfold endCleanup
  split <;> rfl

/-- A new attempt keeps all claims apart, as its lease is new. -/
theorem State.Sound.grant
    {task : Task}
    {leaseId : Identifier}
    (sound : state.Sound draining)
    (found : state.tasks.get? x = some task)
    (leased : (change task).leaseId = some leaseId)
    (placed : (change task).place = .taken)
    (new : leaseId.val ∉ state.issuedLeases)
    (leases :
      ∀ id, manager.activeLeases.get? id =
        if id = leaseId.val then some lease else state.activeLease id) :
    State.Sound
      { state.modifyTask x change with
        resourceManager := manager
        issuedLeases := leaseId.val :: state.issuedLeases }
      draining := by
  have held :
      ∀ y id, (state.modifyTask x change).Holds y id →
        y = x ∧ id = leaseId ∨ state.Holds y id := by
    rintro y id ⟨current, there, runs, holds⟩
    simp only [State.modifyTask, Table.get?_modify] at there
    split at there
    · next here =>
      subst here
      rw [found, Option.map_some, Option.some.injEq] at there
      subst there
      exact .inl ⟨rfl, (Option.some.inj (leased.symm.trans holds)).symm⟩
    · exact .inr ⟨current, there, runs, holds⟩
  have older : ∀ y, ¬ state.Holds y leaseId := fun y holds =>
    new (sound.issued y leaseId holds)
  refine
    { placed := ?_
      issued := ?_
      distinct := ?_
      apart := ?_
      recovered := ?_
      separate := sound.separate
      drawn := ?_ }
  · intro y current there runs
    simp only [State.modifyTask, Table.get?_modify] at there
    split at there
    · next here =>
      subst here
      rw [found, Option.map_some, Option.some.injEq] at there
      subst there
      exact ⟨placed, by simp [leased]⟩
    · exact sound.placed y current there runs
  · intro y id holds
    rcases held y id holds with ⟨_, rfl⟩ | earlier
    · exact List.mem_cons_self
    · exact List.mem_cons_of_mem _ (sound.issued y id earlier)
  · intro y z id first second
    rcases held y id first with ⟨rfl, rfl⟩ | earlier
    · rcases held z id second with ⟨rfl, _⟩ | impossible
      · rfl
      · exact absurd impossible (older z)
    · rcases held z id second with ⟨_, rfl⟩ | other
      · exact absurd earlier (older y)
      · exact sound.distinct y z id earlier other
  · intro y id holds recovery claims same
    rcases held y id holds with ⟨_, rfl⟩ | earlier
    · obtain ⟨other, named, drawn⟩ := sound.recovered recovery claims
      obtain rfl : id = other := Option.some.inj (same.symm.trans named)
      exact new drawn
    · exact sound.apart y id earlier recovery claims same
  · intro recovery claims
    obtain ⟨id, named, drawn⟩ := sound.recovered recovery claims
    exact ⟨id, named, List.mem_cons_of_mem _ drawn⟩
  · intro id granted active
    simp only [State.activeLease] at active
    rw [leases] at active
    split at active
    · next here => exact here ▸ List.mem_cons_self
    · exact List.mem_cons_of_mem _ (sound.drawn id granted active)

variable
  {discipline : Discipline}

/-- Every effect keeps the claims on leases apart. -/
theorem Effect.sound
    {before after : Moment}
    (effect : Effect discipline before after)
    (sound : before.2.Sound before.1) :
    after.2.Sound after.1 := by
  cases effect with
  | same same => exact same.sound sound
  | ledger _ drawn grows =>
      exact sound.shrink sound.placed (fun _ _ => id) grows drawn
        (List.Subperm.refl _)
  | registered _ =>
      exact sound.shrink sound.placed (fun _ _ => id) (fun _ => id) sound.drawn
        (List.Subperm.refl _)
  | ended ends => exact ends.sound sound
  | cleared _ =>
      exact sound.shrink sound.placed (fun _ _ => id) (fun _ => id) sound.drawn
        (List.Subperm.refl _)
  | stopped _ _ stops => exact (sound.release _).stop stops
  | handedOver found runs claimed _ => exact sound.handOver found runs claimed
  | granted found _ _ _ leased placed new leases =>
      exact sound.grant found leased placed new leases
  | @cleanupEnded draining state identity result _ =>
      refine sound.shrink sound.placed (fun _ _ => id) (fun _ => id) sound.drawn ?_
      simp only [State.claims, List.map_append, List.map_map, Function.comp_def,
        identity_endCleanup]
      exact List.Subperm.refl _
  | @drainStarted state =>
      refine sound.shrink sound.placed (fun _ _ => id) (fun _ => id) sound.drawn ?_
      refine List.Perm.subperm (List.Perm.map _ ?_)
      simp only [State.claims, State.completedRecoveries, List.nil_append,
        ← List.append_assoc]
      refine List.Perm.append_right _ ?_
      have parts := List.filter_append_perm
        (fun recovery : PendingRecovery => recovery.future.isSome) state.recoveries
      simpa only [Option.not_isSome] using parts
  | @verified draining state recovery _ =>
      refine (sound.release recovery.identity.leaseId).shrink sound.placed
        (fun _ _ => id) (fun _ => id)
        (fun id lease active => sound.drawn id lease (active_of_release active)) ?_
      simp only [State.claims, List.cons_append, List.map_cons]
      exact (List.sublist_cons_self _ _).subperm
  | callerReleased _ => exact sound.release _
  | @dropped draining state recovery _ =>
      refine sound.shrink sound.placed (fun _ _ => id) (fun _ => id) sound.drawn ?_
      refine List.Perm.subperm (List.Perm.map _ ?_)
      simp only [State.claims, List.cons_append]
      refine (List.Perm.append_left draining List.perm_middle).trans ?_
      exact List.perm_middle

/-- A chain of effects keeps the claims on leases apart. -/
theorem effects_sound
    {before after : Moment}
    (effects : Effects discipline before after)
    (sound : before.2.Sound before.1) :
    after.2.Sound after.1 := by
  induction effects with
  | refl => exact sound
  | tail _ effect inductionHypothesis => exact effect.sound inductionHypothesis

/-! ## The effects of a failure -/

theorem FailureOutcome.effects
    {task : Task}
    {before after : State}
    (outcome : FailureOutcome x task before after)
    (found : before.tasks.get? x = some task)
    (runs : task.status = .running)
    (draining : List PendingRecovery) :
    Effects discipline (draining, before) (draining, after) := by
  cases outcome with
  | ended ends => exact .single (.ended ends)
  | @retried base request same =>
      obtain ⟨current, there, still⟩ := same.task found
      have running := still.running.mpr runs
      refine .head (.same same) (.single ?_)
      rw [← still.lease running]
      exact .stopped there running fun _ => by simp [scheduleRetry]
  | handedOver same named identity future =>
      obtain ⟨current, there, still⟩ := same.task found
      have running := still.running.mpr runs
      refine .head (.same same) (.single (.handedOver there running ?_ future))
      rw [identity]
      exact (still.lease running).symm

/-- What a failure that is not retryable amounts to, whatever the task. -/
theorem retryOrFailTask_effects
    (final : error.get "retryable" = .bool false)
    (state : State)
    (x : ℕ)
    (assessment : Assessment)
    (draining : List PendingRecovery) :
    Effects discipline (draining, state)
      (draining, state.retryOrFailTask x error assessment) := by
  cases found : state.tasks.get? x with
  | none =>
      rw [State.retryOrFailTask, found]
  | some task =>
      exact .single (.ended (retryOrFailTask_ends found assessment final))

theorem failTimedOutTasks_effects
    (timedOut : ℕ → Option (PyStr × Assessment))
    (tasks : List ℕ)
    (state : State)
    (draining : List PendingRecovery) :
    Effects discipline (draining, state)
      (draining, tasks.foldl (State.failIfTimedOut timedOut) state) := by
  induction tasks generalizing state with
  | nil => exact .refl
  | cons x rest inductionHypothesis =>
      refine Relation.ReflTransGen.trans ?_
        (inductionHypothesis (state.failIfTimedOut timedOut x))
      unfold State.failIfTimedOut
      split
      · split
        · exact retryOrFailTask_effects
            (makeErrorEnvelope_final (by simp [schedulerErrors]) _ _ _) _ _ _ _
        · exact .refl
      · exact .refl

/-! ## The effects of a drain -/

/-- What tells whether a recovery is valid. -/
def State.namesOf
    (state : State)
    (x : ℕ) :
    Option (Identifier × Identifier × AttemptIdentity) :=
  (state.tasks.get? x).map fun task =>
    (task.workflowId, task.taskId, task.identity)

/-- The workflow of the task. -/
def State.workflowOf
    (state : State)
    (x : ℕ) :
    Option Identifier :=
  (state.tasks.get? x).map fun task => task.workflowId

theorem workflowOf_eq
    (state : State)
    (x : ℕ) :
    state.workflowOf x = (state.namesOf x).map Prod.fst := by
  simp [State.workflowOf, State.namesOf, Function.comp_def]

/-- Validity depends on the names of the task and on its workflow. -/
theorem isValid_congr
    {before after : State}
    (names : after.namesOf recovery.task = before.namesOf recovery.task)
    (workflow :
      ∀ workflowId, before.workflowOf recovery.task = some workflowId →
        after.workflows.get? workflowId = before.workflows.get? workflowId) :
    after.isValid recovery = before.isValid recovery := by
  unfold State.namesOf at names
  unfold State.workflowOf at workflow
  unfold State.isValid State.isRegistered
  revert names workflow
  generalize before.tasks.get? recovery.task = old
  generalize after.tasks.get? recovery.task = new
  intro names workflow
  cases old with
  | none =>
      cases new with
      | none => rfl
      | some task => cases names
  | some task =>
      cases new with
      | none => cases names
      | some current =>
          simp only [Option.map_some, Option.some.injEq, Prod.mk.injEq] at names
          obtain ⟨same, sameTask, sameIdentity⟩ := names
          have kept := workflow task.workflowId rfl
          simp only [same, sameTask, sameIdentity, kept]

theorem namesOf_modifyTask
    (change : Task → Task)
    (keeps :
      ∀ task, (change task).workflowId = task.workflowId ∧
        (change task).taskId = task.taskId ∧
        (change task).identity = task.identity)
    (state : State)
    (x y : ℕ) :
    (state.modifyTask x change).namesOf y = state.namesOf y := by
  simp only [State.namesOf, State.modifyTask, Table.get?_modify]
  split
  · next here =>
    subst here
    cases state.tasks.get? y with
    | none => rfl
    | some task =>
        obtain ⟨workflowId, taskId, identity⟩ := keeps task
        simp [workflowId, taskId, identity]
  · rfl

theorem namesOf_cancelWorkflow
    (state : State)
    (workflowId : Identifier)
    (x : ℕ) :
    (state.cancelWorkflow workflowId).namesOf x = state.namesOf x := by
  obtain ⟨tasks, _⟩ :=
    releaseTasks_frame
      ((state.removeModelWaiters workflowId).runningOf workflowId)
      ((state.removeModelWaiters workflowId).clearWorkflow workflowId)
  have same :
      (state.cancelWorkflow workflowId).tasks =
        (state.removeModelWaiters workflowId).tasks := tasks
  simp only [State.namesOf, same, State.removeModelWaiters, Table.get?_mapValues]
  cases state.tasks.get? x with
  | none => rfl
  | some task =>
      simp only [Option.map_some]
      split <;> rfl

/-- A final failure, written out. -/
theorem retryOrFailTask_final
    {task : Task}
    (found : state.tasks.get? x = some task)
    (assessment : Assessment)
    (final : error.get "retryable" = .bool false) :
    state.retryOrFailTask x error assessment =
      ((state.modifyTask x (recordOutcome assessment)).markStopped
        task.workflowId).cancelWorkflow task.workflowId := by
  have never := retries_of_not_retryable task assessment final
  unfold retries at never
  simp only [State.retryOrFailTask, found, never]
  rfl

theorem namesOf_retryOrFailTask
    (final : error.get "retryable" = .bool false)
    (state : State)
    (x y : ℕ)
    (assessment : Assessment) :
    (state.retryOrFailTask x error assessment).namesOf y = state.namesOf y := by
  cases found : state.tasks.get? x with
  | none => rw [State.retryOrFailTask, found]
  | some task =>
      rw [retryOrFailTask_final found assessment final, namesOf_cancelWorkflow]
      exact namesOf_modifyTask (recordOutcome assessment)
        (fun _ => ⟨rfl, rfl, rfl⟩) state x y

/-- The cleanup of the recovery has raised. -/
def PendingRecovery.raised (recovery : PendingRecovery) : Bool :=
  match recovery.future with
  | some (.raised _ _) => true
  | _ => false

theorem cleanupFailed_final
    (info : ExceptionInfo)
    (timestamp : PyStr) :
    (exceptionToErrorEnvelope "resource_cleanup_failed" info .null timestamp).get
      "retryable" = .bool false :=
  exceptionToErrorEnvelope_final (by simp [schedulerErrors]) _ _ _

theorem namesOf_drainRecovery
    (state : State)
    (recovery : PendingRecovery)
    (x : ℕ) :
    (state.drainRecovery recovery).namesOf x = state.namesOf x := by
  unfold State.drainRecovery
  split
  · rfl
  · next info assessment _ =>
    dsimp only
    split
    · have kept := fun released =>
        namesOf_retryOrFailTask (cleanupFailed_final info assessment.timestamp)
          released recovery.task x assessment
      split
      · exact kept (state.release recovery.identity.leaseId)
      · exact kept state
    · rfl
  · dsimp only
    split
    · exact namesOf_modifyTask (scheduleRetry recovery.request)
        (fun _ => ⟨rfl, rfl, rfl⟩) state recovery.task x
    · rfl

/-- A drained recovery can only take away the workflow of its own task. -/
theorem workflows_drainRecovery
    (state : State)
    (recovery : PendingRecovery)
    (other :
      recovery.raised = true → state.workflowOf recovery.task ≠ some workflowId) :
    (state.drainRecovery recovery).workflows.get? workflowId =
      state.workflows.get? workflowId := by
  unfold State.drainRecovery
  split
  · rfl
  · next info assessment raised =>
    have differ := other (by simp [PendingRecovery.raised, raised])
    dsimp only
    split
    · have kept : ∀ released : State, released.tasks = state.tasks →
          released.workflows = state.workflows →
            (released.retryOrFailTask recovery.task
              (exceptionToErrorEnvelope "resource_cleanup_failed" info .null
                assessment.timestamp) assessment).workflows.get? workflowId =
              state.workflows.get? workflowId := by
        intro released tasks workflows
        cases found : released.tasks.get? recovery.task with
        | none => rw [State.retryOrFailTask, found, ← workflows]
        | some task =>
            have ends :=
              retryOrFailTask_ends found assessment
                (cleanupFailed_final info assessment.timestamp)
            rw [ends.workflows, Table.get?_erase, workflows, if_neg]
            rintro rfl
            rw [tasks] at found
            exact differ (by simp [State.workflowOf, found])
      split
      · exact kept (state.release recovery.identity.leaseId) rfl rfl
      · exact kept state rfl rfl
    · rfl
  · dsimp only
    split <;> rfl

/-- A recovery whose drain may drop the lease of a caller only once it is released. -/
def State.OwnerStays
    (state : State)
    (completed : List PendingRecovery) : Prop :=
  ∀ earlier recovery later,
    completed = earlier ++ recovery :: later →
      recovery.raised = true → recovery.scope = .modelInstance →
        state.isValid recovery = true ∧
          ∀ other ∈ earlier, other.raised = true →
            state.workflowOf other.task ≠ state.workflowOf recovery.task

/-- What is asked of a list of completed recoveries is asked of its rest. -/
theorem State.OwnerStays.tail
    {rest : List PendingRecovery}
    (stays : state.OwnerStays (recovery :: rest)) :
    (state.drainRecovery recovery).OwnerStays rest := by
  intro earlier other later split raised scope
  obtain ⟨valid, apart⟩ :=
    stays (recovery :: earlier) other later (by rw [split]; rfl) raised scope
  have names := namesOf_drainRecovery state recovery
  have workflows :
      (state.drainRecovery recovery).workflowOf = state.workflowOf := by
    funext x
    rw [workflowOf_eq, workflowOf_eq, names]
  constructor
  · rw [← valid]
    refine isValid_congr (names _) fun workflowId named => ?_
    refine workflows_drainRecovery state recovery fun failed => ?_
    rw [← named]
    exact apart recovery List.mem_cons_self failed
  · intro prior inside failed
    rw [workflows]
    exact apart prior (List.mem_cons_of_mem _ inside) failed

/-- The lease of a recovery is not active once it is released. -/
theorem released_of_holdsLease
    (state : State)
    (holds : recovery.holdsLease leaseId) :
    (state.release recovery.identity.leaseId).activeLease leaseId = none := by
  rw [activeLease_release]
  exact if_pos holds

/-- The effects of draining one recovery. -/
theorem drainRecovery_effects
    {rest : List PendingRecovery}
    (sound : state.Sound (recovery :: rest))
    (completed : recovery.future.isSome = true)
    (stays : discipline.careful → state.OwnerStays (recovery :: rest)) :
    Effects discipline (recovery :: rest, state)
      (rest, state.drainRecovery recovery) := by
  unfold State.drainRecovery
  split
  · next pending => simp [pending] at completed
  · next info assessment raised =>
    have failed : recovery.raised = true := by simp [PendingRecovery.raised, raised]
    have final := cleanupFailed_final info assessment.timestamp
    dsimp only
    split
    · split
      · next caller =>
        -- The caller's lease is released first, and the failure that follows
        -- makes no lease active.
        refine .head (.callerReleased caller) ?_
        cases found :
            (state.release recovery.identity.leaseId).tasks.get? recovery.task with
        | none =>
            rw [State.retryOrFailTask, found]
            exact .single (.dropped fun _ => .inr fun leaseId holds =>
              released_of_holdsLease state holds)
        | some task =>
            have ends := retryOrFailTask_ends found assessment final
            refine .head (.ended ends) (.single (.dropped fun _ => .inr ?_))
            intro leaseId holds
            by_contra active
            obtain ⟨lease, there⟩ := Option.ne_none_iff_exists'.mp active
            have before := ends.before_of_active there
            rw [released_of_holdsLease state holds] at before
            cases before
      · next other =>
        have task : recovery.scope = .task := by
          cases scope : recovery.scope with
          | task => rfl
          | modelInstance => exact absurd scope other
        exact (retryOrFailTask_effects final state recovery.task assessment _).tail
          (.dropped fun _ => .inl task)
    · next invalid =>
      refine .single (.dropped fun cautious => .inl ?_)
      cases scope : recovery.scope with
      | task => rfl
      | modelInstance =>
          obtain ⟨valid, _⟩ := stays cautious [] recovery rest rfl failed scope
          exact absurd valid invalid
  · next returned =>
    dsimp only
    refine .head (.verified returned) ?_
    split
    · next good =>
      -- A valid recovery is that of a task which is not running.
      refine .single (.same (sameAttempts_modifyTask fun task found => ?_))
      refine StillRuns.of_idle (fun runs => ?_) (by simp [scheduleRetry])
      simp only [Bool.and_eq_true] at good
      have valid := good.1
      have there : state.tasks.get? recovery.task = some task := found
      unfold State.isValid at valid
      rw [there] at valid
      simp only [Bool.and_eq_true, decide_eq_true_eq] at valid
      obtain ⟨_, leased⟩ := sound.placed _ task there runs
      obtain ⟨leaseId, holds⟩ := Option.ne_none_iff_exists'.mp leased
      refine sound.apart recovery.task leaseId ⟨task, there, runs, holds⟩ recovery
        List.mem_cons_self ?_
      rw [← valid.2]
      exact holds
    · exact .refl

theorem drainRecoveries_effects
    (completed : List PendingRecovery)
    (sound : state.Sound completed)
    (done : ∀ recovery ∈ completed, recovery.future.isSome = true)
    (stays : discipline.careful → state.OwnerStays completed) :
    Effects discipline (completed, state)
      ([], completed.foldl State.drainRecovery state) := by
  induction completed generalizing state with
  | nil => exact .refl
  | cons recovery rest inductionHypothesis =>
      have first :=
        drainRecovery_effects sound (done recovery List.mem_cons_self) stays
      refine first.trans (inductionHypothesis (effects_sound first sound) ?_ ?_)
      · exact fun other inside => done other (List.mem_cons_of_mem _ inside)
      · exact fun cautious => (stays cautious).tail

/-! ## The effects of a dispatch -/

/-- A task that is registered joins the tasks that are. -/
theorem addTask_registers
    {state next : State}
    {task : Task}
    (added : state.addTask x task = some next) :
    ∃ workflows, next = { state with workflows := workflows } ∧
      next.Listed x ∧ ∀ y, state.Listed y → next.Listed y := by
  unfold State.addTask at added
  dsimp only at added
  split at added
  · next absent =>
    obtain rfl := Option.some.inj added
    refine ⟨_, rfl,
      ⟨task.workflowId,
        ((state.workflows.get? task.workflowId).getD Table.empty).set task.taskId x,
        task.taskId, by simp, by simp⟩, ?_⟩
    · rintro y ⟨workflowId, workflow, taskId, there, listed⟩
      by_cases same : workflowId = task.workflowId
      · subst same
        rw [there, Option.getD_some] at absent
        have differ : taskId ≠ task.taskId := by
          rintro rfl
          rw [listed] at absent
          cases absent
        exact ⟨task.workflowId, workflow.set task.taskId x, taskId, by simp [there],
          by simp [differ, listed]⟩
      · exact ⟨workflowId, workflow, taskId, by simp [same, there], listed⟩
  · next other known =>
    split at added
    · next here =>
      obtain rfl := Option.some.inj added
      subst here
      refine ⟨state.workflows, rfl, ?_, fun _ => id⟩
      cases there : state.workflows.get? task.workflowId with
      | none =>
          rw [there, Option.getD_none, Table.get?_empty] at known
          cases known
      | some workflow =>
          rw [there, Option.getD_some] at known
          exact ⟨task.workflowId, workflow, task.taskId, there, known⟩
    · cases added

/-- A selection grants the lease that it was asked for, or none. -/
theorem selectNode_leases
    (strings : Strings)
    (manager : ResourceManager)
    (call : ResourceManager.SelectCall) :
    ((∀ candidate, (manager.selectNode strings call).1 ≠ .ok (some candidate)) ∧
        (manager.selectNode strings call).2.activeLeases = manager.activeLeases) ∨
      ∃ candidate, (manager.selectNode strings call).1 = .ok (some candidate) ∧
        (manager.selectNode strings call).2.activeLeases =
          manager.activeLeases.set call.leaseId
            (ResourceManager.leaseOf call candidate) := by
  rcases ResourceManager.selectNode_cases strings manager call with
    ⟨refused, kept | kept⟩ | ⟨_, _, _, candidate, _, _, _, _, selected⟩
  · exact .inl ⟨refused, by rw [kept]⟩
  · exact .inl ⟨refused, by rw [kept]; rfl⟩
  · exact .inr ⟨candidate, by rw [selected], by rw [selected]; rfl⟩

/-- The lease of a task that could not be started is released again. -/
theorem releaseAgain_leases
    {leaseId : Identifier}
    (unused : state.activeLease leaseId.val = none)
    (granted :
      manager.activeLeases =
        state.resourceManager.activeLeases.set leaseId.val lease)
    (id : PyStr) :
    (manager.releaseLease (some leaseId.val)).activeLeases.get? id =
      state.activeLease id := by
  rw [ResourceManager.activeLeases_releaseLease, granted, Table.get?_set]
  split
  · next here =>
    subst here
    exact unused.symm
  · rfl

/-- A lease that has not been drawn is not active. -/
theorem State.Sound.unused
    (sound : state.Sound draining)
    (new : leaseId ∉ state.issuedLeases) :
    state.activeLease leaseId = none := by
  by_contra active
  obtain ⟨lease, there⟩ := Option.ne_none_iff_exists'.mp active
  exact new (sound.drawn leaseId lease there)

/-- Putting a task that does not run in another place. -/
theorem sameAttempts_idle
    {task : Task}
    (found : state.tasks.get? x = some task)
    (idle : task.status ≠ .running)
    (stays : (change task).status ≠ .running) :
    SameAttempts state (state.modifyTask x change) := by
  refine sameAttempts_modifyTask fun other there => ?_
  obtain rfl : task = other := Option.some.inj (found.symm.trans there)
  exact StillRuns.of_idle idle stays

theorem get?_modifyTask
    {task : Task}
    (found : state.tasks.get? x = some task)
    (change : Task → Task) :
    (state.modifyTask x change).tasks.get? x = some (change task) := by
  simp [State.modifyTask, found]

/-- Nothing but the id of a lease has been drawn. -/
theorem ledger_effect
    {issuedLeases : List PyStr}
    (sound : state.Sound draining)
    (leases : ∀ id, manager.activeLeases.get? id = state.activeLease id)
    (grows : ∀ leaseId ∈ state.issuedLeases, leaseId ∈ issuedLeases) :
    Effect discipline (draining, state)
      (draining,
        { state with
          resourceManager := manager
          issuedLeases := issuedLeases }) := by
  refine .ledger (fun id lease _ => ?_) (fun id lease active => ?_) grows
  · rw [leases]
  · rw [leases] at active
    exact grows id (sound.drawn id lease active)

theorem runTaskWithLease_effects
    {task : Task}
    {placement : Placement}
    (sound : state.Sound [])
    (found : state.tasks.get? x = some task)
    (idle : task.status ≠ .running)
    (taken : task.place = .taken)
    (listed : state.Listed x)
    (new : placement.leaseId.val ∉ state.issuedLeases)
    (granted :
      manager.activeLeases =
        state.resourceManager.activeLeases.set placement.leaseId.val lease)
    (candidate : ResourceManager.Candidate)
    (outcome : RunOutcome)
    (known : Task) :
    Effects discipline ([], state)
      ([], State.runTaskWithLease x known placement candidate outcome
        { state with
          resourceManager := manager
          issuedLeases := placement.leaseId.val :: state.issuedLeases }) := by
  have leases :=
    releaseAgain_leases (sound.unused new) granted
  have drawn :
      Effect discipline ([], state)
        ([],
          { state with
            resourceManager :=
              manager.releaseLease (some placement.leaseId.val)
            issuedLeases := placement.leaseId.val :: state.issuedLeases }) :=
    ledger_effect sound leases fun _ => List.mem_cons_of_mem _
  cases outcome with
  | started =>
      have active :
          ∀ id, manager.activeLeases.get? id =
            if id = placement.leaseId.val then some lease
            else state.activeLease id := by
        intro id
        rw [granted, Table.get?_set]
        rfl
      exact .single (.granted found idle listed rfl rfl taken new active)
  | observerRaises info assessment =>
      exact .head drawn (retryOrFailTask_effects
        (exceptionToErrorEnvelope_final (by simp [schedulerErrors]) _ _ _) _ _ _ _)
  | runTaskRaises info assessment =>
      have begun :
          SameAttempts
            { state with
              resourceManager :=
                manager.releaseLease (some placement.leaseId.val)
              issuedLeases := placement.leaseId.val :: state.issuedLeases }
            (State.modifyTask x (beginTask placement)
              { state with
                resourceManager :=
                  manager.releaseLease (some placement.leaseId.val)
                issuedLeases := placement.leaseId.val :: state.issuedLeases }) :=
        sameAttempts_idle found idle idle
      exact .head drawn (.head (.same begun) (retryOrFailTask_effects
        (exceptionToErrorEnvelope_final (by simp [schedulerErrors]) _ _ _) _ _ _ _))

theorem failQueued_effects
    {task : Task}
    (found : state.tasks.get? x = some task)
    (idle : task.status ≠ .running)
    (message : PyStr)
    (assessment : Assessment) :
    Effects discipline ([], state) ([], state.failQueued x message assessment) :=
  .head (.same (sameAttempts_idle found idle (by simp)))
    (retryOrFailTask_effects
      (makeErrorEnvelope_final (by simp [schedulerErrors]) _ _ _) _ _ _ _)

theorem placeTask_effects
    {strings : Strings}
    {state next : State}
    {known task : Task}
    {placement : Placement}
    {refusal : Option (PyStr × Assessment)}
    {outcome : RunOutcome}
    (sound : state.Sound [])
    (found : state.tasks.get? x = some task)
    (idle : task.status ≠ .running)
    (listed : state.Listed x)
    (new : placement.leaseId.val ∉ state.issuedLeases)
    (placed :
      state.placeTask? strings x known placement refusal outcome = some next) :
    Effects discipline ([], state) ([], next) := by
  unfold State.placeTask? at placed
  dsimp only at placed
  rcases selectNode_leases strings state.resourceManager
      (selectCall known placement) with ⟨refused, same⟩ | ⟨candidate, picked, leases⟩
  · have looked :
        SameAttempts state
          { state with
            resourceManager :=
              (state.resourceManager.selectNode strings
                (selectCall known placement)).2 } :=
      ⟨same, rfl, rfl, rfl, rfl, (SameAttempts.refl state).tasks⟩
    refine .head (.same looked) ?_
    split at placed
    · cases placed
    · split at placed
      · obtain rfl := Option.some.inj placed
        exact .single (.same (sameAttempts_idle found idle (by simp)))
      · next message assessment =>
        obtain rfl := Option.some.inj placed
        refine failQueued_effects ?_ idle message assessment
        exact found
    · next candidate picked => exact absurd picked (refused candidate)
  · rw [picked] at placed
    obtain rfl := Option.some.inj placed
    have taken :
        SameAttempts state
          (state.modifyTask x fun task => { task with place := .taken }) :=
      sameAttempts_idle found idle idle
    refine .head (.same taken) ?_
    exact runTaskWithLease_effects (taken.sound sound)
      (get?_modifyTask found fun task => { task with place := .taken }) idle rfl
      listed new leases candidate outcome known

theorem dispatch_effects
    {strings : Strings}
    {state next : State}
    {task : Task}
    {placement : Placement}
    {refusal : Option (PyStr × Assessment)}
    {outcome : RunOutcome}
    (sound : state.Sound [])
    (found : state.tasks.get? x = some task)
    (idle : task.status ≠ .running)
    (new : placement.leaseId.val ∉ state.issuedLeases)
    (dispatched :
      state.dispatch? strings x task placement refusal outcome = some next) :
    Effects discipline ([], state) ([], next) := by
  obtain ⟨added, adds, placed⟩ := Option.bind_eq_some_iff.mp dispatched
  obtain ⟨workflows, rfl, listed, keeps⟩ := addTask_registers adds
  have ready :
      SameAttempts state
        (state.modifyTask x fun task => { task with status := .ready }) :=
    sameAttempts_idle found idle (by simp)
  have registered :
      Effects discipline ([], state)
        ([],
          { state.modifyTask x fun task => { task with status := .ready } with
            workflows := workflows }) :=
    .head (.same ready) (.single (.registered keeps))
  exact registered.trans
    (placeTask_effects (effects_sound registered sound)
      (get?_modifyTask found fun task => { task with status := .ready })
      (by simp) listed new placed)

/-! ## The effects of a step -/

/-- The task is queued and does not run. -/
theorem queuedTask?_idle
    {task : Task}
    (sound : state.Sound draining)
    (queued : state.queuedTask? x = some task) :
    state.tasks.get? x = some task ∧ task.status ≠ .running := by
  obtain ⟨found, place⟩ := Option.filter_eq_some_iff.mp queued
  refine ⟨found, fun runs => ?_⟩
  have taken := (sound.placed x task found runs).1
  simp [taken] at place

/-- A task that is waited for does not run. -/
theorem idle_of_place
    {task : Task}
    (sound : state.Sound draining)
    (found : state.tasks.get? x = some task)
    (waits : task.place ≠ .taken) :
    task.status ≠ .running := fun runs =>
  waits (sound.placed x task found runs).1

theorem publishedTask?_running
    {task : Task}
    (published : state.publishedTask? x = some task) :
    state.tasks.get? x = some task ∧ task.status = .running := by
  obtain ⟨found, passes⟩ := Option.filter_eq_some_iff.mp published
  simp only [Bool.and_eq_true, decide_eq_true_eq] at passes
  obtain ⟨current, there, runs⟩ :=
    (isRunning_iff state x).mp ((mem_runningTasks state x).mp passes.2).2
  obtain rfl : task = current := Option.some.inj (found.symm.trans there)
  exact ⟨found, runs⟩

/-- What a careful scheduler minds. -/
def CarefulStep
    (state : State) :
    Action → Prop
  | .clearWorkflow workflowId => state.runningOf workflowId = []
  | .drainRecoveries => state.OwnerStays state.completedRecoveries
  | _ => True

/-- The end of a workflow by a stop or a rejection. -/
theorem stop_effects
    (state : State)
    (workflowId : Identifier) :
    Effects discipline ([], state)
      ([], (state.markStopped workflowId).cancelWorkflow workflowId) := by
  have marked : SameAttempts state (state.markStopped workflowId) :=
    ⟨rfl, rfl, rfl, rfl, rfl, (SameAttempts.refl state).tasks⟩
  exact .single (.ended (marked.ends (cancelWorkflow_ends _ _)))

theorem clearWorkflowRequest_effects
    (met : discipline.careful → state.runningOf workflowId = []) :
    Effects discipline ([], state) ([], state.clearWorkflowRequest workflowId) := by
  have waiting := sameAttempts_removeModelWaiters (state.markStopped workflowId)
    workflowId
  have marked :
      SameAttempts state
        ((state.markStopped workflowId).removeModelWaiters workflowId) :=
    ⟨waiting.leases, waiting.workflows, waiting.recoveries, waiting.unverified,
      waiting.issued, waiting.tasks⟩
  have cleared := @Effect.cleared discipline []
    ((state.markStopped workflowId).removeModelWaiters workflowId) workflowId
    fun cautious => (marked.runningOf workflowId).trans (met cautious)
  refine .head (.same marked) (.head cleared (.single (.same ?_)))
  exact ⟨rfl, rfl, rfl, rfl, rfl, (SameAttempts.refl _).tasks⟩

theorem callResourceManager_effect
    {strings : Strings}
    {action : ResourceManager.Action}
    (sound : state.Sound [])
    (others : state.concernsOthers action = true)
    (called :
      ResourceManager.step? strings state.resourceManager action = some manager) :
    Effect discipline ([], state)
      ([],
        { state with
          resourceManager := manager
          issuedLeases := drawnLeases action ++ state.issuedLeases }) := by
  have kept :
      manager.activeLeases = state.resourceManager.activeLeases →
        Effect discipline ([], state)
          ([],
            { state with
              resourceManager := manager
              issuedLeases := drawnLeases action ++ state.issuedLeases }) := by
    intro same
    refine ledger_effect sound (fun id => ?_) fun _ inside =>
      List.mem_append_right _ inside
    rw [same]
    rfl
  cases action with
  | selectNode call =>
      simp only [ResourceManager.step?, Option.ite_none_left_eq_some,
        Option.some.injEq] at called
      obtain ⟨inactive, rfl⟩ := called
      simp only [State.concernsOthers, Bool.and_eq_true, decide_eq_true_eq] at others
      rcases selectNode_leases strings state.resourceManager call with
        ⟨_, same⟩ | ⟨candidate, _, leases⟩
      · exact kept same
      · have unused := sound.unused others.2
        refine .ledger (fun id lease task => ?_) (fun id lease active => ?_)
          fun _ inside => List.mem_append_right _ inside
        · rw [leases, Table.get?_set]
          split
          · next here =>
            subst here
            rw [unused]
            refine iff_of_false (fun granted => ?_) (by simp)
            rw [← Option.some.inj granted] at task
            cases others.1.symm.trans task
          · rfl
        · rw [leases, Table.get?_set] at active
          split at active
          · next here => simp [drawnLeases, here]
          · exact List.mem_append_right _ (sound.drawn id lease active)
  | releaseLease leaseId =>
      obtain rfl := Option.some.inj called
      simp only [State.concernsOthers] at others
      split at others
      · next inactive =>
        exact kept (by rw [ResourceManager.releaseLease_of_inactive inactive])
      · next granted found =>
        obtain ⟨released, rfl, active⟩ := Option.bind_eq_some_iff.mp found
        have ofInstance : granted.reservationKind = .instance_ := by
          simpa using others
        refine .ledger (fun id lease task => ?_) (fun id lease active => ?_)
          fun _ => id
        · rw [ResourceManager.activeLeases_releaseLease]
          split
          · next here =>
            subst here
            refine iff_of_false (by simp) fun held => ?_
            rw [← Option.some.inj (active.symm.trans held)] at task
            cases ofInstance.symm.trans task
          · rfl
        · rw [ResourceManager.activeLeases_releaseLease] at active
          split at active
          · cases active
          · exact sound.drawn id lease active
  | startWorker registration rayNodes =>
      obtain rfl := Option.some.inj called
      exact kept (ResourceManager.activeLeases_startWorker _ _ _)
  | checkDeadNode due rayNodes =>
      obtain rfl := Option.some.inj called
      exact kept (ResourceManager.checkDeadNode_keeps _ _ _).leases
  | stopWorker nodeId =>
      obtain rfl := Option.some.inj called
      exact kept (ResourceManager.stopWorker_keeps _ _).leases
  | setNodeDisabled nodeId disabled localModels =>
      obtain rfl := Option.some.inj called
      exact kept (ResourceManager.setNodeDisabled_keeps _ _ _ _).leases

theorem step_effects
    {discipline : Discipline}
    {strings : Strings}
    {state next : State}
    {action : Action}
    (sound : state.Sound [])
    (met : discipline.careful → CarefulStep state action)
    (ends :
      ∀ identity result, action = .completeCleanup identity result →
        discipline.mayEnd identity result)
    (stepped : step? strings state action = some next) :
    Effects discipline ([], state) ([], next) := by
  cases action with
  | receiveTask x task =>
      simp only [step?, Option.ite_none_right_eq_some, Option.some.injEq] at stepped
      obtain ⟨⟨new, _, absent⟩, rfl⟩ := stepped
      refine .single (.same ⟨rfl, rfl, rfl, rfl, rfl, fun y => ?_⟩)
      simp only [Table.get?_set]
      split
      · next here =>
        subst here
        have none : state.tasks.get? y = none := by
          simpa [Table.contains] using absent
        rw [none]
        refine .received fun runs => ?_
        simp [isNew, runs] at new
      · exact (SameAttempts.refl state).tasks y
  | rejectTask workflowId =>
      obtain rfl := Option.some.inj stepped
      exact stop_effects state workflowId
  | stopWorkflow workflowId =>
      obtain rfl := Option.some.inj stepped
      exact stop_effects state workflowId
  | clearWorkflow workflowId =>
      obtain rfl := Option.some.inj stepped
      exact clearWorkflowRequest_effects met
  | discardStopped x =>
      simp only [step?] at stepped
      split at stepped
      · next task queued =>
        obtain ⟨found, idle⟩ := queuedTask?_idle sound queued
        simp only [Option.ite_none_right_eq_some, Option.some.injEq] at stepped
        obtain ⟨_, rfl⟩ := stepped
        exact .single (.same (sameAttempts_idle found idle idle))
      · cases stepped
  | exceedCapacity x message assessment =>
      simp only [step?] at stepped
      split at stepped
      · next task queued =>
        obtain ⟨found, idle⟩ := queuedTask?_idle sound queued
        simp only [Option.ite_none_left_eq_some, Option.some.injEq] at stepped
        obtain ⟨_, rfl⟩ := stepped
        exact failQueued_effects found idle message assessment
      · cases stepped
  | waitForModel x =>
      simp only [step?] at stepped
      split at stepped
      · next task queued =>
        obtain ⟨found, idle⟩ := queuedTask?_idle sound queued
        simp only [Option.ite_none_left_eq_some, Option.some.injEq] at stepped
        obtain ⟨_, rfl⟩ := stepped
        exact .single (.same (sameAttempts_idle found idle (by simp)))
      · cases stepped
  | supersede x =>
      simp only [step?] at stepped
      split at stepped
      · next task queued =>
        obtain ⟨found, idle⟩ := queuedTask?_idle sound queued
        simp only [Option.ite_none_left_eq_some, Option.some.injEq] at stepped
        obtain ⟨_, rfl⟩ := stepped
        exact .single (.same (sameAttempts_idle found idle (by simp)))
      · cases stepped
  | dispatch x placement refusal outcome =>
      simp only [step?] at stepped
      split at stepped
      · next task queued =>
        obtain ⟨found, idle⟩ := queuedTask?_idle sound queued
        simp only [Option.ite_none_left_eq_some, not_or] at stepped
        obtain ⟨⟨_, new⟩, dispatched⟩ := stepped
        exact dispatch_effects sound found idle new dispatched
      · cases stepped
  | publishDispatch x =>
      obtain rfl := Option.some.inj stepped
      exact .single (.same (sameAttempts_modifyTask fun task _ =>
        ⟨Iff.rfl, fun _ => rfl, fun _ => id⟩))
  | wakeModelWaiter x =>
      simp only [step?] at stepped
      split at stepped
      · next task found =>
        simp only [Option.ite_none_right_eq_some, Option.some.injEq] at stepped
        obtain ⟨waits, rfl⟩ := stepped
        have idle := idle_of_place sound found (by simp [waits])
        refine .single (.same (sameAttempts_idle found idle ?_))
        split
        · exact idle
        · simp
      · cases stepped
  | failModelWaiter x errorType message assessment =>
      simp only [step?] at stepped
      split at stepped
      · next task found =>
        simp only [Option.ite_none_right_eq_some] at stepped
        obtain ⟨waits, stepped⟩ := stepped
        have idle := idle_of_place sound found (by simp [waits])
        have taken :
            SameAttempts state
              (state.modifyTask x fun task => { task with place := .taken }) :=
          sameAttempts_idle found idle idle
        split at stepped
        · obtain rfl := Option.some.inj stepped
          exact .single (.same taken)
        · obtain rfl := Option.some.inj stepped
          exact .head (.same taken) (retryOrFailTask_effects
            (makeErrorEnvelope_retryable _ _ _ _ _) _ _ _ _)
      · cases stepped
  | finishTask x =>
      simp only [step?] at stepped
      split at stepped
      · next task published =>
        obtain ⟨found, runs⟩ := publishedTask?_running published
        obtain rfl := Option.some.inj stepped
        have lease :
            (state.modifyTask x fun task => { task with status := .finished }).leaseOf
              x = task.leaseId := by
          rw [State.leaseOf, get?_modifyTask found, Option.bind_some]
        rw [State.releaseTask, lease]
        exact .single (.stopped found runs fun _ => by simp)
      · cases stepped
  | failAttempt x error assessment =>
      simp only [step?] at stepped
      split at stepped
      · next task published =>
        obtain ⟨found, runs⟩ := publishedTask?_running published
        obtain rfl := Option.some.inj stepped
        exact (retryOrFailTask_outcome found error assessment).1.effects found runs []
      · cases stepped
  | failTimedOutTasks timedOut =>
      obtain rfl := Option.some.inj stepped
      exact failTimedOutTasks_effects timedOut _ state []
  | enqueueRetry x =>
      simp only [step?] at stepped
      split at stepped
      · next task found =>
        simp only [Option.ite_none_right_eq_some, Option.some.injEq] at stepped
        obtain ⟨sent, rfl⟩ := stepped
        have idle := idle_of_place sound found (by simp [sent])
        exact .single (.same (sameAttempts_idle found idle idle))
      · cases stepped
  | completeCleanup identity result =>
      obtain rfl := Option.some.inj stepped
      exact .single (.cleanupEnded identity result (ends identity result rfl))
  | drainRecoveries =>
      obtain rfl := Option.some.inj stepped
      have started := @Effect.drainStarted discipline state
      refine .head started (drainRecoveries_effects _ (started.sound sound) ?_ met)
      exact fun recovery inside => (List.mem_filter.mp inside).2
  | callResourceManager action =>
      simp only [step?, Option.ite_none_right_eq_some, Option.map_eq_some_iff] at stepped
      obtain ⟨others, manager, called, rfl⟩ := stepped
      exact .single (callResourceManager_effect sound others called)

end Maze.Scheduler.TaskLeases
