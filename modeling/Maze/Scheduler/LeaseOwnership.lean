import Maze.Scheduler.LeaseEffects

namespace Maze.Scheduler.TaskLeases

open Maze.Python
open Maze.Library
open Maze.Library.Transition

/-!
# Who owns a lease

An active lease of a task should belong to a running attempt, to the recovery of
an attempt, or to a GPU worker whose cleanup could not be verified. A lease whose
owner is gone is capacity that is lost. Two steps can take an owner away without
releasing its lease: a workflow is cleared while a task of it runs, and the
recovery of a model instance fails after its task has left the workflow manager.
-/

/-- The lease has an owner, if the recoveries being drained count as pending. -/
def State.OwnedWith
    (state : State)
    (draining : List PendingRecovery)
    (leaseId : PyStr) : Prop :=
  (∃ x ∈ state.runningTasks,
      (state.leaseOf x).map Subtype.val = some leaseId) ∨
    (∃ recovery ∈ draining ++ state.recoveries, recovery.holdsLease leaseId) ∨
      ∃ recovery ∈ state.unverified,
        recovery.scope = .task ∧ recovery.holdsLease leaseId

/--
The lease is that of a running task, of a pending recovery, or of a GPU worker
whose cleanup could not be verified.
-/
def State.Owned
    (state : State)
    (leaseId : PyStr) : Prop :=
  state.OwnedWith [] leaseId

/-- Every active lease of a task has an owner. -/
def LeasesOwned (moment : Moment) : Prop :=
  ∀ leaseId lease, moment.2.activeLease leaseId = some lease →
    lease.reservationKind = .task → moment.2.OwnedWith moment.1 leaseId

/-- A running task owns the lease exactly if a listed one holds it. -/
theorem runningOwner_iff
    (state : State)
    (leaseId : PyStr) :
    (∃ x ∈ state.runningTasks,
        (state.leaseOf x).map Subtype.val = some leaseId) ↔
      ∃ x holder, state.Listed x ∧ state.Holds x holder ∧
        holder.val = leaseId := by
  constructor
  · rintro ⟨x, inside, named⟩
    obtain ⟨listed, runs⟩ := (mem_runningTasks state x).mp inside
    obtain ⟨task, found, status⟩ := (isRunning_iff state x).mp runs
    obtain ⟨holder, holds, rfl⟩ := Option.map_eq_some_iff.mp named
    rw [State.leaseOf, found, Option.bind_some] at holds
    exact ⟨x, holder, listed, ⟨task, found, status, holds⟩, rfl⟩
  · rintro ⟨x, holder, listed, holds, rfl⟩
    have runs := holds.isRunning
    obtain ⟨task, found, _, named⟩ := holds
    refine ⟨x, (mem_runningTasks state x).mpr ⟨listed, runs⟩, ?_⟩
    rw [State.leaseOf, found, Option.bind_some, named, Option.map_some]

/-- An owner is still there if the attempts that matter and the claims are. -/
theorem State.OwnedWith.keep
    {before after : State}
    {draining rest : List PendingRecovery}
    {leaseId : PyStr}
    (owned : before.OwnedWith draining leaseId)
    (running :
      ∀ x (holder : Identifier), before.Listed x → before.Holds x holder →
        holder.val = leaseId → after.OwnedWith rest leaseId)
    (pending :
      ∀ recovery ∈ draining ++ before.recoveries, recovery.holdsLease leaseId →
        after.OwnedWith rest leaseId)
    (unverified :
      ∀ recovery ∈ before.unverified, recovery ∈ after.unverified) :
    after.OwnedWith rest leaseId := by
  rcases owned with owner | ⟨recovery, inside, holds⟩ | ⟨recovery, inside, kept⟩
  · obtain ⟨x, holder, listed, holds, named⟩ :=
      (runningOwner_iff before leaseId).mp owner
    exact running x holder listed holds named
  · exact pending recovery inside holds
  · exact .inr (.inr ⟨recovery, unverified recovery inside, kept⟩)

/-- A listed holder owns its lease. -/
theorem ownedWith_of_holds
    {state : State}
    {x : ℕ}
    {holder : Identifier}
    (listed : state.Listed x)
    (holds : state.Holds x holder)
    (draining : List PendingRecovery) :
    state.OwnedWith draining holder.val :=
  .inl ((runningOwner_iff state holder.val).mpr ⟨x, holder, listed, holds, rfl⟩)

/-- A holder stays an owner while the tasks and their registration are the same. -/
theorem ownedWith_of_unchanged
    {before after : State}
    {leaseId : PyStr}
    (tasks : after.tasks = before.tasks)
    (workflows : after.workflows = before.workflows)
    (draining : List PendingRecovery)
    (x : ℕ)
    (holder : Identifier)
    (listed : before.Listed x)
    (holds : before.Holds x holder)
    (named : holder.val = leaseId) :
    after.OwnedWith draining leaseId := by
  subst named
  unfold State.Listed at listed
  unfold State.Holds at holds
  rw [← workflows] at listed
  rw [← tasks] at holds
  exact ownedWith_of_holds listed holds draining

theorem ownedWith_of_pending
    {state : State}
    {draining : List PendingRecovery}
    (recovery : PendingRecovery)
    {leaseId : PyStr}
    (inside : recovery ∈ draining ++ state.recoveries)
    (holds : recovery.holdsLease leaseId) :
    state.OwnedWith draining leaseId :=
  .inr (.inl ⟨recovery, inside, holds⟩)

/-- A task that is listed elsewhere stays listed when a workflow goes. -/
theorem listed_erase
    {state : State}
    {workflows : Table Identifier (Table Identifier ℕ)}
    {workflowId : Identifier}
    {x : ℕ}
    {holder : Identifier}
    (same : workflows = state.workflows.erase workflowId)
    (listed : state.Listed x)
    (holds : state.Holds x holder)
    (elsewhere : x ∉ state.runningOf workflowId) :
    { state with workflows := workflows }.Listed x := by
  obtain ⟨other, workflow, taskId, there, named⟩ := listed
  have differ : other ≠ workflowId := by
    rintro rfl
    exact elsewhere ((mem_runningOf state other x).mpr
      ⟨⟨workflow, taskId, there, named⟩, holds.isRunning⟩)
  exact ⟨other, workflow, taskId, by simp [same, differ, there], named⟩

/-- A task that is changed has its attempt changed, and no other has. -/
theorem holds_modifyTask_of_ne
    {state : State}
    {x y : ℕ}
    {holder : Identifier}
    (differ : y ≠ x)
    (holds : state.Holds y holder)
    (change : Task → Task) :
    (state.modifyTask x change).Holds y holder := by
  obtain ⟨task, found, runs, named⟩ := holds
  exact ⟨task, by simp [State.modifyTask, differ, found], runs, named⟩

/-- The holder of a lease is the task that is there. -/
theorem leaseId_of_holds
    {state : State}
    {x : ℕ}
    {task : Task}
    {holder : Identifier}
    (found : state.tasks.get? x = some task)
    (holds : state.Holds x holder) :
    task.leaseId = some holder := by
  obtain ⟨current, there, _, named⟩ := holds
  obtain rfl : task = current := Option.some.inj (found.symm.trans there)
  exact named

/-- The effects of a careful scheduler leave no lease without an owner. -/
theorem Effect.owned
    {discipline : Discipline}
    {before after : Moment}
    (effect : Effect discipline before after)
    (careful : discipline.careful)
    (owned : LeasesOwned before) :
    LeasesOwned after := by
  intro leaseId lease active ofTask
  cases effect with
  | @same draining before after same =>
      have there : before.activeLease leaseId = some lease := by
        rw [← active, State.activeLease, State.activeLease, same.leases]
      refine (owned leaseId lease there ofTask).keep ?_ ?_ ?_
      · rintro x holder listed holds rfl
        refine ownedWith_of_holds ?_ ((same.holds x holder).mpr holds) draining
        unfold State.Listed
        rw [same.workflows]
        exact listed
      · intro recovery inside holds
        exact ownedWith_of_pending recovery (same.recoveries ▸ inside) holds
      · rw [same.unverified]
        exact fun _ => id
  | ledger same _ _ =>
      have there := (same leaseId lease ofTask).mp active
      exact (owned leaseId lease there ofTask).keep
        (fun _ _ listed holds named =>
          ownedWith_of_unchanged rfl rfl _ _ _ listed holds named)
        (fun recovery inside holds => ownedWith_of_pending recovery inside holds)
        fun _ => id
  | registered keeps =>
      exact (owned leaseId lease active ofTask).keep
        (fun x holder listed holds named => by
          subst named
          exact ownedWith_of_holds (keeps x listed) holds _)
        (fun recovery inside holds => ownedWith_of_pending recovery inside holds)
        fun _ => id
  | @ended draining before after workflowId ends =>
      have there := ends.before_of_active active
      refine (owned leaseId lease there ofTask).keep ?_ ?_ ?_
      · rintro x holder listed holds rfl
        have elsewhere : x ∉ before.runningOf workflowId := by
          intro inside
          rw [ends.leases, if_pos] at active
          · cases active
          · obtain ⟨task, found, _, named⟩ := holds
            exact ⟨x, inside, by rw [State.leaseOf, found]; simp [named]⟩
        have stays := listed_erase ends.workflows listed holds elsewhere
        refine ownedWith_of_holds ?_ ((ends.holds x holder).mpr holds) draining
        exact stays
      · intro recovery inside holds
        exact ownedWith_of_pending recovery (ends.recoveries ▸ inside) holds
      · rw [ends.unverified]
        exact fun _ => id
  | @cleared draining state workflowId empty =>
      refine (owned leaseId lease active ofTask).keep ?_
        (fun recovery inside holds => ownedWith_of_pending recovery inside holds) fun _ => id
      rintro x holder listed holds rfl
      have elsewhere : x ∉ state.runningOf workflowId := by
        rw [empty careful]
        exact List.not_mem_nil
      exact ownedWith_of_holds (listed_erase rfl listed holds elsewhere) holds draining
  | @stopped draining state x task change found runs stops =>
      have kept : (state.release task.leaseId).activeLease leaseId = some lease :=
        active
      refine (owned leaseId lease (active_of_release kept) ofTask).keep ?_
        (fun recovery inside holds => ownedWith_of_pending recovery inside holds) fun _ => id
      rintro y holder listed holds rfl
      have differ : y ≠ x := by
        rintro rfl
        rw [activeLease_release, leaseId_of_holds found holds] at kept
        simp at kept
      refine ownedWith_of_holds ?_ (holds_modifyTask_of_ne differ holds change)
        draining
      exact listed
  | @handedOver draining state x task recovery found runs claimed _ =>
      refine (owned leaseId lease active ofTask).keep ?_ ?_ fun _ => id
      · rintro y holder listed holds rfl
        by_cases same : y = x
        · subst same
          refine ownedWith_of_pending recovery ?_ ?_
          · simp [State.handOver]
          · simp [PendingRecovery.holdsLease, claimed, leaseId_of_holds found holds]
        · have stays : (state.handOver x recovery).Holds y holder :=
            holds_modifyTask_of_ne same holds fun task =>
              { task with status := .recovering }
          refine ownedWith_of_holds ?_ stays draining
          exact listed
      · intro other inside holds
        refine ownedWith_of_pending other ?_ holds
        simp only [State.handOver, State.modifyTask, List.mem_append] at inside ⊢
        rcases inside with drains | pends
        · exact .inl drains
        · exact .inr (.inl pends)
  | @granted draining state x task holder change manager granted found idle listed
      runs leased placed new leases =>
      have held :
          State.Holds
            { state.modifyTask x change with
              resourceManager := manager
              issuedLeases := holder.val :: state.issuedLeases } x holder :=
        ⟨change task, get?_modifyTask found change, runs, leased⟩
      simp only [State.activeLease] at active
      rw [leases] at active
      split at active
      · next here =>
        subst here
        refine ownedWith_of_holds ?_ held draining
        exact listed
      · refine (owned leaseId lease active ofTask).keep ?_
          (fun recovery inside holds => ownedWith_of_pending recovery inside holds) fun _ => id
        rintro y other listed holds rfl
        have differ : y ≠ x := by
          rintro rfl
          obtain ⟨current, there, status, _⟩ := holds
          obtain rfl : task = current := Option.some.inj (found.symm.trans there)
          exact idle status
        refine ownedWith_of_holds ?_ (holds_modifyTask_of_ne differ holds change)
          draining
        exact listed
  | @cleanupEnded draining state identity result _ =>
      refine (owned leaseId lease active ofTask).keep
        (fun _ _ listed holds named =>
          ownedWith_of_unchanged rfl rfl _ _ _ listed holds named) ?_ fun _ => id
      intro recovery inside holds
      rcases List.mem_append.mp inside with drains | pends
      · exact ownedWith_of_pending recovery (List.mem_append_left _ drains) holds
      · refine ownedWith_of_pending (endCleanup identity result recovery)
          (List.mem_append_right _ (List.mem_map_of_mem pends)) ?_
        rw [PendingRecovery.holdsLease, identity_endCleanup]
        exact holds
  | @drainStarted state =>
      refine (owned leaseId lease active ofTask).keep
        (fun _ _ listed holds named =>
          ownedWith_of_unchanged rfl rfl _ _ _ listed holds named) ?_ fun _ => id
      intro recovery inside holds
      refine ownedWith_of_pending recovery ?_ holds
      simp only [List.nil_append] at inside
      cases future : recovery.future <;>
        simp [State.completedRecoveries, inside, future]
  | @verified draining state recovery _ =>
      refine (owned leaseId lease (active_of_release active) ofTask).keep
        (fun _ _ listed holds named =>
          ownedWith_of_unchanged rfl rfl _ _ _ listed holds named) ?_ fun _ => id
      intro other inside holds
      rw [List.cons_append, List.mem_cons] at inside
      rcases inside with rfl | later
      · rw [released_of_holdsLease state holds] at active
        cases active
      · exact ownedWith_of_pending other later holds
  | callerReleased _ =>
      exact (owned leaseId lease (active_of_release active) ofTask).keep
        (fun _ _ listed holds named =>
          ownedWith_of_unchanged rfl rfl _ _ _ listed holds named)
        (fun recovery inside holds => ownedWith_of_pending recovery inside holds)
        fun _ => id
  | @dropped draining state recovery harmless =>
      refine (owned leaseId lease active ofTask).keep
        (fun _ _ listed holds named =>
          ownedWith_of_unchanged rfl rfl _ _ _ listed holds named) ?_
        fun _ => List.mem_cons_of_mem _
      intro other inside holds
      rw [List.cons_append, List.mem_cons] at inside
      rcases inside with rfl | later
      · rcases harmless careful with task | inactive
        · exact .inr (.inr ⟨other, List.mem_cons_self, task, holds⟩)
        · have gone := (inactive leaseId holds).symm.trans active
          cases gone
      · exact ownedWith_of_pending other later holds

theorem effects_owned
    {discipline : Discipline}
    {before after : Moment}
    (effects : Effects discipline before after)
    (careful : discipline.careful)
    (owned : LeasesOwned before) :
    LeasesOwned after := by
  induction effects with
  | refl => exact owned
  | tail _ effect inductionHypothesis => exact effect.owned careful inductionHypothesis

/-! ## The drain of a model instance's recovery -/

/-- A drain makes no lease active. -/
theorem active_of_drainRecovery
    {state : State}
    {recovery : PendingRecovery}
    {leaseId : PyStr}
    {lease : Lease}
    (active : (state.drainRecovery recovery).activeLease leaseId = some lease) :
    state.activeLease leaseId = some lease := by
  have failed : ∀ (released : State) (info : ExceptionInfo) (assessment : Assessment),
      (released.retryOrFailTask recovery.task
        (exceptionToErrorEnvelope "resource_cleanup_failed" info .null
          assessment.timestamp) assessment).activeLease leaseId = some lease →
        released.activeLease leaseId = some lease := by
    intro released info assessment active
    cases found : released.tasks.get? recovery.task with
    | none =>
        rw [State.retryOrFailTask, found] at active
        exact active
    | some task =>
        exact (retryOrFailTask_ends found assessment
          (cleanupFailed_final info assessment.timestamp)).before_of_active active
  unfold State.drainRecovery at active
  split at active
  · exact active
  · next info assessment _ =>
    dsimp only at active
    split at active
    · split at active
      · exact active_of_release (failed _ info assessment active)
      · exact failed _ info assessment active
    · exact active
  · dsimp only at active
    split at active
    · have shrunk :
          (state.release recovery.identity.leaseId).activeLease leaseId =
            some lease :=
        active
      exact active_of_release shrunk
    · exact active_of_release active

/-- The lease of a recovery is released when its owner is still there. -/
theorem drainRecovery_releases
    {state : State}
    {recovery : PendingRecovery}
    {leaseId : PyStr}
    (completed : recovery.future.isSome = true)
    (scope : recovery.scope = .modelInstance)
    (valid : recovery.raised = true → state.isValid recovery = true)
    (holds : recovery.holdsLease leaseId) :
    (state.drainRecovery recovery).activeLease leaseId = none := by
  have gone := released_of_holdsLease state holds
  by_contra active
  obtain ⟨lease, there⟩ := Option.ne_none_iff_exists'.mp active
  unfold State.drainRecovery at there
  split at there
  · next pending => simp [pending] at completed
  · next info assessment raised =>
    have good := valid (by simp [PendingRecovery.raised, raised])
    simp only [good, scope, if_true] at there
    have before :
        (state.release recovery.identity.leaseId).activeLease leaseId =
          some lease := by
      cases found :
          (state.release recovery.identity.leaseId).tasks.get? recovery.task with
      | none =>
          rw [State.retryOrFailTask, found] at there
          exact there
      | some task =>
          exact (retryOrFailTask_ends found assessment
            (cleanupFailed_final info assessment.timestamp)).before_of_active there
    cases gone.symm.trans before
  · have before :
        (state.release recovery.identity.leaseId).activeLease leaseId =
          some lease := by
      dsimp only at there
      split at there <;> exact there
    cases gone.symm.trans before

theorem drained_inactive
    {completed : List PendingRecovery}
    {state : State}
    {leaseId : PyStr}
    (inactive : state.activeLease leaseId = none) :
    (completed.foldl State.drainRecovery state).activeLease leaseId = none := by
  induction completed generalizing state with
  | nil => exact inactive
  | cons recovery rest inductionHypothesis =>
      refine inductionHypothesis ?_
      by_contra active
      obtain ⟨lease, there⟩ := Option.ne_none_iff_exists'.mp active
      cases inactive.symm.trans (active_of_drainRecovery there)

/-- A drain releases the leases of the callers whose owners are still there. -/
theorem drained_releases
    {completed : List PendingRecovery}
    {state : State}
    {recovery : PendingRecovery}
    {leaseId : PyStr}
    (done : ∀ other ∈ completed, other.future.isSome = true)
    (stays : state.OwnerStays completed)
    (inside : recovery ∈ completed)
    (scope : recovery.scope = .modelInstance)
    (holds : recovery.holdsLease leaseId) :
    (completed.foldl State.drainRecovery state).activeLease leaseId = none := by
  induction completed generalizing state with
  | nil => cases inside
  | cons first rest inductionHypothesis =>
      rw [List.foldl_cons]
      rcases List.mem_cons.mp inside with rfl | later
      · refine drained_inactive (drainRecovery_releases (done _ List.mem_cons_self)
          scope (fun raised => ?_) holds)
        exact (stays [] recovery rest rfl raised scope).1
      · exact inductionHypothesis
          (fun other member => done other (List.mem_cons_of_mem _ member))
          stays.tail later

/-! ## Runs -/

theorem initial_sound
    (head : ResourceManager.HeadNode)
    (schedulingPolicy : SchedulingPolicy) :
    (initial head schedulingPolicy).Sound [] where
  placed _ _ found := by cases found
  issued := by
    rintro x leaseId ⟨task, found, _⟩
    cases found
  distinct := by
    rintro x y leaseId ⟨task, found, _⟩
    cases found
  apart := by
    rintro x leaseId ⟨task, found, _⟩
    cases found
  recovered _ inside := by cases inside
  separate := List.nodup_nil
  drawn _ _ active := by cases active

/-! ### One task -/

open ResourceManager (plainHead plainStrings)

/-- A request for one CPU. -/
def cpuRequest : ResourceRequest where
  cpu := 1
  cpuMem := 0
  gpu := 0
  gpuMem := 0
  hints := []
  cpu_nonneg := one_nonneg
  cpuMem_nonneg := nothing_nonneg
  gpuMem_nonneg := nothing_nonneg
  gpu_le_one := no_gpu_le_one

/-- The workflow of the task. -/
def someRun : Identifier := ⟨"run", run_nonempty⟩

/-- A task that calls a model and may be retried once. -/
def modelCaller : Task where
  workflowId := someRun
  taskId := ⟨"task", task_nonempty⟩
  taskKind := "cpu"
  queueName := .null
  resources := .null
  maxRetries := 1
  retryOn := ["resource_insufficient"]
  retryBackoffSeconds := .int 0
  schedulingMetadata := .null
  faultTolerance := .null
  fileManifest := .null
  lastMetrics := .null
  lastAttemptTiming := none
  lastScheduleDecision := none
  selectedNode := none
  attempt := 0
  dispatchId := none
  leaseId := none
  previousAttemptIdentity := none
  request := cpuRequest
  modelAnchor := [("local_model", .str "model")]
  status := .ready
  dispatchPublished := true
  place := .queued

/-- The head is the only node. -/
def headAlive : Table PyStr RayNode :=
  (Table.empty : Table PyStr RayNode).set "head" ⟨true, none⟩

/-- The lease that the task is dispatched on. -/
def callerLease : Identifier := ⟨"lease", lease_nonempty⟩

/-- The dispatch of the task. -/
def headPlacement : Placement where
  dispatchId := ⟨"dispatch", dispatch_nonempty⟩
  leaseId := callerLease
  localModels := .list []
  rayNodes := some headAlive

/-- The task is received, dispatched and announced. -/
def dispatchActions : List Action :=
  [.receiveTask 0 modelCaller, .dispatch 0 headPlacement none .started,
    .publishDispatch 0]

/-- A failure whose repair is a recovery of the scope. -/
def reanchored (scope : RecoveryScope) : Assessment where
  memoryFailure := none
  recoverable := true
  repairAction := .resourceReanchor scope cpuRequest (.ok ())
  timestamp := ""
  metrics := .null
  timing := ⟨.null, .null, .null⟩

/-- The GPU memory of the model was not enough. -/
def outOfMemory : PyDict :=
  [("error_type", .str "resource_insufficient"), ("retryable", .bool true)]

/-- The cleanup that could not be done. -/
def cleanupRaised : CleanupResult :=
  .raised ⟨"instance still busy", "", "RuntimeError", none⟩ (reanchored .task)

/-- The identity of the attempt. -/
def callerAttempt : AttemptIdentity := ⟨1, some ⟨"dispatch", dispatch_nonempty⟩, some callerLease⟩

/-- The workflow is stopped before the recovery of the instance fails. -/
def stoppedRecovery : List Action :=
  dispatchActions ++
    [.failAttempt 0 outOfMemory (reanchored .modelInstance), .stopWorkflow someRun,
      .completeCleanup callerAttempt cleanupRaised, .drainRecoveries]

/-- The workflow is cleared while the task runs. -/
def clearedWhileRunning : List Action :=
  dispatchActions ++ [.clearWorkflow someRun]

/-- The task finishes, and its workflow is stopped. -/
def finishedRun : List Action :=
  dispatchActions ++ [.finishTask 0, .stopWorkflow someRun]

/-- What is left of the run: the lease of the caller, and who could own it. -/
def leftovers
    (state : State) :
    Option ReservationKind × List ℕ × ℕ × List RecoveryScope :=
  ((state.activeLease callerLease.val).map Lease.reservationKind,
    state.runningTasks, state.recoveries.length,
    state.unverified.map PendingRecovery.scope)

/-- A lease that is left without an owner. -/
theorem not_owned_of_leftovers
    {actions : List Action}
    (scopes : List RecoveryScope)
    (left :
      (run? (step? plainStrings) (initial plainHead .default) actions).map
        leftovers = some (some .task, [], 0, scopes))
    (noTask : RecoveryScope.task ∉ scopes) :
    ¬ EveryState (step? plainStrings)
        (fun state =>
          ∀ leaseId lease, state.activeLease leaseId = some lease →
            lease.reservationKind = .task → state.Owned leaseId)
        (initial plainHead .default) actions := by
  intro every
  obtain ⟨final, executed, summary⟩ := Option.map_eq_some_iff.mp left
  simp only [leftovers, Prod.mk.injEq, Option.map_eq_some_iff,
    List.length_eq_zero_iff] at summary
  obtain ⟨⟨lease, active, ofTask⟩, idle, none, unverified⟩ := summary
  have owned := every actions [] final (by simp) executed _ lease active ofTask
  rcases owned with ⟨x, runs, _⟩ | ⟨recovery, pending, _⟩ | ⟨recovery, kept, scope, _⟩
  · rw [idle] at runs
    cases runs
  · rw [none] at pending
    cases pending
  · refine noTask ?_
    rw [← unverified, ← scope]
    exact List.mem_map_of_mem kept

end Maze.Scheduler.TaskLeases
