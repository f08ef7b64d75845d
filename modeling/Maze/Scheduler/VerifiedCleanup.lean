import Maze.Scheduler.LeaseOwnership

namespace Maze.Scheduler.TaskLeases

open Maze.Python
open Maze.Library
open Maze.Library.Transition

/-!
# A lease is returned only after its cleanup

The lease of an attempt that ran out of GPU memory stays reserved until the exit
of its worker has been verified. The recovery coordinator keeps it so; but when
the coordinator has no room for the recovery, the nested failure cancels the
workflow while the task still counts as running, and its lease is released.
-/

/-- The failure is repaired by a recovery of scope task. -/
def Reanchors
    (task : Task)
    (error : PyDict)
    (assessment : Assessment) : Prop :=
  retries task error assessment = true ∧
    ∃ request instanceCleanup,
      assessment.repairAction = .resourceReanchor .task request instanceCleanup

/--
The lease of an attempt whose failure is repaired by a recovery of scope task stays
active at least until the cleanup of that attempt has returned.
-/
def CleanupBeforeRelease
    (strings : Strings)
    (start : State)
    (actions : List Action) : Prop :=
  ∀ leading x error assessment waiting rest before failed reached task leaseId lease,
    actions = leading ++ .failAttempt x error assessment :: (waiting ++ rest) →
      run? (step? strings) start leading = some before →
      step? strings before (.failAttempt x error assessment) = some failed →
      run? (step? strings) failed waiting = some reached →
      before.tasks.get? x = some task →
      Reanchors task error assessment →
      task.leaseId = some leaseId →
      before.activeLease leaseId.val = some lease →
      lease.reservationKind = .task →
      .completeCleanup task.identity .returned ∉ waiting →
        reached.activeLease leaseId.val = some lease

/-- A recovery of scope task finds room in the coordinator. -/
def RoomForRecovery
    (state : State) :
    Action → Prop
  | .failAttempt x error assessment =>
      ∀ task, state.tasks.get? x = some task → Reanchors task error assessment →
        state.recoveries.length < maxRecoveries
  | _ => True

/-! ## A lease that waits for its cleanup -/

/-- The lease waits for a cleanup that has not returned. -/
structure Reserved
    (identity : AttemptIdentity)
    (leaseId : Identifier)
    (lease : Lease)
    (moment : Moment) : Prop where
  active : moment.2.activeLease leaseId.val = some lease
  ofTask : lease.reservationKind = .task
  named : identity.leaseId = some leaseId
  claimed :
    ∃ recovery ∈ moment.2.claims moment.1, recovery.identity = identity ∧
      recovery.scope = .task ∧ recovery.future ≠ some .returned

/-- Two claims on one lease are one. -/
theorem State.Sound.claim_eq
    {state : State}
    {draining : List PendingRecovery}
    {first second : PendingRecovery}
    (sound : state.Sound draining)
    (one : first ∈ state.claims draining)
    (two : second ∈ state.claims draining)
    (same : first.identity.leaseId = second.identity.leaseId) :
    first = second :=
  List.inj_on_of_nodup_map sound.separate one two same

/-- The release of another lease leaves this one alone. -/
theorem activeLease_release_of_ne
    {state : State}
    {released : Option Identifier}
    {leaseId : Identifier}
    (differ : released ≠ some leaseId) :
    (state.release released).activeLease leaseId.val =
      state.activeLease leaseId.val := by
  rw [activeLease_release, if_neg]
  intro same
  obtain ⟨other, rfl, equal⟩ := Option.map_eq_some_iff.mp same
  exact differ (congrArg some (Subtype.ext equal))

/-- The discipline of a run in which the cleanup of the attempt does not return. -/
def awaiting (identity : AttemptIdentity) : Discipline where
  careful := False
  mayEnd other result := other = identity → result ≠ .returned

/-- No effect releases the lease before the cleanup has returned. -/
theorem Effect.reserved
    {identity : AttemptIdentity}
    {leaseId : Identifier}
    {lease : Lease}
    {before after : Moment}
    (effect : Effect (awaiting identity) before after)
    (sound : before.2.Sound before.1)
    (reserved : Reserved identity leaseId lease before) :
    Reserved identity leaseId lease after := by
  obtain ⟨active, ofTask, named, recovery, inside, rfl, scope, unreturned⟩ := reserved
  have unheld : ∀ x, ¬ before.2.Holds x leaseId := fun x holds =>
    sound.apart x leaseId holds recovery inside named
  refine ⟨?_, ofTask, named, ?_⟩
  · cases effect with
    | same same =>
        rw [← active]
        simp only [State.activeLease, same.leases]
    | ledger same _ _ => exact (same leaseId.val lease ofTask).mpr active
    | registered _ => exact active
    | @ended draining state after workflowId ends =>
        rw [ends.leases, if_neg]
        · exact active
        · rintro ⟨x, runs, holds⟩
          obtain ⟨holder, held, equal⟩ := Option.map_eq_some_iff.mp holds
          obtain rfl : holder = leaseId := Subtype.ext equal
          obtain ⟨task, found, status⟩ :=
            (isRunning_iff state x).mp ((mem_runningOf state workflowId x).mp runs).2
          rw [State.leaseOf, found, Option.bind_some] at held
          exact unheld x ⟨task, found, status, held⟩
    | cleared _ => exact active
    | @stopped draining state x task change found runs stops =>
        have differ : task.leaseId ≠ some leaseId := fun same =>
          unheld x ⟨task, found, runs, same⟩
        exact (activeLease_release_of_ne differ).trans active
    | handedOver _ _ _ _ => exact active
    | granted found _ _ _ _ _ new leases =>
        obtain ⟨other, same, drawn⟩ := sound.recovered recovery inside
        obtain rfl : leaseId = other := Option.some.inj (named.symm.trans same)
        simp only [State.activeLease]
        rw [leases, if_neg]
        · exact active
        · intro here
          exact new (here ▸ drawn)
    | cleanupEnded _ _ _ => exact active
    | drainStarted => exact active
    | @verified draining state other returned =>
        have differ : other.identity.leaseId ≠ some leaseId := by
          intro same
          have one := sound.claim_eq inside
            (show other ∈ state.claims (other :: draining) by simp [State.claims])
            (named.trans same.symm)
          exact unreturned (one ▸ returned)
        exact (activeLease_release_of_ne differ).trans active
    | @callerReleased draining state other caller =>
        have differ : other.identity.leaseId ≠ some leaseId := by
          intro same
          have one := sound.claim_eq inside
            (show other ∈ state.claims (other :: draining) by simp [State.claims])
            (named.trans same.symm)
          rw [one, caller] at scope
          cases scope
        exact (activeLease_release_of_ne differ).trans active
    | dropped _ => exact active
  · cases effect with
    | same same =>
        refine ⟨recovery, ?_, rfl, scope, unreturned⟩
        simpa only [State.claims, same.recoveries, same.unverified] using inside
    | ledger _ _ _ => exact ⟨recovery, inside, rfl, scope, unreturned⟩
    | registered _ => exact ⟨recovery, inside, rfl, scope, unreturned⟩
    | ended ends =>
        refine ⟨recovery, ?_, rfl, scope, unreturned⟩
        simpa only [State.claims, ends.recoveries, ends.unverified] using inside
    | cleared _ => exact ⟨recovery, inside, rfl, scope, unreturned⟩
    | stopped _ _ _ => exact ⟨recovery, inside, rfl, scope, unreturned⟩
    | handedOver _ _ _ _ =>
        refine ⟨recovery, ?_, rfl, scope, unreturned⟩
        simp only [State.claims, State.handOver, State.modifyTask,
          List.mem_append] at inside ⊢
        tauto
    | granted _ _ _ _ _ _ _ _ => exact ⟨recovery, inside, rfl, scope, unreturned⟩
    | @cleanupEnded draining state other result allowed =>
        simp only [State.claims, List.mem_append] at inside
        rcases inside with drains | pends | dropped
        · exact ⟨recovery, by simp [State.claims, drains], rfl, scope, unreturned⟩
        · refine ⟨endCleanup other result recovery, ?_,
            identity_endCleanup _ _ _, ?_, ?_⟩
          · simp only [State.claims, List.mem_append]
            exact .inr (.inl (List.mem_map_of_mem pends))
          · rw [← scope]
            unfold endCleanup
            split <;> rfl
          · unfold endCleanup
            split
            · next ended =>
              intro returned
              exact allowed ended.1.symm (Option.some.inj returned)
            · exact unreturned
        · exact ⟨recovery, by simp [State.claims, dropped], rfl, scope, unreturned⟩
    | @drainStarted state =>
        refine ⟨recovery, ?_, rfl, scope, unreturned⟩
        cases future : recovery.future <;>
          simpa [State.claims, State.completedRecoveries, future] using inside
    | @verified draining state other returned =>
        refine ⟨recovery, ?_, rfl, scope, unreturned⟩
        rcases List.mem_cons.mp inside with rfl | later
        · exact absurd returned unreturned
        · exact later
    | callerReleased _ => exact ⟨recovery, inside, rfl, scope, unreturned⟩
    | dropped _ =>
        refine ⟨recovery, ?_, rfl, scope, unreturned⟩
        simp only [State.claims, List.mem_append, List.mem_cons] at inside ⊢
        tauto

theorem effects_reserved
    {identity : AttemptIdentity}
    {leaseId : Identifier}
    {lease : Lease}
    {before after : Moment}
    (effects : Effects (awaiting identity) before after)
    (sound : before.2.Sound before.1)
    (reserved : Reserved identity leaseId lease before) :
    Reserved identity leaseId lease after := by
  induction effects with
  | refl => exact reserved
  | tail earlier effect inductionHypothesis =>
      exact effect.reserved (effects_sound earlier sound) inductionHypothesis

/-! ## Runs -/

/-- Every step keeps the claims on leases apart. -/
theorem step_sound
    {strings : Strings}
    {state next : State}
    {action : Action}
    (sound : state.Sound [])
    (stepped : step? strings state action = some next) :
    next.Sound [] :=
  effects_sound
    (@step_effects ⟨False, fun _ _ => True⟩ strings state next action sound
      (fun impossible => impossible.elim) (fun _ _ _ => trivial) stepped)
    sound

/-- A run in which the cleanup does not return keeps the lease reserved. -/
theorem run_reserved
    {strings : Strings}
    {identity : AttemptIdentity}
    {leaseId : Identifier}
    {lease : Lease}
    {waiting : List Action}
    {state reached : State}
    (sound : state.Sound [])
    (reserved : Reserved identity leaseId lease ([], state))
    (executed : run? (step? strings) state waiting = some reached)
    (silent : .completeCleanup identity .returned ∉ waiting) :
    Reserved identity leaseId lease ([], reached) := by
  induction waiting generalizing state with
  | nil =>
      simp only [run?_nil, Option.some.injEq] at executed
      exact executed ▸ reserved
  | cons action rest inductionHypothesis =>
      rw [run?_cons, Option.bind_eq_some_iff] at executed
      obtain ⟨next, stepped, executed⟩ := executed
      rw [List.mem_cons, not_or] at silent
      have ends :
          ∀ other result, action = .completeCleanup other result →
            (awaiting identity).mayEnd other result := by
        rintro other result rfl rfl rfl
        exact silent.1 rfl
      have effects :=
        @step_effects (awaiting identity) strings state next action sound
          (fun impossible => impossible.elim) ends stepped
      exact inductionHypothesis (step_sound sound stepped)
        (effects_reserved effects sound reserved) executed silent.2

/-- With room for the recovery, the attempt is handed to the coordinator. -/
theorem retryOrFailTask_reanchors
    {state : State}
    {x : ℕ}
    {task : Task}
    {error : PyDict}
    {assessment : Assessment}
    (found : state.tasks.get? x = some task)
    (reanchors : Reanchors task error assessment)
    (room : state.recoveries.length < maxRecoveries) :
    ∃ base recovery, SameAttempts state base ∧
      recovery.identity = task.identity ∧ recovery.scope = .task ∧
      recovery.future = none ∧
      state.retryOrFailTask x error assessment = base.handOver x recovery := by
  obtain ⟨retried, request, instanceCleanup, repaired⟩ := reanchors
  unfold retries at retried
  have space : ¬ maxRecoveries ≤ state.recoveries.length := Nat.not_le.mpr room
  let marked :=
    ((state.modifyTask x (recordOutcome assessment)).markStopped
      task.workflowId).unmarkStopped task.workflowId
  let recovery : PendingRecovery :=
    ⟨x, task.identity,
      enrichErrorForTask error task.toTaskRuntime assessment.memoryFailure
        assessment.timestamp,
      .task, request, none⟩
  have submitted :
      marked.submitRecovery x task recovery.error .task request =
        some (marked.handOver x recovery) :=
    if_neg space
  have handed :
      state.retryOrFailTask x error assessment = marked.handOver x recovery := by
    simp only [State.retryOrFailTask, found, retried, repaired, prepareCleanup,
      if_true]
    rw [submitted]
  exact ⟨marked, recovery, sameAttempts_recordOutcome state x assessment _, rfl, rfl,
    rfl, handed⟩

/-- The failure of a running task with room for its recovery reserves its lease. -/
theorem failAttempt_reserves
    {strings : Strings}
    {before failed : State}
    {x : ℕ}
    {task : Task}
    {error : PyDict}
    {assessment : Assessment}
    {leaseId : Identifier}
    {lease : Lease}
    (stepped : step? strings before (.failAttempt x error assessment) = some failed)
    (found : before.tasks.get? x = some task)
    (reanchors : Reanchors task error assessment)
    (room : before.recoveries.length < maxRecoveries)
    (named : task.leaseId = some leaseId)
    (active : before.activeLease leaseId.val = some lease)
    (ofTask : lease.reservationKind = .task) :
    Reserved task.identity leaseId lease ([], failed) := by
  simp only [step?] at stepped
  split at stepped
  · obtain rfl := Option.some.inj stepped
    obtain ⟨base, recovery, same, identity, scope, future, result⟩ :=
      retryOrFailTask_reanchors found reanchors room
    rw [result]
    refine ⟨?_, ofTask, named, recovery, ?_, identity, scope, by simp [future]⟩
    · rw [← active]
      simp only [State.activeLease, State.handOver, State.modifyTask, same.leases]
    · simp [State.claims, State.handOver]
  · cases stepped

/--
In a run in which every recovery of scope task finds room in the coordinator, the
lease of the failed attempt is not released before its cleanup has returned.
-/
theorem cleanup_before_release
    (strings : Strings)
    (head : ResourceManager.HeadNode)
    (schedulingPolicy : SchedulingPolicy)
    (actions : List Action)
    (room :
      EveryStep (step? strings) RoomForRecovery (initial head schedulingPolicy)
        actions) :
    CleanupBeforeRelease strings (initial head schedulingPolicy) actions := by
  intro leading x error assessment waiting rest before failed reached task leaseId
    lease split executed stepped waited found reanchors named active ofTask silent
  subst split
  have sound : before.Sound [] :=
    run?_invariant (fun _ _ _ sound stepped => step_sound sound stepped)
      (initial_sound head schedulingPolicy) executed
  have space := room.of_run executed stepped task found reanchors
  have reserved :=
    failAttempt_reserves stepped found reanchors space named active ofTask
  exact (run_reserved (step_sound sound stepped) reserved waited silent).active

/-! ### A full coordinator -/

open ResourceManager (plainStrings)

/-- GPUs with the same memory. -/
def sameGpus (count : ℕ) : Table ℤ GpuResource where
  entries := (List.range count).map fun (index : ℕ) =>
    (Int.ofNat index, ⟨1, 1000, some 1000⟩)
  distinct := by
    rw [List.map_map]
    exact List.Nodup.map (fun _ _ same => Int.ofNat.inj same) List.nodup_range

/-- A head with seventeen GPUs. -/
def gpuHead : ResourceManager.HeadNode where
  nodeId := "head"
  nodeIp := "10.0.0.1"
  resources := ⟨32, 0, sameGpus 17⟩
  localModels := .list []
  cpu_nonneg := by norm_num
  cpuMem_nonneg := nothing_nonneg
  gpu_nonneg := by
    intro gpuId gpu found
    rw [Table.get?_eq_some_iff] at found
    obtain ⟨_, _, same⟩ := List.mem_map.mp found
    obtain ⟨_, rfl⟩ := Prod.mk.inj same
    norm_num

/-- The id with the number. -/
def numbered (index : ℕ) : Identifier :=
  ⟨⟨("x" : PyStr).chars ++ List.replicate index ("x" : PyStr).chars.head!⟩, rfl⟩

/-- A GPU task that may be retried once. -/
def gpuTask (index : ℕ) : Task :=
  { modelCaller with
    taskId := numbered index
    taskKind := "gpu"
    request := ResourceManager.gpuRequest
    modelAnchor := [] }

/-- Its dispatch. -/
def gpuPlacement (index : ℕ) : Placement where
  dispatchId := numbered index
  leaseId := numbered index
  localModels := .list []
  rayNodes := some headAlive

/-- The task is received, dispatched and announced. -/
def startGpuTask (index : ℕ) : List Action :=
  [.receiveTask index (gpuTask index),
    .dispatch index (gpuPlacement index) none .started, .publishDispatch index]

/-- The task runs out of GPU memory. -/
def failGpuTask (index : ℕ) : Action :=
  .failAttempt index outOfMemory (reanchored .task)

/-- Tasks that run at the same time and fail one after the other. -/
def failTogether (count : ℕ) : List Action :=
  (List.range count).flatMap startGpuTask ++ (List.range count).map failGpuTask

/-- A task that fails alone keeps its lease reserved. -/
theorem lone_failure_reserved :
    CleanupBeforeRelease plainStrings (initial gpuHead .default) (failTogether 1) := by
  refine cleanup_before_release plainStrings gpuHead .default (failTogether 1) ?_
  refine fun received first => ⟨trivial, fun dispatched second => ⟨trivial,
    fun announced third => ⟨trivial, fun _ _ => ⟨fun _ _ _ => ?_, trivial⟩⟩⟩⟩
  have executed :
      run? (step? plainStrings) (initial gpuHead .default) (startGpuTask 0) =
        some announced := by
    simp [startGpuTask, first, second, third]
  have empty :
      (run? (step? plainStrings) (initial gpuHead .default) (startGpuTask 0)).map
        (fun state => state.recoveries.length) = some 0 := by
    decide +kernel
  rw [executed, Option.map_some, Option.some.injEq] at empty
  rw [empty]
  decide

/-- Seventeen tasks run, and sixteen of them have failed. -/
def crowded : List Action :=
  (List.range 17).flatMap startGpuTask ++ (List.range 16).map failGpuTask

/-- Whether the last task is to be repaired, and its lease. -/
def lastTask
    (state : State) :
    Option (Bool × Option Identifier) × Option ReservationKind :=
  ((state.tasks.get? 16).map fun task =>
      (retries task outOfMemory (reanchored .task), task.leaseId),
    (state.activeLease (numbered 16).val).map Lease.reservationKind)

/--
The seventeenth task that runs out of GPU memory while sixteen recoveries are
pending loses its lease at once: no cleanup of its worker has even begun.
-/
theorem full_coordinator_releases :
    ¬ CleanupBeforeRelease plainStrings (initial gpuHead .default)
        (failTogether 17) := by
  intro kept
  have last : (run? (step? plainStrings) (initial gpuHead .default) crowded).map
      lastTask = some (some (true, some (numbered 16)), some .task) := by
    decide +kernel
  have released :
      ((run? (step? plainStrings) (initial gpuHead .default) crowded).bind
        fun state => step? plainStrings state (failGpuTask 16)).map
          (fun state => (state.activeLease (numbered 16).val).isSome) =
        some false := by
    decide +kernel
  obtain ⟨before, executed, facts⟩ := Option.map_eq_some_iff.mp last
  rw [executed, Option.bind_some] at released
  obtain ⟨failed, stepped, gone⟩ := Option.map_eq_some_iff.mp released
  simp only [lastTask, Prod.mk.injEq, Option.map_eq_some_iff] at facts
  obtain ⟨⟨task, found, retried, named⟩, lease, active, ofTask⟩ := facts
  have split :
      failTogether 17 = crowded ++ failGpuTask 16 :: ([] ++ []) := by
    simp [failTogether, crowded, List.range_succ]
  have stays :=
    kept crowded 16 outOfMemory (reanchored .task) [] [] before failed failed task
      (numbered 16) lease split executed stepped rfl found
      ⟨retried, cpuRequest, .ok (), rfl⟩ named active ofTask List.not_mem_nil
  rw [stays] at gone
  cases gone

end Maze.Scheduler.TaskLeases
