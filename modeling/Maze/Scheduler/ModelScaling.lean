import Mathlib.Algebra.Order.Floor.Semiring
import Maze.Scheduler.ModelDemand

namespace Maze.Scheduler.ModelInstances

open Maze.Python
open Maze.Library
open Maze.Library.Transition

/-!
# Scaling out

A round of the supervisor computes its recommendations and then acts on them one by
one: each marks a deployment, which the manager counts until its instance is ready,
has failed or is removed. Starts, stops and requests go on between any two of these
steps, and a start that failed for lack of memory may be marked once more.
The threshold is read as the number that it is, so its product is not rounded.
-/

/-- `threshold * denominator`, not rounded. -/
def exactProduct
    (threshold : Double)
    (denominator : ℕ) :
    Double :=
  match threshold with
  | .finite value => .finite (value * denominator)
  | other => other

/-- One more than the number of instances that the demand may keep busy. -/
def demandBound
    (threshold : Double)
    (pendingRequests : ℕ) :
    ℕ :=
  match threshold with
  | .finite value => ⌊(pendingRequests : ℚ) / value⌋₊ + 1
  | _ => 1

/-- The instances of a model that are ready or deployed automatically. -/
def LlmInstanceManager.capacityOf
    (manager : LlmInstanceManager)
    (key : ModelKey) :
    ℕ :=
  manager.readyCount key + manager.deploymentsOf key

/-- The manager, and the recommendations that a round has still to act on. -/
structure Scaling where
  manager : LlmInstanceManager
  acting : List LlmInstanceManager.Recommendation

namespace Scaling

open LlmInstanceManager

/-! ## Steps -/

/-- The calls of the other threads. -/
def isCall : ModelInstances.Action → Bool
  | .markModelDeploying _ _ => false
  | _ => true

/-- What the supervisor does, and what happens beside it. -/
inductive Action where
  /-- A round begins. -/
  | recommend
  /-- The round acts on its next recommendation; the id is a new one. -/
  | act (instanceId : PyStr)
  /-- A failed start is tried once more. -/
  | retry (key : ModelKey) (instanceId : PyStr)
  | call (action : ModelInstances.Action)

/-- A deployment is started for the model that it was marked for. -/
def startsMarked
    (manager : LlmInstanceManager) :
    ModelInstances.Action → Bool
  | .registerStartingInstance instanceId key _ _ =>
      (manager.autoDeployByInstance.get? instanceId).all fun marked => marked = key
  | _ => true

/-- One step. -/
def step?
    (fingerprint : PyVal → PyVal → PyStr)
    (state : Scaling) :
    Action → Option Scaling
  | .recommend =>
      if state.acting.isEmpty then
        some { state with acting := state.manager.recommendationsWith exactProduct }
      else
        none
  | .act instanceId =>
      match state.acting with
      | [] => none
      | recommendation :: rest =>
          if state.manager.autoDeployByInstance.contains instanceId ∨
              state.manager.instances.contains instanceId then
            none
          else
            some {
              manager :=
                state.manager.markModelDeploying recommendation.key instanceId
              acting := rest }
  | .retry key instanceId =>
      if state.manager.instances.contains instanceId then
        none
      else
        some { state with manager := state.manager.markModelDeploying key instanceId }
  | .call action =>
      if isCall action = true ∧ startsMarked state.manager action = true then
        (ModelInstances.step? fingerprint state.manager action).map fun manager =>
          { state with manager }
      else
        none

/-- A manager before its first round. -/
def initial
    (maxRequestsPerInstance : ℤ)
    (scaleOutThreshold : Double)
    (idleScaleInSeconds : ℚ) :
    Scaling where
  manager := LlmInstanceManager.initial maxRequestsPerInstance scaleOutThreshold
    idleScaleInSeconds
  acting := []

/-! ## What is claimed of a step -/

/-- Acting on a recommendation stays within what the demand allows. -/
def ActsWithin
    (fingerprint : PyVal → PyVal → PyStr)
    (before : Scaling)
    (action : Action) : Prop :=
  ∀ instanceId recommendation rest next, action = .act instanceId →
    before.acting = recommendation :: rest →
    step? fingerprint before action = some next →
      next.manager.capacityOf recommendation.key ≤
        demandBound before.manager.scaleOutThreshold recommendation.pendingRequests

/-- A deployment stays recorded until its instance is ready, has failed or is removed. -/
def StaysCounted
    (fingerprint : PyVal → PyVal → PyStr)
    (before : Scaling)
    (action : Action) : Prop :=
  ∀ next instanceId key, step? fingerprint before action = some next →
    before.manager.autoDeployByInstance.get? instanceId = some key →
      next.manager.autoDeployByInstance.get? instanceId = some key ∨
        next.manager.ReadyFor key instanceId ∨
        action = .call (.clearModelDeploying instanceId) ∨
        action = .call (.finalizeStoppedInstance instanceId)

/-- The call adds to the instances that are ready or deployed for the model. -/
def Raises
    (manager : LlmInstanceManager)
    (key : ModelKey) :
    ModelInstances.Action → Prop
  | .markModelDeploying other _ => other = key
  | .markReady instanceId _ =>
      (∃ inst, manager.instances.get? instanceId = some inst ∧ inst.key = key) ∧
        manager.autoDeployByInstance.get? instanceId = none
  | .cancelLruScaleInClaim instanceId =>
      ∃ inst, manager.instances.get? instanceId = some inst ∧ inst.key = key
  | _ => False

/--
Between a recommendation and its act no failed start of the model is marked again,
no instance of it becomes ready that was not deployed automatically, and none is
put back into routing.
-/
def Steady
    (before : Scaling)
    (action : Action) : Prop :=
  match action with
  | .retry key _ => ∀ recommendation ∈ before.acting, recommendation.key ≠ key
  | .call action =>
      ∀ recommendation ∈ before.acting,
        ¬ Raises before.manager recommendation.key action
  | _ => True

/--
The pending requests of the model stay as they are, none of its deployments fails and
none of its instances leaves.
-/
def Undisturbed
    (fingerprint : PyVal → PyVal → PyStr)
    (key : ModelKey)
    (before : Scaling)
    (action : Action) : Prop :=
  ∀ next, step? fingerprint before action = some next →
    next.manager.requestIdsOf key = before.manager.requestIdsOf key ∧
      (∀ instanceId, before.manager.ReadyFor key instanceId →
        next.manager.ReadyFor key instanceId) ∧
      ∀ instanceId, before.manager.autoDeployByInstance.get? instanceId = some key →
        next.manager.autoDeployByInstance.get? instanceId = some key ∨
          next.manager.ReadyFor key instanceId

/-- The recommendations of a round for the model. -/
def recommendationsOf
    (key : ModelKey)
    (recommendations : List Recommendation) :
    ℕ :=
  recommendations.countP fun recommendation => recommendation.key = key

/-- The recommendations that are made for the model in the course of a run. -/
def recommendationsMade
    (fingerprint : PyVal → PyVal → PyStr)
    (key : ModelKey) :
    Scaling → List Action → ℕ
  | _, [] => 0
  | state, action :: rest =>
      match step? fingerprint state action with
      | none => 0
      | some next =>
          (match action with
            | .recommend => recommendationsOf key next.acting
            | _ => 0) + recommendationsMade fingerprint key next rest

end Scaling

/-! ## What a call does to instances and deployments -/

namespace LlmInstanceManager

variable {manager next : LlmInstanceManager}

/-- Every instance was there for the same model, and it is ready only if it was. -/
def NoneReadied (manager next : LlmInstanceManager) : Prop :=
  ∀ instanceId inst', next.instances.get? instanceId = some inst' →
    ∃ inst, manager.instances.get? instanceId = some inst ∧
      inst'.key = inst.key ∧
      inst'.metadata.isSome = inst.metadata.isSome ∧
      (inst'.state = .ready → inst.state = .ready)

namespace NoneReadied

theorem of_same (same : next.instances = manager.instances) :
    NoneReadied manager next := by
  intro instanceId inst' found
  rw [same] at found
  exact ⟨inst', found, rfl, rfl, id⟩

/-- One instance is changed, and stays what it was for its model. -/
theorem of_change
    (instanceId : PyStr)
    (change : Instance → Instance)
    (owned : ∀ inst, (change inst).key = inst.key)
    (measured : ∀ inst, (change inst).metadata.isSome = inst.metadata.isSome)
    (readied : ∀ inst, (change inst).state = .ready → inst.state = .ready)
    (changed : ∀ wanted, next.instances.get? wanted =
      if wanted = instanceId then (manager.instances.get? wanted).map change
      else manager.instances.get? wanted) :
    NoneReadied manager next := by
  intro wanted inst' found
  rw [changed] at found
  split at found
  · obtain ⟨inst, before, rfl⟩ := Option.map_eq_some_iff.mp found
    exact ⟨inst, before, owned inst, measured inst, readied inst⟩
  · exact ⟨inst', found, rfl, rfl, id⟩

theorem leaveRouting
    (instanceId : PyStr)
    {state : InstanceState}
    (notReady : state ≠ .ready) :
    NoneReadied manager (manager.leaveRouting instanceId state) :=
  of_change instanceId (fun inst => { inst with state := state })
    (fun _ => rfl) (fun _ => rfl) (fun _ ready => absurd ready notReady)
    fun wanted => by simp

theorem modifyMetadata
    (instanceId : PyStr)
    (change : InstanceMetadata → InstanceMetadata) :
    NoneReadied manager (manager.modifyMetadata instanceId change) :=
  of_change instanceId (fun inst => { inst with metadata := inst.metadata.map change })
    (fun _ => rfl) (fun _ => by simp) (fun _ => id)
    fun wanted => by simp [LlmInstanceManager.modifyMetadata]

end NoneReadied

/-- What a call does to the instances. -/
theorem step_instances
    {fingerprint : PyVal → PyVal → PyStr}
    {action : Action}
    (stepped : step? fingerprint manager action = some next) :
    (∃ instanceId key generationId gpuMem,
      action = .registerStartingInstance instanceId key generationId gpuMem ∧
        next.instances = manager.instances.set instanceId
          { key, generationId, gpuMem, state := .launching, metadata := none }) ∨
      (∃ instanceId now inst metadata,
        action = .markReady instanceId now ∧
          manager.instances.get? instanceId = some inst ∧
          next.instances = manager.instances.set instanceId
            { inst with state := .ready, metadata := some metadata }) ∨
      (∃ instanceId inst,
        action = .cancelLruScaleInClaim instanceId ∧
          manager.instances.get? instanceId = some inst ∧
          next.instances = (manager.setState instanceId .ready).instances) ∨
      NoneReadied manager next := by
  cases becomes_of_step stepped with
  | registered instanceId key generationId gpuMem =>
      exact .inl ⟨instanceId, key, generationId, gpuMem, rfl, rfl⟩
  | readied instanceId now inst found =>
      exact .inr (.inl ⟨instanceId, now, inst, manager.readyMetadata inst now, rfl,
        found, by simp⟩)
  | claimCancelled instanceId inst found =>
      exact .inr (.inr (.inl ⟨instanceId, inst, rfl, found, rfl⟩))
  | unserved request now => exact .inr (.inr (.inr (.of_same rfl)))
  | routed request now instanceId metadata chosen =>
      refine .inr (.inr (.inr fun wanted inst' found => ?_))
      let kept := manager.keepAffinity fingerprint request instanceId
      have changed : NoneReadied kept (kept.modifyMetadata instanceId fun metadata =>
          { metadata with
            inflightRequests := metadata.inflightRequests + 1
            lastUsedTime := some now }) :=
        .modifyMetadata instanceId _
      obtain ⟨inst, before, spec⟩ := changed wanted inst' found
      rw [keepAffinity_instances] at before
      exact ⟨inst, before, spec⟩
  | released instanceId now => exact .inr (.inr (.inr (.modifyMetadata instanceId _)))
  | workflowCleared workflowId =>
      exact .inr (.inr (.inr (.of_same (manager.clearWorkflowState_frame workflowId).1)))
  | deploying key instanceId => exact .inr (.inr (.inr (.of_same (by simp))))
  | deployed instanceId => exact .inr (.inr (.inr (.of_same (by simp))))
  | decided instanceId identity => exact .inr (.inr (.inr (.modifyMetadata instanceId _)))
  | startStopped instanceId =>
      let cancelled : LlmInstanceManager :=
        { manager with
          cancelledStartIds := manager.cancelledStartIds.insert instanceId }
      have left : NoneReadied cancelled (cancelled.leaveRouting instanceId .stopping) :=
        .leaveRouting instanceId (by decide)
      exact .inr (.inr (.inr left))
  | startCancelled instanceId => exact .inr (.inr (.inr (.of_same rfl)))
  | cancellationCleared instanceId => exact .inr (.inr (.inr (.of_same rfl)))
  | limited instanceId => exact .inr (.inr (.inr (.modifyMetadata instanceId _)))
  | drained instanceId => exact .inr (.inr (.inr (.leaveRouting instanceId (by decide))))
  | unhealthy instanceId => exact .inr (.inr (.inr (.leaveRouting instanceId (by decide))))
  | unprobed instanceId => exact .inr (.inr (.inr (.of_same rfl)))
  | claimed instanceId =>
      have left : NoneReadied manager (manager.leaveRouting instanceId .stopping) :=
        .leaveRouting instanceId (by decide)
      exact .inr (.inr (.inr left))
  | claimOwned instanceId => exact .inr (.inr (.inr (.of_same rfl)))
  | stopBegun instanceId => exact .inr (.inr (.inr (.leaveRouting instanceId (by decide))))
  | stopEnded instanceId confirmed =>
      refine .inr (.inr (.inr (.of_change instanceId
        (fun inst => { inst with
          state := if confirmed then .stopped else .cleanupPending })
        (fun _ => rfl) (fun _ => rfl) ?_ fun wanted => by simp [setState])))
      intro inst ready
      cases confirmed <;> cases ready
  | forgotten instanceId =>
      refine .inr (.inr (.inr fun wanted inst' found => ?_))
      simp only [clearModelDeploying_instances, Table.get?_erase] at found
      split at found
      · cases found
      · exact ⟨inst', found, rfl, rfl, id⟩

/-! ### Deployments and the threshold -/

@[simp] theorem markModelDeploying_scaleOutThreshold
    (manager : LlmInstanceManager)
    (key : ModelKey)
    (instanceId : PyStr) :
    (manager.markModelDeploying key instanceId).scaleOutThreshold =
      manager.scaleOutThreshold := by
  unfold markModelDeploying
  split <;> rfl

theorem get?_markModelDeploying
    (manager : LlmInstanceManager)
    (key : ModelKey)
    (instanceId wanted : PyStr) :
    (manager.markModelDeploying key instanceId).autoDeployByInstance.get? wanted =
      if wanted = instanceId then
        (manager.autoDeployByInstance.get? instanceId).or (some key)
      else
        manager.autoDeployByInstance.get? wanted := by
  unfold markModelDeploying
  by_cases marked : manager.autoDeployByInstance.contains instanceId = true
  · obtain ⟨other, found⟩ := Option.isSome_iff_exists.mp marked
    by_cases same : wanted = instanceId
    · subst same
      simp [marked, found]
    · simp [marked, same]
  · have absent : manager.autoDeployByInstance.get? instanceId = none := by
      simpa [Table.contains] using marked
    simp [marked, absent]

@[simp] theorem clearModelDeploying_scaleOutThreshold
    (manager : LlmInstanceManager)
    (instanceId : PyStr) :
    (manager.clearModelDeploying instanceId).scaleOutThreshold =
      manager.scaleOutThreshold := by
  unfold clearModelDeploying
  split <;> rfl

theorem get?_clearModelDeploying
    (manager : LlmInstanceManager)
    (instanceId wanted : PyStr) :
    (manager.clearModelDeploying instanceId).autoDeployByInstance.get? wanted =
      if wanted = instanceId then none
      else manager.autoDeployByInstance.get? wanted := by
  unfold clearModelDeploying
  split
  · rename_i absent
    split
    · rename_i same
      rw [same, absent]
    · rfl
  · simp

/-- The records that only a deployment changes, and the threshold. -/
def scalingRecords (manager : LlmInstanceManager) :=
  (manager.autoDeployByInstance, manager.scaleOutThreshold)

theorem clearWorkflowState_scalingRecords
    (manager : LlmInstanceManager)
    (workflowId : PyStr) :
    (manager.clearWorkflowState workflowId).scalingRecords =
      manager.scalingRecords := by
  unfold clearWorkflowState
  split
  · rfl
  · generalize manager.pendingModelRequestIds.entries.map Prod.fst = keys
    induction keys generalizing manager with
    | nil =>
        rfl
    | cons key rest inductionHypothesis =>
        exact inductionHypothesis (manager.clearPending workflowId key)

/-- The instance whose deployment a call ends. -/
def endsDeployment : Action → Option PyStr
  | .clearModelDeploying instanceId | .markReady instanceId _
  | .finalizeStoppedInstance instanceId => some instanceId
  | _ => none

/-- A call of another thread ends a deployment or leaves the records alone. -/
theorem step_scalingRecords
    {fingerprint : PyVal → PyVal → PyStr}
    {action : Action}
    (call : Scaling.isCall action = true)
    (stepped : step? fingerprint manager action = some next) :
    next.scaleOutThreshold = manager.scaleOutThreshold ∧
      ∀ wanted, next.autoDeployByInstance.get? wanted =
        if endsDeployment action = some wanted then none
        else manager.autoDeployByInstance.get? wanted := by
  have of_same
      (same : next.scalingRecords = manager.scalingRecords)
      (none_ : endsDeployment action = none) :
      next.scaleOutThreshold = manager.scaleOutThreshold ∧
        ∀ wanted, next.autoDeployByInstance.get? wanted =
          if endsDeployment action = some wanted then none
          else manager.autoDeployByInstance.get? wanted := by
    simp only [scalingRecords, Prod.mk.injEq] at same
    refine ⟨same.2, fun wanted => ?_⟩
    rw [same.1, none_]
    rfl
  cases becomes_of_step stepped with
  | deploying key instanceId => cases call
  | deployed instanceId =>
      refine ⟨by simp, fun wanted => ?_⟩
      rw [get?_clearModelDeploying]
      simp [endsDeployment, eq_comm]
  | readied instanceId now =>
      refine ⟨by simp, fun wanted => ?_⟩
      rw [get?_clearModelDeploying]
      simp [endsDeployment, eq_comm]
  | forgotten instanceId =>
      refine ⟨by rw [clearModelDeploying_scaleOutThreshold]; rfl, fun wanted => ?_⟩
      rw [get?_clearModelDeploying]
      simp only [endsDeployment, Option.some.injEq, eq_comm]
      rfl
  | unserved request now => exact of_same rfl rfl
  | routed request now instanceId =>
      refine of_same ?_ rfl
      simp only [admitRoute, keepAffinity]
      split <;> rfl
  | released instanceId now => exact of_same rfl rfl
  | workflowCleared workflowId =>
      exact of_same (manager.clearWorkflowState_scalingRecords workflowId) rfl
  | registered instanceId key generationId gpuMem => exact of_same rfl rfl
  | decided instanceId identity => exact of_same rfl rfl
  | startStopped instanceId => exact of_same rfl rfl
  | startCancelled instanceId => exact of_same rfl rfl
  | cancellationCleared instanceId => exact of_same rfl rfl
  | limited instanceId => exact of_same rfl rfl
  | drained instanceId => exact of_same rfl rfl
  | unhealthy instanceId => exact of_same rfl rfl
  | unprobed instanceId => exact of_same rfl rfl
  | claimed instanceId => exact of_same rfl rfl
  | claimCancelled instanceId => exact of_same rfl rfl
  | claimOwned instanceId => exact of_same rfl rfl
  | stopBegun instanceId => exact of_same rfl rfl
  | stopEnded instanceId => exact of_same rfl rfl

theorem Sound.markModelDeploying
    (sound : manager.Sound)
    (key : ModelKey)
    (instanceId : PyStr) :
    (manager.markModelDeploying key instanceId).Sound := by
  have stepped : step? (fun _ _ => "") manager (.markModelDeploying key instanceId) =
      some (manager.markModelDeploying key instanceId) := rfl
  exact sound.step stepped

/-! ### Instances in service -/

/-- The deployments of a model concern instances of it that are not yet measured. -/
def DeploymentsApart (manager : LlmInstanceManager) : Prop :=
  ∀ instanceId key inst, manager.autoDeployByInstance.get? instanceId = some key →
    manager.instances.get? instanceId = some inst →
      inst.key = key ∧ inst.metadata.isSome = false

/-- The instance is ready for the model or deployed for it. -/
def InService
    (manager : LlmInstanceManager)
    (key : ModelKey)
    (instanceId : PyStr) : Prop :=
  manager.ReadyFor key instanceId ∨
    manager.autoDeployByInstance.get? instanceId = some key

/-- The instances that are ready or deployed for a model, each of them once. -/
theorem exists_inService
    (sound : manager.Sound)
    (apart : manager.DeploymentsApart)
    (key : ModelKey) :
    ∃ serving : List PyStr, serving.Nodup ∧
      serving.length = manager.capacityOf key ∧
      ∀ instanceId, instanceId ∈ serving ↔ manager.InService key instanceId := by
  let marked := manager.autoDeployByInstance.entries.filter fun entry => entry.2 = key
  have mem_marked (instanceId : PyStr) :
      instanceId ∈ marked.map Prod.fst ↔
        manager.autoDeployByInstance.get? instanceId = some key := by
    rw [Table.get?_eq_some_iff]
    simp [marked]
  refine ⟨manager.instancesOf key ++ marked.map Prod.fst, ?_, ?_, fun instanceId => ?_⟩
  · refine List.nodup_append'.mpr ⟨sound.routing.distinct key, ?_, ?_⟩
    · exact (List.filter_sublist.map Prod.fst).nodup
        manager.autoDeployByInstance.distinct
    · intro instanceId listed deployed
      obtain ⟨inst, found, _, ready⟩ := (sound.routing.listed key instanceId).mp listed
      have unmeasured :=
        (apart instanceId key inst ((mem_marked instanceId).mp deployed) found).2
      exact sound.routing.measured instanceId inst found ready
        (Option.isSome_eq_false_iff.mp unmeasured |> Option.isNone_iff_eq_none.mp)
  · rw [List.length_append, length_instancesOf sound.routing, capacityOf, List.length_map]
    congr 1
    simp only [deploymentsOf, Table.sumOf, marked]
    rw [← List.countP_eq_length_filter]
    induction manager.autoDeployByInstance.entries with
    | nil =>
        rfl
    | cons entry rest inductionHypothesis =>
        rw [List.countP_cons, inductionHypothesis, List.map_cons, List.sum_cons, add_comm]
        simp
  · rw [List.mem_append, sound.routing.listed, mem_marked, InService]

/-- More instances in service are a larger capacity. -/
theorem capacityOf_le
    (sound : manager.Sound)
    (apart : manager.DeploymentsApart)
    (soundNext : next.Sound)
    (apartNext : next.DeploymentsApart)
    {key : ModelKey}
    (kept : ∀ instanceId,
      manager.InService key instanceId → next.InService key instanceId) :
    manager.capacityOf key ≤ next.capacityOf key := by
  obtain ⟨serving, distinct, length, members⟩ := exists_inService sound apart key
  obtain ⟨later, _, lengthLater, membersLater⟩ :=
    exists_inService soundNext apartNext key
  rw [← length, ← lengthLater]
  refine (distinct.subperm fun instanceId inside => ?_).length_le
  exact (membersLater instanceId).mpr (kept instanceId ((members instanceId).mp inside))

/-- The deployment of an instance that was not in service adds one to the capacity. -/
theorem capacityOf_markModelDeploying
    {key : ModelKey}
    {instanceId : PyStr}
    (unmarked : manager.autoDeployByInstance.get? instanceId = none)
    (other : ModelKey) :
    (manager.markModelDeploying key instanceId).capacityOf other =
      manager.capacityOf other + if other = key then 1 else 0 := by
  have fresh : ¬ manager.autoDeployByInstance.contains instanceId = true := by
    simp [Table.contains, unmarked]
  simp only [capacityOf, readyCount, deploymentsOf, markModelDeploying, fresh, if_false,
    Table.sumOf_set unmarked, Bool.false_eq_true]
  rw [add_assoc]
  simp [eq_comm]

end LlmInstanceManager

namespace Scaling

open LlmInstanceManager

variable {fingerprint : PyVal → PyVal → PyStr} {state next : Scaling}

/-! ## Invariants -/

/-- What holds in every state that is reached. -/
structure Invariant (state : Scaling) : Prop where
  sound : state.manager.Sound
  apart : state.manager.DeploymentsApart
  distinct : (state.acting.map Recommendation.key).Nodup
  threshold : state.manager.scaleOutThreshold = .infinity false ∨
    ∃ value : ℚ, 0 < value ∧ state.manager.scaleOutThreshold = .finite value

/-- There is room for every recommendation that the round has still to act on. -/
def RoomLeft (state : Scaling) : Prop :=
  ∀ recommendation ∈ state.acting,
    state.manager.capacityOf recommendation.key + 1 ≤
      demandBound state.manager.scaleOutThreshold recommendation.pendingRequests

/-- A round recommends each model at most once. -/
theorem nodup_recommendationsWith
    (manager : LlmInstanceManager)
    (product : Double → ℕ → Double) :
    ((manager.recommendationsWith product).map Recommendation.key).Nodup := by
  have distinct := manager.pendingModelRequestIds.distinct
  rw [recommendationsWith]
  generalize manager.pendingModelRequestIds.entries.map Prod.fst = keys at distinct
  refine ((?_ : List.Sublist _ keys)).nodup distinct
  clear distinct
  induction keys with
  | nil =>
      exact List.Sublist.refl _
  | cons key rest inductionHypothesis =>
      cases found : manager.recommendationWith product key with
      | none =>
          rw [List.filterMap_cons_none found]
          exact inductionHypothesis.cons key
      | some recommendation =>
          rw [List.filterMap_cons_some found, List.map_cons,
            recommendationWith_key found]
          exact inductionHypothesis.cons_cons key

/-- A recommendation is made where there is room for one more instance. -/
theorem room_of_recommended
    (kept : state.Invariant)
    {recommendation : Recommendation}
    (recommended : recommendation ∈
      state.manager.recommendationsWith exactProduct) :
    recommendation.pendingRequests =
        (state.manager.requestIdsOf recommendation.key).length ∧
      state.manager.capacityOf recommendation.key + 1 ≤
        demandBound state.manager.scaleOutThreshold recommendation.pendingRequests := by
  obtain ⟨key, _, found⟩ := List.mem_filterMap.mp recommended
  obtain rfl := recommendationWith_key found
  have capacity : (state.manager.instancesOf recommendation.key).length +
      state.manager.deployingCount recommendation.key =
        state.manager.capacityOf recommendation.key := by
    rw [length_instancesOf kept.sound.routing, kept.sound.deployments, capacityOf]
  simp only [recommendationWith, Option.ite_none_left_eq_some,
    Option.some.injEq, capacity] at found
  obtain ⟨_, allowed, made⟩ := found
  have pending : recommendation.pendingRequests =
      (state.manager.requestIdsOf recommendation.key).length := by
    rw [← made]
  refine ⟨pending, ?_⟩
  rw [pending]
  by_cases none : state.manager.capacityOf recommendation.key = 0
  · rw [none]
    unfold demandBound
    split <;> omega
  · have notBelow : isBelow (state.manager.requestIdsOf recommendation.key).length
        (exactProduct state.manager.scaleOutThreshold
          (state.manager.capacityOf recommendation.key)) = false := by
      rw [← Bool.not_eq_true]
      intro below
      exact allowed ⟨Nat.pos_of_ne_zero none, .inl below⟩
    rcases kept.threshold with infinite | ⟨value, positive, finite⟩
    · rw [infinite] at notBelow
      cases notBelow
    · rw [finite] at notBelow ⊢
      simp only [exactProduct, isBelow, decide_eq_false_iff_not, not_lt] at notBelow
      rw [demandBound, Nat.add_le_add_iff_right, Nat.le_floor_iff (by positivity),
        le_div_iff₀ positive, mul_comm]
      exact notBelow

/-! ## Steps -/

/-- Acting on a recommendation marks a fresh deployment for its model. -/
theorem step_act
    {instanceId : PyStr}
    (stepped : step? fingerprint state (.act instanceId) = some next) :
    ∃ recommendation rest, state.acting = recommendation :: rest ∧
      state.manager.autoDeployByInstance.get? instanceId = none ∧
      state.manager.instances.get? instanceId = none ∧
      next = {
        manager := state.manager.markModelDeploying recommendation.key instanceId
        acting := rest } := by
  simp only [step?] at stepped
  split at stepped
  · cases stepped
  · rename_i recommendation rest owed
    simp only [Option.ite_none_left_eq_some, not_or, Option.some.injEq] at stepped
    obtain ⟨⟨unmarked, unregistered⟩, rfl⟩ := stepped
    exact ⟨recommendation, rest, owed, by simpa [Table.contains] using unmarked,
      by simpa [Table.contains] using unregistered, rfl⟩

/-- The deployment of an instance that is not registered concerns no instance. -/
theorem apart_markModelDeploying
    {manager : LlmInstanceManager}
    (apart : manager.DeploymentsApart)
    {key : ModelKey}
    {instanceId : PyStr}
    (absent : manager.instances.get? instanceId = none) :
    (manager.markModelDeploying key instanceId).DeploymentsApart := by
  intro wanted marked inst recorded found
  rw [markModelDeploying_instances] at found
  rw [get?_markModelDeploying] at recorded
  split at recorded
  · rename_i same
    rw [same, absent] at found
    cases found
  · exact apart wanted marked inst recorded found

/-- Every call of another thread keeps the deployments apart. -/
theorem apart_call
    {manager later : LlmInstanceManager}
    {action : ModelInstances.Action}
    (apart : manager.DeploymentsApart)
    (call : isCall action = true)
    (marked : startsMarked manager action = true)
    (stepped : ModelInstances.step? fingerprint manager action = some later) :
    later.DeploymentsApart := by
  obtain ⟨_, records⟩ := step_scalingRecords call stepped
  intro wanted key inst recorded found
  rw [records] at recorded
  rw [Option.ite_none_left_eq_some] at recorded
  obtain ⟨going, recorded⟩ := recorded
  rcases step_instances stepped with
    ⟨instanceId, started, generationId, gpuMem, rfl, instances⟩ |
    ⟨instanceId, now, old, metadata, rfl, present, instances⟩ |
    ⟨instanceId, old, rfl, present, instances⟩ | none_
  · rw [instances, Table.get?_set] at found
    split at found
    · rename_i same
      subst same
      cases found
      simp only [startsMarked, recorded, Option.all_some, decide_eq_true_eq] at marked
      exact ⟨marked.symm, rfl⟩
    · exact apart wanted key inst recorded found
  · have differ : wanted ≠ instanceId := fun same => going (by rw [same]; rfl)
    rw [instances, Table.get?_set, if_neg differ] at found
    exact apart wanted key inst recorded found
  · rw [instances, setState, Table.get?_modify] at found
    split at found
    · obtain ⟨before, here, rfl⟩ := Option.map_eq_some_iff.mp found
      exact apart wanted key before recorded here
    · exact apart wanted key inst recorded found
  · obtain ⟨before, here, owned, measured, _⟩ := none_ wanted inst found
    obtain ⟨same, unmeasured⟩ := apart wanted key before recorded here
    exact ⟨owned.trans same, measured.trans unmeasured⟩

/-- Every step keeps the invariant. -/
theorem Invariant.step
    {action : Action}
    (kept : state.Invariant)
    (stepped : step? fingerprint state action = some next) :
    next.Invariant := by
  cases action with
  | recommend =>
      simp only [step?, Option.ite_none_right_eq_some, Option.some.injEq] at stepped
      obtain ⟨_, rfl⟩ := stepped
      exact ⟨kept.sound, kept.apart, nodup_recommendationsWith _ _, kept.threshold⟩
  | act instanceId =>
      obtain ⟨recommendation, rest, owed, _, absent, rfl⟩ := step_act stepped
      have distinct := kept.distinct
      rw [owed] at distinct
      refine ⟨?_, apart_markModelDeploying kept.apart absent,
        (List.nodup_cons.mp distinct).2, by simpa using kept.threshold⟩
      exact kept.sound.markModelDeploying recommendation.key instanceId
  | retry key instanceId =>
      simp only [step?, Option.ite_none_left_eq_some, Option.some.injEq] at stepped
      obtain ⟨unregistered, rfl⟩ := stepped
      refine ⟨?_, apart_markModelDeploying kept.apart
        (by simpa [Table.contains] using unregistered), kept.distinct,
        by simpa using kept.threshold⟩
      exact kept.sound.markModelDeploying key instanceId
  | call action =>
      simp only [step?, Option.ite_none_right_eq_some, Option.map_eq_some_iff] at stepped
      obtain ⟨⟨call, marked⟩, later, stepped, rfl⟩ := stepped
      refine ⟨kept.sound.step stepped, apart_call kept.apart call marked stepped,
        kept.distinct, ?_⟩
      rw [(step_scalingRecords call stepped).1]
      exact kept.threshold

/-- A call that does not raise the capacity of a model leaves it or lowers it. -/
theorem inService_of_call
    {manager later : LlmInstanceManager}
    {action : ModelInstances.Action}
    {key : ModelKey}
    {instanceId : PyStr}
    (apart : manager.DeploymentsApart)
    (call : isCall action = true)
    (steady : ¬ Raises manager key action)
    (stepped : ModelInstances.step? fingerprint manager action = some later)
    (service : later.InService key instanceId) :
    manager.InService key instanceId := by
  rcases service with ⟨inst, found, owned, ready⟩ | recorded
  · rcases step_instances stepped with
      ⟨changed, started, generationId, gpuMem, rfl, instances⟩ |
      ⟨changed, now, old, metadata, rfl, present, instances⟩ |
      ⟨changed, old, rfl, present, instances⟩ | none_
    · rw [instances, Table.get?_set] at found
      split at found
      · cases found
        cases ready
      · exact .inl ⟨inst, found, owned, ready⟩
    · rw [instances, Table.get?_set] at found
      split at found
      · rename_i same
        subst same
        cases found
        -- the instance was deployed for the model, or the step would raise its capacity
        have deployed : manager.autoDeployByInstance.get? instanceId ≠ none :=
          fun absent => steady ⟨⟨old, present, owned⟩, absent⟩
        obtain ⟨marked, recorded⟩ := Option.ne_none_iff_exists'.mp deployed
        have same := (apart instanceId marked old recorded present).1
        rw [← same, show old.key = key from owned] at recorded
        exact .inr recorded
      · exact .inl ⟨inst, found, owned, ready⟩
    · rw [instances, setState, Table.get?_modify] at found
      split at found
      · rename_i same
        subst same
        rw [present, Option.map_some, Option.some.injEq] at found
        subst found
        exact absurd ⟨old, present, owned⟩ steady
      · exact .inl ⟨inst, found, owned, ready⟩
    · obtain ⟨before, here, kept, _, readied⟩ := none_ instanceId inst found
      exact .inl ⟨before, here, kept.symm.trans owned, readied ready⟩
  · rw [(step_scalingRecords call stepped).2, Option.ite_none_left_eq_some] at recorded
    exact .inr recorded.2

/-- A step that is steady leaves room for what the round has still to act on. -/
theorem RoomLeft.step
    {action : Action}
    (kept : state.Invariant)
    (room : state.RoomLeft)
    (steady : Steady state action)
    (stepped : step? fingerprint state action = some next) :
    next.RoomLeft := by
  cases action with
  | recommend =>
      simp only [step?, Option.ite_none_right_eq_some, Option.some.injEq] at stepped
      obtain ⟨_, rfl⟩ := stepped
      exact fun recommendation made => (room_of_recommended kept made).2
  | act instanceId =>
      obtain ⟨recommendation, rest, owed, unmarked, _, rfl⟩ := step_act stepped
      intro other inside
      have distinct := kept.distinct
      rw [owed, List.map_cons, List.nodup_cons] at distinct
      have differ : other.key ≠ recommendation.key := by
        intro same
        exact distinct.1 (List.mem_map.mpr ⟨other, inside, same⟩)
      have before := room other (by rw [owed]; exact List.mem_cons_of_mem _ inside)
      rw [capacityOf_markModelDeploying unmarked, if_neg differ]
      simpa using before
  | retry key instanceId =>
      simp only [step?, Option.ite_none_left_eq_some, Option.some.injEq] at stepped
      obtain ⟨_, rfl⟩ := stepped
      intro other inside
      have before := room other inside
      have differ : other.key ≠ key := steady other inside
      by_cases marked : state.manager.autoDeployByInstance.contains instanceId = true
      · simpa [markModelDeploying, marked] using before
      · rw [capacityOf_markModelDeploying (by simpa [Table.contains] using marked),
          if_neg differ]
        simpa using before
  | call action =>
      have keptNext := kept.step stepped
      simp only [step?, Option.ite_none_right_eq_some, Option.map_eq_some_iff] at stepped
      obtain ⟨⟨call, _⟩, later, stepped, rfl⟩ := stepped
      intro other inside
      have notMore : later.capacityOf other.key ≤ state.manager.capacityOf other.key :=
        capacityOf_le keptNext.sound keptNext.apart kept.sound kept.apart
          fun instanceId service =>
            inService_of_call kept.apart call (steady other inside) stepped service
      rw [(step_scalingRecords call stepped).1]
      exact (Nat.add_le_add_right notMore 1).trans (room other inside)

/-- Where there is room for every recommendation, acting on one stays within it. -/
theorem RoomLeft.actsWithin
    {action : Action}
    (room : state.RoomLeft) :
    ActsWithin fingerprint state action := by
  rintro instanceId recommendation rest next rfl owed stepped
  obtain ⟨other, others, sameOwed, unmarked, _, rfl⟩ := step_act stepped
  rw [owed, List.cons.injEq] at sameOwed
  obtain ⟨rfl, rfl⟩ := sameOwed
  rw [capacityOf_markModelDeploying unmarked, if_pos rfl]
  exact room recommendation (by rw [owed]; exact List.mem_cons_self)

/-- An instance that was deployed for a model becomes ready for it. -/
theorem readyFor_of_markReady
    {manager later : LlmInstanceManager}
    {key : ModelKey}
    {instanceId : PyStr}
    {now : ℚ}
    (apart : manager.DeploymentsApart)
    (recorded : manager.autoDeployByInstance.get? instanceId = some key)
    (stepped : ModelInstances.step? fingerprint manager (.markReady instanceId now) =
      some later) :
    later.ReadyFor key instanceId := by
  simp only [ModelInstances.step?, markReady?] at stepped
  split at stepped
  · rename_i inst found
    simp only [Option.ite_none_right_eq_some, Option.some.injEq] at stepped
    obtain ⟨_, rfl⟩ := stepped
    refine ⟨{ inst with
      state := .ready
      metadata := some (manager.readyMetadata inst now) }, by simp, ?_, rfl⟩
    exact (apart instanceId key inst recorded found).1
  · cases stepped

/-- A deployment stays recorded until its instance is ready, has failed or is removed. -/
theorem Invariant.staysCounted
    (kept : state.Invariant)
    (action : Action) :
    StaysCounted fingerprint state action := by
  intro next instanceId key stepped recorded
  cases action with
  | recommend =>
      simp only [step?, Option.ite_none_right_eq_some, Option.some.injEq] at stepped
      obtain ⟨_, rfl⟩ := stepped
      exact .inl recorded
  | act other =>
      obtain ⟨recommendation, rest, _, unmarked, _, rfl⟩ := step_act stepped
      have differ : instanceId ≠ other := by
        rintro rfl
        rw [unmarked] at recorded
        cases recorded
      rw [get?_markModelDeploying, if_neg differ]
      exact .inl recorded
  | retry otherKey other =>
      simp only [step?, Option.ite_none_left_eq_some, Option.some.injEq] at stepped
      obtain ⟨_, rfl⟩ := stepped
      rw [get?_markModelDeploying]
      split
      · rename_i same
        subst same
        rw [recorded]
        exact .inl rfl
      · exact .inl recorded
  | call action =>
      simp only [step?, Option.ite_none_right_eq_some, Option.map_eq_some_iff] at stepped
      obtain ⟨⟨call, _⟩, later, stepped, rfl⟩ := stepped
      rw [(step_scalingRecords call stepped).2]
      split
      · rename_i ending
        cases action with
        | markReady other now =>
            obtain rfl : other = instanceId := Option.some.inj ending
            exact .inr (.inl (readyFor_of_markReady kept.apart recorded stepped))
        | clearModelDeploying other =>
            obtain rfl : other = instanceId := Option.some.inj ending
            exact .inr (.inr (.inl rfl))
        | finalizeStoppedInstance other =>
            obtain rfl : other = instanceId := Option.some.inj ending
            exact .inr (.inr (.inr rfl))
        | _ => cases ending
      · exact .inl recorded

/-! ## Counting recommendations -/

/-- A step that disturbs no deployment and no instance lowers no capacity. -/
theorem capacityOf_le_of_undisturbed
    {action : Action}
    {key : ModelKey}
    (kept : state.Invariant)
    (undisturbed : Undisturbed fingerprint key state action)
    (stepped : step? fingerprint state action = some next) :
    state.manager.capacityOf key ≤ next.manager.capacityOf key := by
  have keptNext := kept.step stepped
  obtain ⟨_, instances, deployments⟩ := undisturbed next stepped
  refine capacityOf_le kept.sound kept.apart keptNext.sound keptNext.apart ?_
  rintro instanceId (ready | recorded)
  · exact .inl (instances instanceId ready)
  · exact (deployments instanceId recorded).symm

/-- A recommendation counts for its model once. -/
theorem recommendationsOf_le_one
    {recommendations : List Recommendation}
    (distinct : (recommendations.map Recommendation.key).Nodup)
    (key : ModelKey) :
    recommendationsOf key recommendations ≤ 1 := by
  have once := List.nodup_iff_count_le_one.mp distinct key
  rwa [List.count, List.countP_map] at once

/--
The recommendations made for the model, together with the capacity at first and the
recommendations to be acted on, do not exceed what the demand allows.
-/
theorem recommendationsMade_le
    {key : ModelKey}
    {actions : List Action}
    (kept : state.Invariant)
    (undisturbed : EveryStep (step? fingerprint) (Undisturbed fingerprint key)
      state actions) :
    recommendationsMade fingerprint key state actions = 0 ∨
      recommendationsMade fingerprint key state actions +
          (state.manager.capacityOf key + recommendationsOf key state.acting) ≤
        demandBound state.manager.scaleOutThreshold
          (state.manager.requestIdsOf key).length := by
  induction actions generalizing state with
  | nil =>
      exact .inl rfl
  | cons action rest inductionHypothesis =>
      rw [recommendationsMade]
      cases stepped : step? fingerprint state action with
      | none =>
          exact .inl rfl
      | some next =>
          obtain ⟨here, later⟩ := undisturbed next stepped
          have keptNext := kept.step stepped
          have following := inductionHypothesis keptNext later
          have pending := (here next stepped).1
          have capacity := capacityOf_le_of_undisturbed kept here stepped
          dsimp only
          cases action with
          | recommend =>
              simp only [step?, Option.ite_none_right_eq_some,
                Option.some.injEq] at stepped
              obtain ⟨idle, rfl⟩ := stepped
              have none_ : recommendationsOf key state.acting = 0 := by
                rw [List.isEmpty_iff.mp idle]
                rfl
              have once := recommendationsOf_le_one keptNext.distinct key
              dsimp only at following once ⊢
              by_cases made : recommendationsOf key
                  (state.manager.recommendationsWith exactProduct) = 0
              · rw [made] at following ⊢
                omega
              · obtain ⟨recommendation, inside, owned⟩ :=
                  List.countP_pos_iff.mp (Nat.pos_of_ne_zero made)
                obtain ⟨amount, room⟩ := room_of_recommended kept inside
                obtain rfl : recommendation.key = key := of_decide_eq_true owned
                rw [amount] at room
                omega
          | act instanceId =>
              obtain ⟨recommendation, others, owed, unmarked, _, rfl⟩ := step_act stepped
              have added : (state.manager.markModelDeploying recommendation.key
                  instanceId).capacityOf key =
                    state.manager.capacityOf key +
                      if key = recommendation.key then 1 else 0 :=
                capacityOf_markModelDeploying unmarked key
              have owing : recommendationsOf key state.acting =
                  recommendationsOf key others +
                    if key = recommendation.key then 1 else 0 := by
                rw [owed, recommendationsOf, List.countP_cons, recommendationsOf]
                simp [eq_comm]
              dsimp only at following pending capacity ⊢
              rw [markModelDeploying_scaleOutThreshold, pending] at following
              omega
          | retry other instanceId =>
              have acting : next.acting = state.acting ∧
                  next.manager.scaleOutThreshold = state.manager.scaleOutThreshold := by
                simp only [step?, Option.ite_none_left_eq_some,
                  Option.some.injEq] at stepped
                obtain ⟨_, rfl⟩ := stepped
                simp
              rw [acting.1, acting.2, pending] at following
              dsimp only
              omega
          | call call =>
              have acting : next.acting = state.acting ∧
                  next.manager.scaleOutThreshold = state.manager.scaleOutThreshold := by
                simp only [step?, Option.ite_none_right_eq_some,
                  Option.map_eq_some_iff] at stepped
                obtain ⟨⟨called, _⟩, later, stepped, rfl⟩ := stepped
                exact ⟨rfl, (step_scalingRecords called stepped).1⟩
              rw [acting.1, acting.2, pending] at following
              dsimp only
              omega

/-! ## Runs -/

/-- A manager before its first round meets the invariant. -/
theorem invariant_initial
    (maxRequestsPerInstance : ℤ)
    (scaleOutThreshold : Double)
    (idleScaleInSeconds : ℚ) :
    (initial maxRequestsPerInstance scaleOutThreshold idleScaleInSeconds).Invariant where
  sound := Sound.of_initial _ _ _
  apart := fun _ _ _ recorded => by
    simp [initial, LlmInstanceManager.initial] at recorded
  distinct := List.nodup_nil
  threshold := by
    simp only [initial, LlmInstanceManager.initial, thresholdOf]
    split
    · exact .inr ⟨_, lt_max_of_lt_left (by norm_num), rfl⟩
    · exact .inl rfl
    · exact .inr ⟨_, by norm_num, rfl⟩

/-- A request waits, and a round deploys an instance for it. -/
def deployed : List Action :=
  [.call (.routeModelRequest (qwenRequest "task" 8000 qwen_8000) 1),
    .recommend, .act "instance"]

/-- An instance is too small for a request, and the start of a larger one fails. -/
def failed : List Action :=
  (LlmInstanceManager.undersized ["small"]).map .call ++
    [.recommend, .act "large", .call (.clearModelDeploying "large")]

end Scaling

end Maze.Scheduler.ModelInstances
