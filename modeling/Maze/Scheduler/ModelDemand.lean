import Maze.Scheduler.ModelIndexes

namespace Maze.Scheduler.ModelInstances

open Maze.Python
open Maze.Library
open Maze.Library.Transition

/-!
# Demand that no instance can serve

A request waits although instances of its model are ready, if each of them has
reserved too little GPU memory for it or has loaded another checkpoint. Routing
looks at the instances themselves; a recommendation only counts them.
-/

namespace LlmInstanceManager

/-! ## Demand without an instance -/

/-- The number of ready instances of a model. -/
def readyCount
    (manager : LlmInstanceManager)
    (key : ModelKey) :
    ℕ :=
  (manager.instances.entries.filter fun entry =>
    entry.2.key = key && entry.2.state = .ready).length

/-- An instance of the model with too small a reservation, or another identity. -/
def CannotServe
    (fingerprint : PyVal → PyVal → PyStr)
    (request : ModelRequest)
    (inst : Instance) : Prop :=
  inst.gpuMem < request.requiredMib ∨
    ∃ metadata ∈ inst.metadata,
      identityFits (request.expectedIdentity fingerprint) metadata.identity = false

instance
    (fingerprint : PyVal → PyVal → PyStr)
    (request : ModelRequest)
    (inst : Instance) :
    Decidable (CannotServe fingerprint request inst) := by
  unfold CannotServe
  infer_instance

/--
Requests for the model are pending, no deployment of it is in progress, and no ready
instance of it can serve any of them.
-/
structure Unserved
    (fingerprint : PyVal → PyVal → PyStr)
    (manager : LlmInstanceManager)
    (key : ModelKey) : Prop where
  pending : manager.requestIdsOf key ≠ []
  notDeploying : ∀ entry ∈ manager.autoDeployByInstance.entries, entry.2 ≠ key
  unable : ∀ pending ∈ (manager.anchorsOf key).entries,
    ∀ entry ∈ manager.instances.entries,
      entry.2.key = key → entry.2.state = .ready →
        CannotServe fingerprint pending.2 entry.2

instance
    (fingerprint : PyVal → PyVal → PyStr)
    (manager : LlmInstanceManager)
    (key : ModelKey) :
    Decidable (manager.Unserved fingerprint key) :=
  decidable_of_iff
    (manager.requestIdsOf key ≠ [] ∧
      (∀ entry ∈ manager.autoDeployByInstance.entries, entry.2 ≠ key) ∧
      ∀ pending ∈ (manager.anchorsOf key).entries,
        ∀ entry ∈ manager.instances.entries,
          entry.2.key = key → entry.2.state = .ready →
            CannotServe fingerprint pending.2 entry.2)
    ⟨fun ⟨pending, notDeploying, unable⟩ => ⟨pending, notDeploying, unable⟩,
      fun unserved => ⟨unserved.pending, unserved.notDeploying, unserved.unable⟩⟩

/-- `scale_out_recommendations` recommends the model. -/
def Recommended
    (manager : LlmInstanceManager)
    (key : ModelKey) : Prop :=
  ∃ recommendation ∈ manager.scaleOutRecommendations, recommendation.key = key

instance
    (manager : LlmInstanceManager)
    (key : ModelKey) :
    Decidable (manager.Recommended key) := by
  unfold Recommended
  infer_instance

/-! ## Counting instances and deployments -/

/-- The routing index lists as many instances as are ready. -/
theorem length_instancesOf
    {manager : LlmInstanceManager}
    (sound : manager.RoutingSound)
    (key : ModelKey) :
    (manager.instancesOf key).length = manager.readyCount key := by
  have listed : (manager.instancesOf key).Perm
      ((manager.instances.entries.filter fun entry =>
        entry.2.key = key && entry.2.state = .ready).map Prod.fst) := by
    refine (List.perm_ext_iff_of_nodup (sound.distinct key) ?_).mpr fun instanceId => ?_
    · exact (List.filter_sublist.map Prod.fst).nodup manager.instances.distinct
    · rw [sound.listed]
      constructor
      · rintro ⟨inst, found, owned, ready⟩
        refine List.mem_map.mpr ⟨(instanceId, inst), List.mem_filter.mpr ⟨?_, ?_⟩, rfl⟩
        · exact (Table.get?_eq_some_iff _ _ _).mp found
        · simp [owned, ready]
      · intro inside
        obtain ⟨⟨_, inst⟩, member, rfl⟩ := List.mem_map.mp inside
        obtain ⟨inTable, passes⟩ := List.mem_filter.mp member
        simp only [Bool.and_eq_true, decide_eq_true_eq] at passes
        exact ⟨inst, (Table.get?_eq_some_iff _ _ _).mpr inTable, passes⟩
  rw [listed.length_eq, List.length_map, readyCount]

/-- A model without a recorded deployment has none. -/
theorem deploymentsOf_eq_zero
    {manager : LlmInstanceManager}
    {key : ModelKey}
    (none : ∀ entry ∈ manager.autoDeployByInstance.entries, entry.2 ≠ key) :
    manager.deploymentsOf key = 0 := by
  rw [deploymentsOf, Table.sumOf, List.sum_eq_zero]
  intro amount member
  obtain ⟨entry, inside, rfl⟩ := List.mem_map.mp member
  exact if_neg (none entry inside)

theorem recommendationWith_key
    {manager : LlmInstanceManager}
    {product : Double → ℕ → Double}
    {key : ModelKey}
    {recommendation : Recommendation}
    (found : manager.recommendationWith product key = some recommendation) :
    recommendation.key = key := by
  simp only [recommendationWith, Option.ite_none_left_eq_some, Option.some.injEq] at found
  obtain ⟨_, _, rfl⟩ := found
  rfl

/-- A model is recommended exactly if its round of the loop gives something. -/
theorem recommended_iff_isSome
    (manager : LlmInstanceManager)
    (key : ModelKey) :
    manager.Recommended key ↔
      (manager.recommendationWith floatProduct key).isSome = true := by
  constructor
  · rintro ⟨recommendation, inside, rfl⟩
    obtain ⟨key, _, found⟩ := List.mem_filterMap.mp inside
    rw [recommendationWith_key found, found]
    rfl
  · intro given
    obtain ⟨recommendation, found⟩ := Option.isSome_iff_exists.mp given
    refine ⟨recommendation, List.mem_filterMap.mpr ⟨key, ?_, found⟩,
      recommendationWith_key found⟩
    have pending : manager.requestIdsOf key ≠ [] := by
      intro nothing
      simp [recommendationWith, nothing] at found
    rw [requestIdsOf] at pending
    cases here : manager.pendingModelRequestIds.get? key with
    | none => simp [here] at pending
    | some requestIds =>
        exact List.mem_map.mpr
          ⟨(key, requestIds), (Table.get?_eq_some_iff _ _ _).mp here, rfl⟩

/-! ## Routing -/

/-! ## Recommendations -/

/--
In every state that is reached, demand that no ready instance can serve is
recommended exactly if the model has no ready instance, or its pending requests are
not below the threshold for the ready instances, none of which can serve them.
-/
theorem unserved_recommended_iff
    {fingerprint : PyVal → PyVal → PyStr}
    {maxRequestsPerInstance : ℤ}
    {scaleOutThreshold : Double}
    {idleScaleInSeconds : ℚ}
    {actions : List Action}
    {manager : LlmInstanceManager}
    {key : ModelKey}
    (reached : run? (step? fingerprint)
      (initial maxRequestsPerInstance scaleOutThreshold idleScaleInSeconds) actions =
        some manager)
    (unserved : manager.Unserved fingerprint key) :
    manager.Recommended key ↔
      manager.readyCount key = 0 ∨
        isBelow (manager.requestIdsOf key).length
          (manager.scaleOutThreshold.mul (manager.readyCount key)) = false := by
  have sound := Sound.of_run reached
  have active := length_instancesOf sound.routing key
  have deploying : manager.deployingCount key = 0 :=
    (sound.deployments key).trans (deploymentsOf_eq_zero unserved.notDeploying)
  have waiting : (manager.requestIdsOf key).length ≠ 0 := by
    simpa using unserved.pending
  rw [recommended_iff_isSome, recommendationWith]
  simp only [floatProduct, active, deploying, Nat.add_zero, Nat.lt_irrefl, false_and, or_false,
    if_neg waiting]
  by_cases idle : manager.readyCount key = 0
  · simp [idle]
  · have some : 0 < manager.readyCount key := Nat.pos_of_ne_zero idle
    by_cases below : isBelow (manager.requestIdsOf key).length
        (manager.scaleOutThreshold.mul (manager.readyCount key)) = true
    · simp [idle, some, below]
    · simp [below]

/-- Small instances are ready, and a request needs more than they have reserved. -/
def undersized (instanceIds : List PyStr) : List Action :=
  (instanceIds.flatMap fun instanceId =>
    [.registerStartingInstance instanceId qwen "generation" 8000,
      .markReady instanceId 1]) ++
      [.routeModelRequest (qwenRequest "large" 12000 (by decide +kernel)) 2]

/-- With one instance too small, the request alone reaches the threshold. -/
theorem one_undersized_recommended :
    ∃ manager,
      run? (step? fun _ _ => "identity") (initial 8 (.finite 1) 300)
          (undersized ["small"]) = some manager ∧
      manager.Unserved (fun _ _ => "identity") qwen ∧
      (manager.Recommended qwen ↔
        manager.readyCount qwen = 0 ∨
          isBelow (manager.requestIdsOf qwen).length
            (manager.scaleOutThreshold.mul (manager.readyCount qwen)) = false) := by
  have ran : ((run? (step? fun _ _ => "identity") (initial 8 (.finite 1) 300)
      (undersized ["small"])).any fun manager =>
        decide (manager.Unserved (fun _ _ => "identity") qwen)) = true := by
    decide +kernel
  obtain ⟨manager, reached, decided⟩ := (Option.any_eq_true _ _).mp ran
  have unserved := of_decide_eq_true decided
  exact ⟨manager, reached, unserved, unserved_recommended_iff reached unserved⟩

/-- With two instances too small, the request waits and nothing is recommended. -/
theorem two_undersized_not_recommended :
    ∃ manager,
      run? (step? fun _ _ => "identity") (initial 8 (.finite 1) 300)
          (undersized ["small", "other"]) = some manager ∧
      manager.Unserved (fun _ _ => "identity") qwen ∧
      ¬ manager.Recommended qwen := by
  have ran : ((run? (step? fun _ _ => "identity") (initial 8 (.finite 1) 300)
      (undersized ["small", "other"])).any fun manager =>
        decide (manager.Unserved (fun _ _ => "identity") qwen ∧
          ¬ manager.Recommended qwen)) = true := by
    decide +kernel
  obtain ⟨manager, reached, decided⟩ := (Option.any_eq_true _ _).mp ran
  exact ⟨manager, reached, of_decide_eq_true decided⟩

end LlmInstanceManager

end Maze.Scheduler.ModelInstances
