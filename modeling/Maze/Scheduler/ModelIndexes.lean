import Maze.Scheduler.ModelInstances

namespace Maze.Scheduler.ModelInstances

open Maze.Python
open Maze.Library
open Maze.Library.Transition

/-!
# The indexes of the instance manager agree

The manager keeps the same facts in several dictionaries: the routing index and the
affinities beside the state of every instance, the ids of pending requests beside
their anchors and the largest of them, and a count beside the automatic deployments.
Every step keeps each of them in line with what it repeats.
-/

namespace LlmInstanceManager

/-! ## What has to agree -/

/-- The number of automatic deployments that are recorded for a model. -/
def deploymentsOf
    (manager : LlmInstanceManager)
    (key : ModelKey) :
    ℕ :=
  manager.autoDeployByInstance.sumOf fun other => if other = key then 1 else 0

/-- One of the anchors needs the most, and it is the one that is kept. -/
def LargestKept
    (anchors : Table RequestId ModelRequest)
    (kept : Option ModelRequest) : Prop :=
  match kept with
  | none => anchors.entries = []
  | some request =>
      (∃ requestId, anchors.get? requestId = some request) ∧
        ∀ requestId other, anchors.get? requestId = some other →
          other.requiredMib ≤ request.requiredMib

/-- The indexes of the manager agree with each other. -/
structure IndexesAgree (manager : LlmInstanceManager) : Prop where
  routing : ∀ key instanceId,
    instanceId ∈ manager.instancesOf key ↔ manager.ReadyFor key instanceId
  affinity : ∀ workflowId key instanceId,
    manager.workflowModelAffinity.get? (workflowId, key) = some instanceId →
      manager.ReadyFor key instanceId
  anchors : ∀ key requestId,
    requestId ∈ manager.requestIdsOf key ↔
      ∃ request, (manager.anchorsOf key).get? requestId = some request
  largest : ∀ key,
    LargestKept (manager.anchorsOf key) (manager.pendingModelAnchors.get? key)
  deploying : ∀ key, manager.deployingCount key = manager.deploymentsOf key

/-! ## Pending requests -/

/-- The records of pending requests. -/
def pendingRecords (manager : LlmInstanceManager) :=
  (manager.pendingModelRequestIds, manager.pendingRequestAnchors,
    manager.pendingModelAnchors)

/-- The records of pending requests agree, and an id is recorded once. -/
structure PendingSound (manager : LlmInstanceManager) : Prop where
  anchors : ∀ key requestId,
    requestId ∈ manager.requestIdsOf key ↔
      ∃ request, (manager.anchorsOf key).get? requestId = some request
  largest : ∀ key,
    LargestKept (manager.anchorsOf key) (manager.pendingModelAnchors.get? key)
  distinct : ∀ key, (manager.requestIdsOf key).Nodup

/-- The largest of some requests is one of them, and none needs more. -/
theorem largest_spec (requests : List ModelRequest) :
    match largest requests with
    | none => requests = []
    | some request =>
        request ∈ requests ∧
          ∀ other ∈ requests, other.requiredMib ≤ request.requiredMib := by
  induction requests with
  | nil =>
      rfl
  | cons request rest inductionHypothesis =>
      simp only [largest]
      cases found : largest rest with
      | none =>
          rw [found] at inductionHypothesis
          subst inductionHypothesis
          simp
      | some other =>
          rw [found] at inductionHypothesis
          obtain ⟨inside, most⟩ := inductionHypothesis
          dsimp only
          by_cases less : request.requiredMib < other.requiredMib
          · rw [if_pos less]
            refine ⟨List.mem_cons_of_mem _ inside, fun third member => ?_⟩
            rcases List.mem_cons.mp member with rfl | later
            · exact less.le
            · exact most third later
          · rw [if_neg less]
            refine ⟨List.mem_cons_self, fun third member => ?_⟩
            rcases List.mem_cons.mp member with rfl | later
            · exact le_refl _
            · exact (most third later).trans (not_lt.mp less)

/-- The largest of the anchors in a table is kept. -/
theorem largestKept_largest (anchors : Table RequestId ModelRequest) :
    LargestKept anchors (largest (anchors.entries.map Prod.snd)) := by
  have spec := largest_spec (anchors.entries.map Prod.snd)
  cases found : largest (anchors.entries.map Prod.snd) with
  | none =>
      rw [found] at spec
      exact List.map_eq_nil_iff.mp spec
  | some request =>
      rw [found] at spec
      obtain ⟨inside, most⟩ := spec
      obtain ⟨⟨requestId, _⟩, member, rfl⟩ := List.mem_map.mp inside
      refine ⟨⟨requestId, (anchors.get?_eq_some_iff _ _).mpr member⟩, ?_⟩
      intro otherId other here
      exact most other (List.mem_map.mpr
        ⟨(otherId, other), (anchors.get?_eq_some_iff _ _).mp here, rfl⟩)

namespace PendingSound

variable {manager next : LlmInstanceManager}

theorem of_same
    (sound : manager.PendingSound)
    (same : next.pendingRecords = manager.pendingRecords) :
    next.PendingSound := by
  simp only [pendingRecords, Prod.mk.injEq] at same
  obtain ⟨requestIds, anchors, kept⟩ := same
  constructor
  · intro key requestId
    rw [requestIdsOf, requestIds, anchorsOf, anchors]
    exact sound.anchors key requestId
  · intro key
    rw [anchorsOf, anchors, kept]
    exact sound.largest key
  · intro key
    rw [requestIdsOf, requestIds]
    exact sound.distinct key

/-- Records of one model that agree with each other replace those that were there. -/
theorem setPending
    (sound : manager.PendingSound)
    {key : ModelKey}
    {requestIds : List RequestId}
    {anchors : Table RequestId ModelRequest}
    (agree : ∀ requestId, requestId ∈ requestIds ↔
      ∃ request, anchors.get? requestId = some request)
    (distinct : requestIds.Nodup) :
    (manager.setPending key requestIds anchors).PendingSound := by
  have requestIdsSame (other : ModelKey) :
      (manager.setPending key requestIds anchors).requestIdsOf other =
        if other = key then requestIds else manager.requestIdsOf other := by
    simp only [LlmInstanceManager.setPending, requestIdsOf, Table.get?_set]
    split <;> rfl
  have anchorsSame (other : ModelKey) :
      (manager.setPending key requestIds anchors).anchorsOf other =
        if other = key then anchors else manager.anchorsOf other := by
    simp only [LlmInstanceManager.setPending, anchorsOf, Table.get?_set]
    split <;> rfl
  have keptSame (other : ModelKey) :
      (manager.setPending key requestIds anchors).pendingModelAnchors.get? other =
        if other = key then
          LlmInstanceManager.largest (anchors.entries.map Prod.snd)
        else manager.pendingModelAnchors.get? other := by
    simp only [LlmInstanceManager.setPending]
    cases LlmInstanceManager.largest (anchors.entries.map Prod.snd) <;> simp
  constructor
  · intro other requestId
    rw [requestIdsSame, anchorsSame]
    split
    · exact agree requestId
    · exact sound.anchors other requestId
  · intro other
    rw [anchorsSame, keptSame]
    split
    · exact largestKept_largest anchors
    · exact sound.largest other
  · intro other
    rw [requestIdsSame]
    split
    · exact distinct
    · exact sound.distinct other

theorem recordModelDemand
    (sound : manager.PendingSound)
    (request : ModelRequest) :
    (manager.recordModelDemand request).PendingSound := by
  refine sound.setPending (fun requestId => ?_) (sound.distinct _).insert
  rw [List.mem_insert_iff, sound.anchors, Table.get?_set]
  by_cases same : requestId = request.requestId
  · simp [same]
  · simp [same]

theorem discardPending
    (sound : manager.PendingSound)
    (request : ModelRequest) :
    (manager.discardPending request).PendingSound := by
  refine sound.setPending (fun requestId => ?_) ((sound.distinct _).filter _)
  rw [List.mem_filter, sound.anchors, Table.get?_erase]
  by_cases same : requestId = request.requestId
  · simp [same]
  · simp [same]

/-- Erasing all keys of a list outside a set leaves the entries of the others. -/
theorem get?_eraseOutside
    (kept : List RequestId)
    (keys : List RequestId)
    (anchors : Table RequestId ModelRequest)
    (requestId : RequestId) :
    (keys.foldl (fun anchors requestId =>
        if requestId ∈ kept then anchors else anchors.erase requestId)
        anchors).get? requestId =
      if requestId ∈ keys ∧ requestId ∉ kept then none
      else anchors.get? requestId := by
  induction keys generalizing anchors with
  | nil =>
      simp
  | cons first rest inductionHypothesis =>
      rw [List.foldl_cons, inductionHypothesis]
      by_cases member : first ∈ kept
      · rw [if_pos member]
        by_cases same : requestId = first
        · subst same
          simp [member]
        · simp [same]
      · rw [if_neg member, Table.get?_erase]
        by_cases same : requestId = first
        · subst same
          simp [member]
        · simp [same]

theorem clearPending
    (sound : manager.PendingSound)
    (workflowId : PyStr)
    (key : ModelKey) :
    (manager.clearPending workflowId key).PendingSound := by
  refine sound.setPending (fun requestId => ?_) ((sound.distinct _).filter _)
  rw [get?_eraseOutside]
  constructor
  · intro kept
    rw [if_neg fun both => both.2 kept]
    exact (sound.anchors key requestId).mp (List.mem_filter.mp kept).1
  · rintro ⟨request, found⟩
    by_contra dropped
    split at found
    · cases found
    · rename_i outside
      refine outside ⟨List.mem_map.mpr ⟨(requestId, request), ?_, rfl⟩, dropped⟩
      exact (Table.get?_eq_some_iff _ _ _).mp found

theorem clearWorkflowState
    (sound : manager.PendingSound)
    (workflowId : PyStr) :
    (manager.clearWorkflowState workflowId).PendingSound := by
  unfold LlmInstanceManager.clearWorkflowState
  split
  · exact sound
  · generalize manager.pendingModelRequestIds.entries.map Prod.fst = keys
    induction keys generalizing manager with
    | nil =>
        exact sound.of_same rfl
    | cons key rest inductionHypothesis =>
        exact inductionHypothesis (sound.clearPending workflowId key)

end PendingSound

/-! ## Automatic deployments -/

/-- The records of automatic deployments. -/
def deploymentRecords (manager : LlmInstanceManager) :=
  (manager.autoDeployByInstance, manager.deployingModelCounts)

/-- The counts of deployments are those of the record. -/
def DeploymentsCounted (manager : LlmInstanceManager) : Prop :=
  ∀ key, manager.deployingCount key = manager.deploymentsOf key

namespace DeploymentsCounted

variable {manager next : LlmInstanceManager}

theorem of_same
    (counted : manager.DeploymentsCounted)
    (same : next.deploymentRecords = manager.deploymentRecords) :
    next.DeploymentsCounted := by
  simp only [deploymentRecords, Prod.mk.injEq] at same
  obtain ⟨recorded, counts⟩ := same
  intro key
  rw [deployingCount, counts, deploymentsOf, recorded]
  exact counted key

theorem markModelDeploying
    (counted : manager.DeploymentsCounted)
    (key : ModelKey)
    (instanceId : PyStr) :
    (manager.markModelDeploying key instanceId).DeploymentsCounted := by
  unfold LlmInstanceManager.markModelDeploying
  split
  · exact counted
  · rename_i fresh
    have absent : manager.autoDeployByInstance.get? instanceId = none := by
      simpa [Table.contains] using fresh
    intro other
    have before := counted other
    rw [deployingCount] at before
    simp only [deployingCount, deploymentsOf, Table.get?_set,
      Table.sumOf_set absent]
    rw [← deploymentsOf, ← counted other]
    by_cases same : other = key
    · subst same
      simp [deployingCount]
    · simp [same, Ne.symm same, deployingCount]

theorem clearModelDeploying
    (counted : manager.DeploymentsCounted)
    (instanceId : PyStr) :
    (manager.clearModelDeploying instanceId).DeploymentsCounted := by
  unfold LlmInstanceManager.clearModelDeploying
  split
  · exact counted
  · rename_i key found
    intro other
    have split := Table.sumOf_erase found fun value => if value = other then 1 else 0
    have before := counted other
    rw [deploymentsOf, split] at before
    simp only [deployingCount, deploymentsOf, Table.get?_set]
    by_cases same : other = key
    · subst same
      rw [if_pos rfl] at before ⊢
      simp only [Option.getD_some]
      rw [deployingCount] at before
      omega
    · rw [if_neg (Ne.symm same), deployingCount] at before
      rw [if_neg same, before, add_zero]

end DeploymentsCounted

/-! ## Affinities -/

/-- Every affinity is to an instance that is ready for the model. -/
def AffinitySound (manager : LlmInstanceManager) : Prop :=
  ∀ workflowId key instanceId,
    manager.workflowModelAffinity.get? (workflowId, key) = some instanceId →
      manager.ReadyFor key instanceId

/-- An affinity that is left was there before, and its instance passes the filter. -/
theorem get?_keepAffinities
    {manager : LlmInstanceManager}
    {keep : (Option PyStr × ModelKey) → PyStr → Bool}
    {key : Option PyStr × ModelKey}
    {instanceId : PyStr}
    (found : (manager.keepAffinities keep).workflowModelAffinity.get? key =
      some instanceId) :
    manager.workflowModelAffinity.get? key = some instanceId ∧
      keep key instanceId = true := by
  rw [Table.get?_eq_some_iff] at found ⊢
  exact List.mem_filter.mp found

/-- A candidate is listed for the model and is ready. -/
theorem readyFor_of_candidate
    {manager : LlmInstanceManager}
    {fingerprint : PyVal → PyVal → PyStr}
    {request : ModelRequest}
    {candidate : PyStr × InstanceMetadata}
    (sound : manager.RoutingSound)
    (inside : candidate ∈ manager.candidates fingerprint request) :
    manager.ReadyFor request.key candidate.1 := by
  obtain ⟨instanceId, listed, found⟩ := List.mem_filterMap.mp inside
  obtain ⟨metadata, _, rfl⟩ := Option.map_eq_some_iff.mp found
  exact (sound.listed request.key instanceId).mp listed

theorem leastLoaded_mem
    {candidates : List (PyStr × InstanceMetadata)}
    {chosen : PyStr × InstanceMetadata}
    (found : leastLoaded candidates = some chosen) :
    chosen ∈ candidates := by
  induction candidates generalizing chosen with
  | nil =>
      cases found
  | cons candidate rest inductionHypothesis =>
      simp only [leastLoaded] at found
      split at found
      · rename_i other later
        split at found
        · cases found
          exact List.mem_cons_self
        · cases found
          exact List.mem_cons_of_mem _ (inductionHypothesis later)
      · cases found
        exact List.mem_cons_self

/-- The instance that gets a request is a candidate with room for it. -/
theorem selected_spec
    {manager : LlmInstanceManager}
    {fingerprint : PyVal → PyVal → PyStr}
    {request : ModelRequest}
    {chosen : PyStr × InstanceMetadata}
    (found : manager.selected fingerprint request = some chosen) :
    chosen ∈ manager.candidates fingerprint request ∧
      chosen.2.hasRoom = true := by
  rcases Option.or_eq_some_iff.mp found with hit | ⟨_, least⟩
  · obtain ⟨instanceId, _, here⟩ := Option.bind_eq_some_iff.mp hit
    have passes := List.find?_some here
    rw [Bool.and_eq_true] at passes
    exact ⟨List.mem_of_find?_eq_some here, passes.2⟩
  · exact List.mem_filter.mp (leastLoaded_mem least)

namespace AffinitySound

variable {manager next : LlmInstanceManager}

/-- Affinities are sound if each of them was there before and its instance stays ready. -/
theorem of_kept
    (sound : manager.AffinitySound)
    (kept : ∀ workflowId key instanceId,
      next.workflowModelAffinity.get? (workflowId, key) = some instanceId →
        manager.workflowModelAffinity.get? (workflowId, key) = some instanceId ∧
          (manager.ReadyFor key instanceId → next.ReadyFor key instanceId)) :
    next.AffinitySound := by
  intro workflowId key instanceId found
  obtain ⟨before, stays⟩ := kept workflowId key instanceId found
  exact stays (sound workflowId key instanceId before)

/-- A step that leaves the affinities and every ready instance alone. -/
theorem of_same
    (sound : manager.AffinitySound)
    (same : next.workflowModelAffinity = manager.workflowModelAffinity)
    (stays : ∀ key instanceId,
      manager.ReadyFor key instanceId → next.ReadyFor key instanceId) :
    next.AffinitySound := by
  refine sound.of_kept fun workflowId key instanceId found => ?_
  rw [same] at found
  exact ⟨found, stays key instanceId⟩

end AffinitySound

/-- Ready instances other than the one that changes stay ready. -/
theorem ReadyFor.of_others
    {manager next : LlmInstanceManager}
    (changed : PyStr)
    (others : ∀ other, other ≠ changed →
      next.instances.get? other = manager.instances.get? other)
    {key : ModelKey}
    {instanceId : PyStr}
    (ready : manager.ReadyFor key instanceId)
    (differ : instanceId ≠ changed) :
    next.ReadyFor key instanceId := by
  obtain ⟨inst, found, owned, state⟩ := ready
  exact ⟨inst, (others instanceId differ).trans found, owned, state⟩

/-- An instance in a state other than ready is ready for no model. -/
theorem ReadyFor.ne_of_notReady
    {manager : LlmInstanceManager}
    {changed instanceId : PyStr}
    {key : ModelKey}
    (ready : manager.ReadyFor key instanceId)
    (notReady : manager.stateOf changed ≠ some .ready) :
    instanceId ≠ changed := by
  rintro rfl
  obtain ⟨inst, found, _, state⟩ := ready
  apply notReady
  rw [stateOf, found, Option.map_some, state]

/-- A change of metadata leaves every instance as ready as it is. -/
theorem readyFor_modifyMetadata
    {manager : LlmInstanceManager}
    {changed instanceId : PyStr}
    {key : ModelKey}
    (change : InstanceMetadata → InstanceMetadata)
    (ready : manager.ReadyFor key instanceId) :
    (manager.modifyMetadata changed change).ReadyFor key instanceId := by
  obtain ⟨inst, found, owned, state⟩ := ready
  by_cases same : instanceId = changed
  · subst same
    exact ⟨{ inst with metadata := inst.metadata.map change },
      by simp [modifyMetadata, found], owned, state⟩
  · exact ⟨inst, by simp [modifyMetadata, same, found], owned, state⟩

/-- Forgetting a workflow adds no affinity and leaves the deployments alone. -/
theorem clearWorkflowState_records
    (manager : LlmInstanceManager)
    (workflowId : PyStr) :
    (∀ key instanceId,
      (manager.clearWorkflowState workflowId).workflowModelAffinity.get? key =
          some instanceId →
        manager.workflowModelAffinity.get? key = some instanceId) ∧
      (manager.clearWorkflowState workflowId).deploymentRecords =
        manager.deploymentRecords := by
  unfold clearWorkflowState
  split
  · exact ⟨fun _ _ => id, rfl⟩
  · generalize manager.pendingModelRequestIds.entries.map Prod.fst = keys
    induction keys generalizing manager with
    | nil =>
        exact ⟨fun key instanceId found => (get?_keepAffinities found).1, rfl⟩
    | cons key rest inductionHypothesis =>
        exact inductionHypothesis (manager.clearPending workflowId key)

/-! ## Steps -/

/-- All indexes of the manager are sound. -/
structure Sound (manager : LlmInstanceManager) : Prop where
  routing : manager.RoutingSound
  affinity : manager.AffinitySound
  pending : manager.PendingSound
  deployments : manager.DeploymentsCounted

namespace Sound

variable {manager next : LlmInstanceManager}

/-- What changes none of the indexes and no instance. -/
theorem of_same
    (sound : manager.Sound)
    (instances : next.instances = manager.instances)
    (routing : next.modelToInstances = manager.modelToInstances)
    (affinity : next.workflowModelAffinity = manager.workflowModelAffinity)
    (pending : next.pendingRecords = manager.pendingRecords)
    (deployments : next.deploymentRecords = manager.deploymentRecords) :
    next.Sound where
  routing := sound.routing.of_same instances routing
  affinity := sound.affinity.of_same affinity fun key instanceId ready => by
    rwa [ReadyFor, instances]
  pending := sound.pending.of_same pending
  deployments := sound.deployments.of_same deployments

theorem modifyMetadata
    (sound : manager.Sound)
    (instanceId : PyStr)
    (change : InstanceMetadata → InstanceMetadata) :
    (manager.modifyMetadata instanceId change).Sound where
  routing := sound.routing.modifyMetadata change
  affinity := sound.affinity.of_same rfl fun _ _ => readyFor_modifyMetadata change
  pending := sound.pending.of_same rfl
  deployments := sound.deployments.of_same rfl

theorem leaveRouting
    (sound : manager.Sound)
    (instanceId : PyStr)
    {state : InstanceState}
    (notReady : state ≠ .ready) :
    (manager.leaveRouting instanceId state).Sound where
  routing := sound.routing.leaveRouting notReady
  affinity := by
    refine sound.affinity.of_kept fun workflowId key other found => ?_
    have kept : (manager.keepAffinities fun _ value =>
        value ≠ instanceId).workflowModelAffinity.get? (workflowId, key) =
          some other := found
    obtain ⟨before, differ⟩ := get?_keepAffinities kept
    refine ⟨before, fun ready => ready.of_others instanceId ?_ ?_⟩
    · intro another differ
      simp [differ]
    · simpa using differ
  pending := sound.pending.of_same rfl
  deployments := sound.deployments.of_same rfl

/-- An instance that is not ready takes another entry. -/
theorem of_notReady
    (instanceId : PyStr)
    (sound : manager.Sound)
    (routing : next.RoutingSound)
    (before : manager.stateOf instanceId ≠ some .ready)
    (others : ∀ other, other ≠ instanceId →
      next.instances.get? other = manager.instances.get? other)
    (affinity : next.workflowModelAffinity = manager.workflowModelAffinity)
    (pending : next.pendingRecords = manager.pendingRecords)
    (deployments : next.deploymentRecords = manager.deploymentRecords) :
    next.Sound where
  routing := routing
  affinity := sound.affinity.of_same affinity fun _ _ ready =>
    ready.of_others instanceId others (ready.ne_of_notReady before)
  pending := sound.pending.of_same pending
  deployments := sound.deployments.of_same deployments

theorem clearModelDeploying
    (sound : manager.Sound)
    (instanceId : PyStr) :
    (manager.clearModelDeploying instanceId).Sound where
  routing := sound.routing.of_same (by simp) (by simp)
  affinity := sound.affinity.of_same
    (by
      unfold LlmInstanceManager.clearModelDeploying
      split <;> rfl)
    fun key other ready => by rwa [ReadyFor, clearModelDeploying_instances]
  pending := sound.pending.of_same (by
    unfold LlmInstanceManager.clearModelDeploying
    split <;> rfl)
  deployments := sound.deployments.clearModelDeploying instanceId

theorem routeModelRequest
    (sound : manager.Sound)
    (fingerprint : PyVal → PyVal → PyStr)
    (request : ModelRequest)
    (now : ℚ) :
    (manager.routeModelRequest fingerprint request now).2.Sound := by
  unfold LlmInstanceManager.routeModelRequest
  split
  · exact ⟨sound.routing.of_same rfl rfl, sound.affinity.of_same rfl fun _ _ => id,
      sound.pending.recordModelDemand request, sound.deployments.of_same rfl⟩
  · rename_i instanceId metadata chosen
    have ready : manager.ReadyFor request.key instanceId :=
      readyFor_of_candidate sound.routing (selected_spec chosen).1
    have kept : (manager.keepAffinity fingerprint request instanceId).Sound := by
      refine ⟨sound.routing.of_same (by simp) (by simp), ?_, ?_, ?_⟩
      · intro workflowId key other found
        rw [ReadyFor, keepAffinity_instances]
        simp only [keepAffinity] at found
        split at found
        · exact sound.affinity workflowId key other found
        · simp only [Table.get?_set] at found
          split at found
          · rename_i same
            simp only [Prod.mk.injEq] at same
            obtain ⟨_, rfl⟩ := same
            cases found
            exact ready
          · exact sound.affinity workflowId key other found
      · exact sound.pending.of_same (by unfold keepAffinity; split <;> rfl)
      · exact sound.deployments.of_same (by unfold keepAffinity; split <;> rfl)
    have admitted := kept.modifyMetadata instanceId fun metadata =>
      { metadata with
        inflightRequests := metadata.inflightRequests + 1
        lastUsedTime := some now }
    exact ⟨admitted.routing.of_same rfl rfl, admitted.affinity.of_same rfl fun _ _ => id,
      admitted.pending.discardPending request, admitted.deployments.of_same rfl⟩

theorem clearWorkflowState
    (sound : manager.Sound)
    (workflowId : PyStr) :
    (manager.clearWorkflowState workflowId).Sound := by
  obtain ⟨instances, routing⟩ := manager.clearWorkflowState_frame workflowId
  obtain ⟨kept, deployments⟩ := manager.clearWorkflowState_records workflowId
  refine ⟨sound.routing.of_same instances routing, ?_,
    sound.pending.clearWorkflowState workflowId, sound.deployments.of_same deployments⟩
  refine sound.affinity.of_kept fun other key instanceId found =>
    ⟨kept _ _ found, fun ready => ?_⟩
  rwa [ReadyFor, instances]

/-- Every step keeps the indexes sound. -/
theorem step
    {fingerprint : PyVal → PyVal → PyStr}
    {action : Action}
    (sound : manager.Sound)
    (stepped : step? fingerprint manager action = some next) :
    next.Sound := by
  have routing := step_routingSound sound.routing stepped
  cases becomes_of_step stepped with
  | unserved request now unselected =>
      have kept := sound.routeModelRequest fingerprint request now
      rwa [LlmInstanceManager.routeModelRequest, unselected] at kept
  | routed request now instanceId metadata chosen =>
      have kept := sound.routeModelRequest fingerprint request now
      rwa [LlmInstanceManager.routeModelRequest, chosen] at kept
  | released instanceId now => exact sound.modifyMetadata instanceId _
  | workflowCleared workflowId => exact sound.clearWorkflowState workflowId
  | deploying key instanceId =>
      refine ⟨routing, sound.affinity.of_same ?_ fun other instanceId ready => ?_,
        sound.pending.of_same ?_,
        sound.deployments.markModelDeploying key instanceId⟩
      · unfold markModelDeploying
        split <;> rfl
      · rwa [ReadyFor, markModelDeploying_instances]
      · unfold markModelDeploying
        split <;> rfl
  | deployed instanceId => exact sound.clearModelDeploying instanceId
  | registered instanceId key generationId gpuMem uncancelled absent =>
      refine sound.of_notReady instanceId routing ?_ ?_ rfl rfl rfl
      · simp [stateOf, absent]
      · intro other differ
        simp [differ]
  | readied instanceId now inst found launching =>
      let entry : Instance :=
        { inst with
          state := .ready
          metadata := some (manager.readyMetadata inst now) }
      have entered : ({ manager with
          instances := manager.instances.set instanceId entry
          modelToInstances := manager.modelToInstances.set inst.key
            ((manager.instancesOf inst.key).insert instanceId) }).Sound := by
        refine sound.of_notReady instanceId ?_ ?_ ?_ rfl rfl rfl
        · exact routing.of_same (by simp [entry]) (by simp)
        · simp [stateOf, found, launching]
        · intro other differ
          simp [differ]
      exact entered.clearModelDeploying instanceId
  | decided instanceId identity => exact sound.modifyMetadata instanceId _
  | startStopped instanceId =>
      have cancelled : ({ manager with
          cancelledStartIds := manager.cancelledStartIds.insert instanceId }).Sound :=
        sound.of_same rfl rfl rfl rfl rfl
      have left : (({ manager with
          cancelledStartIds := manager.cancelledStartIds.insert
            instanceId }).leaveRouting instanceId .stopping).Sound :=
        cancelled.leaveRouting instanceId (by decide)
      exact left.of_same rfl rfl rfl rfl rfl
  | startCancelled instanceId => exact sound.of_same rfl rfl rfl rfl rfl
  | cancellationCleared instanceId => exact sound.of_same rfl rfl rfl rfl rfl
  | limited instanceId =>
      exact (sound.modifyMetadata instanceId _).of_same rfl rfl rfl rfl rfl
  | drained instanceId => exact sound.leaveRouting instanceId (by decide)
  | unhealthy instanceId => exact sound.leaveRouting instanceId (by decide)
  | unprobed instanceId => exact sound
  | claimed instanceId =>
      have left : (manager.leaveRouting instanceId .stopping).Sound :=
        sound.leaveRouting instanceId (by decide)
      exact left.of_same rfl rfl rfl rfl rfl
  | claimCancelled instanceId inst found claimed stopping measured =>
      refine sound.of_notReady instanceId routing ?_ ?_ rfl rfl rfl
      · simp [stateOf, found, stopping]
      · intro other differ
        simp [setState, differ]
  | claimOwned instanceId => exact sound.of_same rfl rfl rfl rfl rfl
  | stopBegun instanceId => exact sound.leaveRouting instanceId (by decide)
  | stopEnded instanceId confirmed stopping =>
      refine sound.of_notReady instanceId routing ?_ ?_ rfl rfl rfl
      · simp [stopping]
      · intro other differ
        simp [setState, differ]
  | forgotten instanceId stopped =>
      have forgotten : ({ manager.removeRoutingRegistration instanceId with
          instances := manager.instances.erase instanceId
          scaleInClaims := manager.scaleInClaims.filter (· ≠ instanceId)
          cancelledStartIds :=
            manager.cancelledStartIds.filter (· ≠ instanceId) }).Sound := by
        refine ⟨routing.of_same (by simp) (by simp), ?_, sound.pending.of_same rfl,
          sound.deployments.of_same rfl⟩
        refine sound.affinity.of_kept fun workflowId key other found => ?_
        have kept : (manager.keepAffinities fun _ value =>
            value ≠ instanceId).workflowModelAffinity.get? (workflowId, key) =
              some other := found
        obtain ⟨before, differ⟩ := get?_keepAffinities kept
        refine ⟨before, fun ready => ready.of_others instanceId ?_ ?_⟩
        · intro another differ
          simp [differ]
        · simpa using differ
      exact forgotten.clearModelDeploying instanceId

/-- At first there is nothing to agree about. -/
theorem of_initial
    (maxRequestsPerInstance : ℤ)
    (scaleOutThreshold : Double)
    (idleScaleInSeconds : ℚ) :
    (initial maxRequestsPerInstance scaleOutThreshold idleScaleInSeconds).Sound where
  routing :=
    { listed := fun key instanceId => iff_of_false (by simp [instancesOf, initial])
        fun ⟨_, found, _⟩ => by simp [initial] at found
      distinct := fun _ => List.nodup_nil
      measured := fun _ _ found => by simp [initial] at found }
  affinity := fun _ _ _ found => by simp [initial] at found
  pending :=
    { anchors := fun key requestId => iff_of_false (by simp [requestIdsOf, initial])
        fun ⟨_, found⟩ => by simp [anchorsOf, initial] at found
      largest := fun _ => rfl
      distinct := fun _ => List.nodup_nil }
  deployments := fun _ => rfl

/-- The indexes of a manager that is reached are sound. -/
theorem of_run
    {fingerprint : PyVal → PyVal → PyStr}
    {maxRequestsPerInstance : ℤ}
    {scaleOutThreshold : Double}
    {idleScaleInSeconds : ℚ}
    {actions : List Action}
    (reached : run? (step? fingerprint)
      (initial maxRequestsPerInstance scaleOutThreshold idleScaleInSeconds) actions =
        some manager) :
    manager.Sound :=
  run?_invariant (fun _ _ _ sound stepped => sound.step stepped)
    (of_initial _ _ _) reached

end Sound

/--
In every state that any sequence of calls reaches, an instance is in the routing
index of a model exactly if it is ready for it, every affinity is to such an
instance, anchors are kept for exactly the pending requests with one of the largest
among them, and the count of deployments is that of the automatic ones.
-/
theorem indexes_agree
    {fingerprint : PyVal → PyVal → PyStr}
    {maxRequestsPerInstance : ℤ}
    {scaleOutThreshold : Double}
    {idleScaleInSeconds : ℚ}
    {actions : List Action}
    {manager : LlmInstanceManager}
    (reached : run? (step? fingerprint)
      (initial maxRequestsPerInstance scaleOutThreshold idleScaleInSeconds) actions =
        some manager) :
    manager.IndexesAgree := by
  have sound := Sound.of_run reached
  exact ⟨sound.routing.listed, sound.affinity, sound.pending.anchors,
    sound.pending.largest, sound.deployments⟩

/-! ## A run -/

/-- The model of the example runs. -/
def qwen : ModelKey := ⟨.str "qwen", "vllm"⟩

theorem qwen_8000 :
    Core.Resources.modelMemoryMib
      [("local_model", .str "qwen"), ("gpu_mem", .int (8000 : ℕ))] = .ok 8000 := by
  decide +kernel

/-- A request for the model that needs so much GPU memory. -/
def qwenRequest
    (taskId : PyStr)
    (gpuMem : ℕ)
    (read : Core.Resources.modelMemoryMib
      [("local_model", .str "qwen"), ("gpu_mem", .int gpuMem)] = .ok gpuMem) :
    ModelRequest where
  workflowId := some "run"
  taskId := some taskId
  modelAnchor := [("local_model", .str "qwen"), ("gpu_mem", .int gpuMem)]
  key := qwen
  requiredMib := gpuMem
  keyRead := rfl
  memoryRead := read

/-- A request waits, an instance is deployed for it, and the request is routed. -/
def deployment : List Action :=
  [.routeModelRequest (qwenRequest "task" 8000 qwen_8000) 1,
    .markModelDeploying qwen "instance",
    .registerStartingInstance "instance" qwen "generation" 8000,
    .markReady "instance" 2,
    .routeModelRequest (qwenRequest "task" 8000 qwen_8000) 3]

theorem deployed_indexes_agree :
    ∃ manager,
      run? (step? fun _ _ => "identity") (initial 8 (.finite 1) 300) deployment =
        some manager ∧
      manager.instancesOf qwen = [PyStr.ofString "instance"] ∧
      manager.IndexesAgree := by
  have ran : ((run? (step? fun _ _ => "identity") (initial 8 (.finite 1) 300)
      deployment).any fun manager =>
        decide (manager.instancesOf qwen = [PyStr.ofString "instance"])) = true := by
    decide +kernel
  obtain ⟨manager, reached, listed⟩ := (Option.any_eq_true _ _).mp ran
  exact ⟨manager, reached, of_decide_eq_true listed, indexes_agree reached⟩

end LlmInstanceManager

end Maze.Scheduler.ModelInstances
