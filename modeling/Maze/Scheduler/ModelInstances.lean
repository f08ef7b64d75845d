import Maze.Library.Table
import Maze.Library.Transition
import Maze.Core.Resources

namespace Maze.Scheduler.ModelInstances

open Maze.Python
open Maze.Library
open Maze.Library.Transition

/-!
# The instances that serve models

`LlmInstanceManager`: which model instances are started, which of them take
requests, which requests wait for one, and when another instance is recommended.

Every method holds the lock of the manager for each of its parts, so a step is one
such part. What Ray answers, the actors and the processes behind an instance are
left out; whether a start or a stop succeeds is part of the step.
-/

/-! ## Requests -/

/-- `SUPPORTED_MODEL_BACKENDS`. -/
def supportedModelBackends : List PyStr :=
  ["vllm", "transformers"]

/-- `validate_model_backend` without arguments of the backend. -/
def validateModelBackend : PyVal → Except PyErr PyStr
  | .null => .ok "vllm"
  | .str text =>
      let backend : PyStr := ⟨(Number.strip text.chars).map Number.lower⟩
      if backend ∈ supportedModelBackends then .ok backend else .error .valueError
  | _ => .error .valueError

/-- `(model, backend)`. -/
structure ModelKey where
  model : PyVal
  backend : PyStr
  deriving DecidableEq

/-- `_model_key_from_anchor`; the model is used as a part of a key. -/
def modelKeyFromAnchor (modelAnchor : PyDict) : Except PyErr (Option ModelKey) :=
  let model := (modelAnchor.get "local_model").orElse (modelAnchor.get "model")
  if model.truthy then do
    let backend ← validateModelBackend
      ((modelAnchor.get "backend").orElse
        ((modelAnchor.get "engine").orElse (.str "vllm")))
    if model.hashable then .ok (some ⟨model, backend⟩) else .error .typeError
  else
    .ok none

/-- `request_id`: the workflow and the task. -/
abbrev RequestId := PyStr × PyStr

/--
A request for a model with what the manager reads from its anchor. An anchor that
cannot be read raises before anything is changed, and one without a model is none
of the manager's.
-/
structure ModelRequest where
  workflowId : Option PyStr
  taskId : Option PyStr
  modelAnchor : PyDict
  key : ModelKey
  requiredMib : ℕ
  keyRead : modelKeyFromAnchor modelAnchor = .ok (some key)
  memoryRead : Core.Resources.modelMemoryMib modelAnchor = .ok requiredMib

namespace ModelRequest

/-- `request_id`. -/
def requestId (request : ModelRequest) : RequestId :=
  (request.workflowId.getD "",
    request.taskId.getD (request.workflowId.getD ""))

/--
The identity that an instance must have, where the anchor names a checkpoint or a
revision. The fingerprint is the hash of the two.
-/
def expectedIdentity
    (fingerprint : PyVal → PyVal → PyStr)
    (request : ModelRequest) :
    Option PyStr :=
  let checkpoint := request.modelAnchor.get "checkpoint_fingerprint"
  let revision := request.modelAnchor.get "revision"
  if checkpoint.truthy || revision.truthy then
    some (fingerprint (checkpoint.orElse request.key.model) revision)
  else
    none

end ModelRequest

/-! ## Instances -/

/-- `id_to_state[instance_id]`. -/
inductive InstanceState where
  | launching
  | ready
  | draining
  | unhealthy
  | stopping
  | cleanupPending
  | stopped
  deriving DecidableEq

/-- `id_to_instance_metadata[instance_id]`, from the moment it is ready. -/
structure InstanceMetadata where
  inflightRequests : ℕ
  admissionLimit : ℕ
  createdTime : ℚ
  lastUsedTime : Option ℚ
  /-- `resource_context["identity"]`. -/
  identity : Option PyStr
  deriving DecidableEq

/-- A registered instance; `gpu_mem` of its resources is its reservation. -/
structure Instance where
  key : ModelKey
  generationId : PyStr
  gpuMem : ℚ
  state : InstanceState
  metadata : Option InstanceMetadata
  deriving DecidableEq

/-- Whether the instance has room for one more request. -/
def InstanceMetadata.hasRoom (metadata : InstanceMetadata) : Bool :=
  metadata.inflightRequests < metadata.admissionLimit

/-- `idle_since`; a time of zero counts as none. -/
def InstanceMetadata.idleSince
    (metadata : InstanceMetadata)
    (now : ℚ) :
    ℚ :=
  let used := metadata.lastUsedTime.getD 0
  if used ≠ 0 then used
  else if metadata.createdTime ≠ 0 then metadata.createdTime
  else now

/-- Whether the identity of an instance is the expected one, or still unknown. -/
def identityFits
    (expected identity : Option PyStr) :
    Bool :=
  match expected, identity with
  | some expected, some identity => identity = expected
  | _, _ => true

/-- The metadata of an instance that may be given the request. -/
def Instance.candidate?
    (fingerprint : PyVal → PyVal → PyStr)
    (request : ModelRequest)
    (inst : Instance) :
    Option InstanceMetadata :=
  inst.metadata.filter fun metadata =>
    inst.state = .ready && decide ((request.requiredMib : ℚ) ≤ inst.gpuMem) &&
      identityFits (request.expectedIdentity fingerprint) metadata.identity

/-- The route of a request, as far as it is used again. -/
structure ModelRoute where
  instanceId : PyStr
  key : ModelKey
  generationId : PyStr
  deriving DecidableEq

/-! ## The manager -/

/-- `LlmInstanceManager`. -/
structure LlmInstanceManager where
  maxRequestsPerInstance : ℕ
  scaleOutThreshold : Double
  idleScaleInSeconds : ℚ
  /-- The dictionaries from an id to the actor, the detail and the state. -/
  instances : Table PyStr Instance
  scaleInClaims : List PyStr
  cancelledStartIds : List PyStr
  autoDeployByInstance : Table PyStr ModelKey
  modelToInstances : Table ModelKey (List PyStr)
  workflowModelAffinity : Table (Option PyStr × ModelKey) PyStr
  pendingModelRequestIds : Table ModelKey (List RequestId)
  pendingRequestAnchors : Table ModelKey (Table RequestId ModelRequest)
  pendingModelAnchors : Table ModelKey ModelRequest
  modelAdmissionLimits : Table ModelKey ℕ
  deployingModelCounts : Table ModelKey ℕ

namespace LlmInstanceManager

/-- `max(0.1, threshold)`. -/
def thresholdOf : Double → Double
  | .finite value =>
      .finite (max (3602879701896397 / 36028797018963968) value)
  | .infinity false => .infinity false
  | _ => .finite (3602879701896397 / 36028797018963968)

/-- `__init__`. -/
def initial
    (maxRequestsPerInstance : ℤ)
    (scaleOutThreshold : Double)
    (idleScaleInSeconds : ℚ) :
    LlmInstanceManager where
  maxRequestsPerInstance := (max 1 maxRequestsPerInstance).toNat
  scaleOutThreshold := thresholdOf scaleOutThreshold
  idleScaleInSeconds := max 1 idleScaleInSeconds
  instances := Table.empty
  scaleInClaims := []
  cancelledStartIds := []
  autoDeployByInstance := Table.empty
  modelToInstances := Table.empty
  workflowModelAffinity := Table.empty
  pendingModelRequestIds := Table.empty
  pendingRequestAnchors := Table.empty
  pendingModelAnchors := Table.empty
  modelAdmissionLimits := Table.empty
  deployingModelCounts := Table.empty

variable (manager : LlmInstanceManager)

/-- `model_to_instances.get(key, set())`. -/
def instancesOf (key : ModelKey) : List PyStr :=
  (manager.modelToInstances.get? key).getD []

/-- `pending_model_request_ids[key]`. -/
def requestIdsOf (key : ModelKey) : List RequestId :=
  (manager.pendingModelRequestIds.get? key).getD []

/-- `pending_request_anchors[key]`. -/
def anchorsOf (key : ModelKey) : Table RequestId ModelRequest :=
  (manager.pendingRequestAnchors.get? key).getD Table.empty

/-- `deploying_model_counts.get(key, 0)`. -/
def deployingCount (key : ModelKey) : ℕ :=
  (manager.deployingModelCounts.get? key).getD 0

/-- The state of an instance that is registered. -/
def stateOf (instanceId : PyStr) : Option InstanceState :=
  (manager.instances.get? instanceId).map Instance.state

/-- `generation_id` of an instance. -/
def generationOf (instanceId : PyStr) : PyStr :=
  ((manager.instances.get? instanceId).map Instance.generationId).getD ""

/-- The model and the metadata of an instance that is ready. -/
def readyInstance? (instanceId : PyStr) : Option (ModelKey × InstanceMetadata) :=
  (manager.instances.get? instanceId).bind fun inst =>
    if inst.state = .ready then inst.metadata.map (inst.key, ·) else none

/-- Change the metadata of an instance. -/
def modifyMetadata
    (instanceId : PyStr)
    (change : InstanceMetadata → InstanceMetadata) :
    LlmInstanceManager :=
  { manager with
    instances := manager.instances.modify instanceId fun inst =>
      { inst with metadata := inst.metadata.map change } }

/-- Change the state of an instance. -/
def setState
    (instanceId : PyStr)
    (state : InstanceState) :
    LlmInstanceManager :=
  { manager with
    instances := manager.instances.modify instanceId fun inst =>
      { inst with state := state } }

/-! ## Demand and deployments -/

/-- The request with the largest need, the first of them. -/
def largest : List ModelRequest → Option ModelRequest
  | [] => none
  | request :: rest =>
      match largest rest with
      | some other =>
          if request.requiredMib < other.requiredMib then some other
          else some request
      | none => some request

/-- Both records of the pending requests of a model, and `_refresh_pending_anchor`. -/
def setPending
    (key : ModelKey)
    (requestIds : List RequestId)
    (anchors : Table RequestId ModelRequest) :
    LlmInstanceManager :=
  { manager with
    pendingModelRequestIds := manager.pendingModelRequestIds.set key requestIds
    pendingRequestAnchors := manager.pendingRequestAnchors.set key anchors
    pendingModelAnchors :=
      match largest (anchors.entries.map Prod.snd) with
      | some request => manager.pendingModelAnchors.set key request
      | none => manager.pendingModelAnchors.erase key }

/-- `record_model_demand`. -/
def recordModelDemand (request : ModelRequest) : LlmInstanceManager :=
  manager.setPending request.key
    ((manager.requestIdsOf request.key).insert request.requestId)
    ((manager.anchorsOf request.key).set request.requestId request)

/-- The request is no longer pending. -/
def discardPending (request : ModelRequest) : LlmInstanceManager :=
  manager.setPending request.key
    ((manager.requestIdsOf request.key).filter (· ≠ request.requestId))
    ((manager.anchorsOf request.key).erase request.requestId)

/-- The pending requests of a model without those of a workflow. -/
def clearPending
    (workflowId : PyStr)
    (key : ModelKey) :
    LlmInstanceManager :=
  let requestIds := (manager.requestIdsOf key).filter fun requestId =>
    requestId.1 ≠ workflowId
  manager.setPending key requestIds
    (((manager.anchorsOf key).entries.map Prod.fst).foldl
      (fun anchors requestId =>
        if requestId ∈ requestIds then anchors else anchors.erase requestId)
      (manager.anchorsOf key))

/-- The affinities that a predicate keeps. -/
def keepAffinities (keep : (Option PyStr × ModelKey) → PyStr → Bool) :
    LlmInstanceManager :=
  { manager with
    workflowModelAffinity :=
      { entries := manager.workflowModelAffinity.entries.filter fun entry =>
          keep entry.1 entry.2
        distinct := (List.filter_sublist.map Prod.fst).nodup
          manager.workflowModelAffinity.distinct } }

/-- `mark_model_deploying` for an instance. -/
def markModelDeploying
    (key : ModelKey)
    (instanceId : PyStr) :
    LlmInstanceManager :=
  if manager.autoDeployByInstance.contains instanceId then
    manager
  else
    { manager with
      autoDeployByInstance := manager.autoDeployByInstance.set instanceId key
      deployingModelCounts :=
        manager.deployingModelCounts.set key (manager.deployingCount key + 1) }

/-- `clear_model_deploying` for an instance. -/
def clearModelDeploying (instanceId : PyStr) : LlmInstanceManager :=
  match manager.autoDeployByInstance.get? instanceId with
  | none => manager
  | some key =>
      { manager with
        autoDeployByInstance := manager.autoDeployByInstance.erase instanceId
        deployingModelCounts :=
          manager.deployingModelCounts.set key (manager.deployingCount key - 1) }

/-- `clear_workflow_state`. -/
def clearWorkflowState (workflowId : PyStr) : LlmInstanceManager :=
  if workflowId.isEmpty then
    manager
  else
    ((manager.pendingModelRequestIds.entries.map Prod.fst).foldl
      (fun (manager : LlmInstanceManager) key => manager.clearPending workflowId key)
      manager).keepAffinities fun key _ => key.1 ≠ some workflowId

/-! ## Routing -/

/-- The instances that the request may be given to. -/
def candidates
    (fingerprint : PyVal → PyVal → PyStr)
    (request : ModelRequest) :
    List (PyStr × InstanceMetadata) :=
  (manager.instancesOf request.key).filterMap fun instanceId =>
    ((manager.instances.get? instanceId).bind
      (Instance.candidate? fingerprint request)).map (instanceId, ·)

/-- The order in which available candidates are preferred. -/
def preferred (first second : PyStr × InstanceMetadata) : Bool :=
  let used := first.2.lastUsedTime.getD 0
  let usedOther := second.2.lastUsedTime.getD 0
  first.2.inflightRequests < second.2.inflightRequests ||
    first.2.inflightRequests = second.2.inflightRequests &&
      (decide (used < usedOther) ||
        used = usedOther && decide (first.1.chars ≤ second.1.chars))

/-- The first of the candidates in the order of preference. -/
def leastLoaded :
    List (PyStr × InstanceMetadata) → Option (PyStr × InstanceMetadata)
  | [] => none
  | candidate :: rest =>
      match leastLoaded rest with
      | some other => if preferred candidate other then some candidate else some other
      | none => some candidate

/-- The instance that the workflow has been given before, if it has room. -/
def affinityHit
    (request : ModelRequest)
    (candidates : List (PyStr × InstanceMetadata)) :
    Option (PyStr × InstanceMetadata) :=
  (manager.workflowModelAffinity.get? (request.workflowId, request.key)).bind
    fun instanceId =>
      candidates.find? fun candidate =>
        candidate.1 = instanceId && candidate.2.hasRoom

/-- The candidate that gets the request. -/
def selected
    (fingerprint : PyVal → PyVal → PyStr)
    (request : ModelRequest) :
    Option (PyStr × InstanceMetadata) :=
  let candidates := manager.candidates fingerprint request
  (manager.affinityHit request candidates).or
    (leastLoaded (candidates.filter fun candidate => candidate.2.hasRoom))

/-- A workflow stays with the instance that it is given without an affinity. -/
def keepAffinity
    (fingerprint : PyVal → PyVal → PyStr)
    (request : ModelRequest)
    (instanceId : PyStr) :
    LlmInstanceManager :=
  if (manager.affinityHit request (manager.candidates fingerprint request)).isSome ||
      (request.workflowId.getD "").isEmpty then
    manager
  else
    { manager with
      workflowModelAffinity :=
        manager.workflowModelAffinity.set (request.workflowId, request.key) instanceId }

/-- The instance has one more request, and the request is no longer pending. -/
def admitRoute
    (request : ModelRequest)
    (instanceId : PyStr)
    (now : ℚ) :
    LlmInstanceManager :=
  (manager.modifyMetadata instanceId fun metadata =>
    { metadata with
      inflightRequests := metadata.inflightRequests + 1
      lastUsedTime := some now }).discardPending request

/-- `route_model_request`. -/
def routeModelRequest
    (fingerprint : PyVal → PyVal → PyStr)
    (request : ModelRequest)
    (now : ℚ) :
    Option ModelRoute × LlmInstanceManager :=
  match manager.selected fingerprint request with
  | none => (none, manager.recordModelDemand request)
  | some (instanceId, _) =>
      (some ⟨instanceId, request.key, manager.generationOf instanceId⟩,
        (manager.keepAffinity fingerprint request instanceId).admitRoute
          request instanceId now)

/-- `release_model_route`. -/
def releaseModelRoute
    (instanceId : PyStr)
    (now : ℚ) :
    LlmInstanceManager :=
  manager.modifyMetadata instanceId fun metadata =>
    { metadata with
      inflightRequests := metadata.inflightRequests - 1
      lastUsedTime := some now }

/-! ## The life of an instance -/

/-- `_register_starting_instance`; it raises for an id that is in use or cancelled. -/
def registerStartingInstance?
    (instanceId : PyStr)
    (key : ModelKey)
    (generationId : PyStr)
    (gpuMem : ℚ) :
    Option LlmInstanceManager :=
  if instanceId ∈ manager.cancelledStartIds ∨ manager.instances.contains instanceId then
    none
  else
    some { manager with
      instances := manager.instances.set instanceId
        { key, generationId, gpuMem, state := .launching, metadata := none } }

/-- The metadata of an instance that becomes ready, with what was there before. -/
def readyMetadata
    (inst : Instance)
    (now : ℚ) :
    InstanceMetadata where
  inflightRequests :=
    (inst.metadata.map InstanceMetadata.inflightRequests).getD 0
  admissionLimit :=
    (manager.modelAdmissionLimits.get? inst.key).getD manager.maxRequestsPerInstance
  createdTime := (inst.metadata.map InstanceMetadata.createdTime).getD now
  lastUsedTime := inst.metadata.bind InstanceMetadata.lastUsedTime
  identity := inst.metadata.bind InstanceMetadata.identity

/-- `_mark_ready` with `register_instance`; it raises for one that is not launching. -/
def markReady?
    (instanceId : PyStr)
    (now : ℚ) :
    Option LlmInstanceManager :=
  match manager.instances.get? instanceId with
  | some inst =>
      if inst.state = .launching then
        some <| clearModelDeploying
          { manager with
            instances := manager.instances.set instanceId
              { inst with
                state := .ready
                metadata := some (manager.readyMetadata inst now) }
            modelToInstances := manager.modelToInstances.set inst.key
              ((manager.instancesOf inst.key).insert instanceId) }
          instanceId
      else
        none
  | none => none

/-- `set_resource_decision`; it raises for an instance without metadata. -/
def setResourceDecision?
    (instanceId : PyStr)
    (identity : PyStr) :
    Option LlmInstanceManager :=
  match (manager.instances.get? instanceId).bind Instance.metadata with
  | some _ =>
      some (manager.modifyMetadata instanceId fun metadata =>
        { metadata with identity := some identity })
  | none => none

/-- The instance takes no more requests: `_remove_routing_registration`. -/
def removeRoutingRegistration (instanceId : PyStr) : LlmInstanceManager :=
  { manager.keepAffinities fun _ value => value ≠ instanceId with
    modelToInstances :=
      match manager.instances.get? instanceId with
      | some inst =>
          if inst.metadata.isSome then
            manager.modelToInstances.set inst.key
              ((manager.instancesOf inst.key).filter (· ≠ instanceId))
          else
            manager.modelToInstances
      | none => manager.modelToInstances }

/-- An instance is taken out of routing and goes into the state. -/
def leaveRouting
    (instanceId : PyStr)
    (state : InstanceState) :
    LlmInstanceManager :=
  (manager.setState instanceId state).removeRoutingRegistration instanceId

/-- `request_start_cancellation`. -/
def requestStartCancellation (instanceId : PyStr) : LlmInstanceManager :=
  let cancelled :=
    { manager with
      cancelledStartIds := manager.cancelledStartIds.insert instanceId }
  if manager.stateOf instanceId = some .launching ∨
      manager.stateOf instanceId = some .ready then
    { cancelled.leaveRouting instanceId .stopping with
      scaleInClaims := manager.scaleInClaims.insert instanceId }
  else
    cancelled

/-- `clear_start_cancellation`. -/
def clearStartCancellation (instanceId : PyStr) : LlmInstanceManager :=
  { manager with
    cancelledStartIds := manager.cancelledStartIds.filter (· ≠ instanceId) }

/-- `prepare_memory_recovery`; it raises for an instance that is not ready. -/
def prepareMemoryRecovery? (instanceId : PyStr) : Option LlmInstanceManager :=
  match manager.readyInstance? instanceId with
  | some (key, metadata) =>
      if 0 < metadata.inflightRequests then
        some { manager.modifyMetadata instanceId fun metadata =>
            { metadata with admissionLimit := 1 } with
          modelAdmissionLimits := manager.modelAdmissionLimits.set key 1 }
      else
        some (manager.leaveRouting instanceId .draining)
  | none => none

/-- What `runtime_cleanup_candidates` does with an instance that fails its probe. -/
def markUnhealthy (instanceId : PyStr) : LlmInstanceManager :=
  if manager.stateOf instanceId = some .ready then
    manager.leaveRouting instanceId .unhealthy
  else
    manager

/-- `claim_lru_scale_in`; none if it returns false. -/
def claimLruScaleIn?
    (instanceId : PyStr)
    (expectedIdleSince : Option ℚ)
    (now idleSeconds : ℚ)
    (requireNoPendingRequests : Bool) :
    Option LlmInstanceManager :=
  match manager.readyInstance? instanceId with
  | some (key, metadata) =>
      if metadata.inflightRequests = 0 ∧
          (requireNoPendingRequests = true → manager.requestIdsOf key = []) ∧
          (∀ expected ∈ expectedIdleSince, metadata.idleSince now = expected) ∧
          idleSeconds ≤ now - metadata.idleSince now then
        some { manager.leaveRouting instanceId .stopping with
          scaleInClaims := manager.scaleInClaims.insert instanceId }
      else
        none
  | none => none

/-- `cancel_lru_scale_in_claim`; none if it returns false. -/
def cancelLruScaleInClaim? (instanceId : PyStr) : Option LlmInstanceManager :=
  match manager.instances.get? instanceId with
  | some inst =>
      if instanceId ∈ manager.scaleInClaims ∧ inst.state = .stopping ∧
          inst.metadata.isSome = true then
        some { manager.setState instanceId .ready with
          scaleInClaims := manager.scaleInClaims.filter (· ≠ instanceId)
          modelToInstances := manager.modelToInstances.set inst.key
            ((manager.instancesOf inst.key).insert instanceId) }
      else
        none
  | none => none

/--
The first part of `stop_llm_instance`, where the caller becomes the owner of the
stop: it takes over a claim or takes the instance out of routing.
-/
def beginStop? (instanceId : PyStr) : Option LlmInstanceManager :=
  match manager.stateOf instanceId with
  | none | some .stopped => none
  | some .stopping =>
      if instanceId ∈ manager.scaleInClaims then
        some { manager with
          scaleInClaims := manager.scaleInClaims.filter (· ≠ instanceId) }
      else
        none
  | some _ => some (manager.leaveRouting instanceId .stopping)

/-- The last part of `stop_llm_instance`: the owner of the stop has tried to clean up. -/
def endStop?
    (instanceId : PyStr)
    (confirmed : Bool) :
    Option LlmInstanceManager :=
  if manager.stateOf instanceId = some .stopping ∧
      instanceId ∉ manager.scaleInClaims then
    some (manager.setState instanceId
      (if confirmed then .stopped else .cleanupPending))
  else
    none

/-- `finalize_stopped_instance`; it raises for one that is not stopped. -/
def finalizeStoppedInstance? (instanceId : PyStr) : Option LlmInstanceManager :=
  if manager.stateOf instanceId = some .stopped then
    let forgotten := manager.removeRoutingRegistration instanceId
    some <| clearModelDeploying
      { forgotten with
        instances := forgotten.instances.erase instanceId
        scaleInClaims := manager.scaleInClaims.filter (· ≠ instanceId)
        cancelledStartIds := manager.cancelledStartIds.filter (· ≠ instanceId) }
      instanceId
  else
    none

/-! ## Recommendations -/

/-- `pending < threshold` for a `float` threshold. -/
def isBelow
    (pending : ℕ)
    (threshold : Double) :
    Bool :=
  match threshold with
  | .finite value => decide ((pending : ℚ) < value)
  | .infinity negative => !negative
  | .nan => false

/-- `pending <= threshold` for a `float` threshold. -/
def isAtMost
    (pending : ℕ)
    (threshold : Double) :
    Bool :=
  match threshold with
  | .finite value => decide ((pending : ℚ) ≤ value)
  | .infinity negative => !negative
  | .nan => false

/-- What is recommended for a model. -/
structure Recommendation where
  key : ModelKey
  pendingRequests : ℕ
  activeInstances : ℕ
  deployingInstances : ℕ
  gpuMem : ℕ
  noActiveInstance : Bool
  deriving DecidableEq

/-- `threshold * denominator` for a `float` threshold. -/
def floatProduct
    (threshold : Double)
    (denominator : ℕ) :
    Double :=
  threshold.mul denominator

/-- One round of `scale_out_recommendations`, with the product that is compared. -/
def recommendationWith
    (product : Double → ℕ → Double)
    (key : ModelKey) :
    Option Recommendation :=
  let pendingRequests := (manager.requestIdsOf key).length
  let activeCount := (manager.instancesOf key).length
  let deployingCount := manager.deployingCount key
  let denominator := activeCount + deployingCount
  let threshold := product manager.scaleOutThreshold denominator
  if pendingRequests = 0 then
    none
  else if 0 < denominator ∧
      (isBelow pendingRequests threshold = true ∨
        0 < deployingCount ∧ isAtMost pendingRequests threshold = true) then
    none
  else
    some {
      key
      pendingRequests
      activeInstances := activeCount
      deployingInstances := deployingCount
      gpuMem :=
        ((manager.pendingModelAnchors.get? key).map ModelRequest.requiredMib).getD 0
      noActiveInstance := denominator = 0 }

/-- `scale_out_recommendations`, with the product that is compared. -/
def recommendationsWith (product : Double → ℕ → Double) : List Recommendation :=
  (manager.pendingModelRequestIds.entries.map Prod.fst).filterMap
    (manager.recommendationWith product)

/-- `scale_out_recommendations`. -/
def scaleOutRecommendations : List Recommendation :=
  manager.recommendationsWith floatProduct

/-- `undersized_idle_instances` for the identity that an anchor asks for. -/
def undersizedIdleInstances
    (key : ModelKey)
    (requiredMib : ℕ)
    (expected : Option PyStr) :
    List PyStr :=
  (manager.instancesOf key).filter fun instanceId =>
    (manager.instances.get? instanceId).any fun inst =>
      inst.state = .ready && inst.metadata.any fun metadata =>
        metadata.inflightRequests = 0 &&
          (decide (inst.gpuMem < requiredMib) ||
            !identityFits expected metadata.identity)

end LlmInstanceManager

/-! ## Steps of the manager -/

/-- A call of one of the methods that change the manager. -/
inductive Action where
  | routeModelRequest (request : ModelRequest) (now : ℚ)
  | releaseModelRoute (instanceId : PyStr) (now : ℚ)
  | clearWorkflowState (workflowId : PyStr)
  | markModelDeploying (key : ModelKey) (instanceId : PyStr)
  | clearModelDeploying (instanceId : PyStr)
  | registerStartingInstance
      (instanceId : PyStr)
      (key : ModelKey)
      (generationId : PyStr)
      (gpuMem : ℚ)
  | markReady (instanceId : PyStr) (now : ℚ)
  | setResourceDecision (instanceId identity : PyStr)
  | requestStartCancellation (instanceId : PyStr)
  | clearStartCancellation (instanceId : PyStr)
  | prepareMemoryRecovery (instanceId : PyStr)
  | markUnhealthy (instanceId : PyStr)
  | claimLruScaleIn
      (instanceId : PyStr)
      (expectedIdleSince : Option ℚ)
      (now idleSeconds : ℚ)
      (requireNoPendingRequests : Bool)
  | cancelLruScaleInClaim (instanceId : PyStr)
  | beginStop (instanceId : PyStr)
  | endStop (instanceId : PyStr) (confirmed : Bool)
  | finalizeStoppedInstance (instanceId : PyStr)

/-- What the call does; none if it raises or returns false and changes nothing. -/
def step?
    (fingerprint : PyVal → PyVal → PyStr)
    (manager : LlmInstanceManager) :
    Action → Option LlmInstanceManager
  | .routeModelRequest request now =>
      some (manager.routeModelRequest fingerprint request now).2
  | .releaseModelRoute instanceId now =>
      some (manager.releaseModelRoute instanceId now)
  | .clearWorkflowState workflowId => some (manager.clearWorkflowState workflowId)
  | .markModelDeploying key instanceId =>
      some (manager.markModelDeploying key instanceId)
  | .clearModelDeploying instanceId => some (manager.clearModelDeploying instanceId)
  | .registerStartingInstance instanceId key generationId gpuMem =>
      manager.registerStartingInstance? instanceId key generationId gpuMem
  | .markReady instanceId now => manager.markReady? instanceId now
  | .setResourceDecision instanceId identity =>
      manager.setResourceDecision? instanceId identity
  | .requestStartCancellation instanceId =>
      some (manager.requestStartCancellation instanceId)
  | .clearStartCancellation instanceId =>
      some (manager.clearStartCancellation instanceId)
  | .prepareMemoryRecovery instanceId => manager.prepareMemoryRecovery? instanceId
  | .markUnhealthy instanceId => some (manager.markUnhealthy instanceId)
  | .claimLruScaleIn instanceId expectedIdleSince now idleSeconds
      requireNoPendingRequests =>
      manager.claimLruScaleIn? instanceId expectedIdleSince now idleSeconds
        requireNoPendingRequests
  | .cancelLruScaleInClaim instanceId => manager.cancelLruScaleInClaim? instanceId
  | .beginStop instanceId => manager.beginStop? instanceId
  | .endStop instanceId confirmed => manager.endStop? instanceId confirmed
  | .finalizeStoppedInstance instanceId => manager.finalizeStoppedInstance? instanceId

namespace LlmInstanceManager

/-! ## What a step does -/

/-- What a step does to the manager, under what it has found there. -/
inductive Becomes
    (fingerprint : PyVal → PyVal → PyStr)
    (manager : LlmInstanceManager) :
    Action → LlmInstanceManager → Prop
  | unserved (request : ModelRequest) (now : ℚ)
      (unselected : manager.selected fingerprint request = none) :
      Becomes fingerprint manager (.routeModelRequest request now)
        (manager.recordModelDemand request)
  | routed (request : ModelRequest) (now : ℚ) (instanceId : PyStr)
      (metadata : InstanceMetadata)
      (chosen : manager.selected fingerprint request = some (instanceId, metadata)) :
      Becomes fingerprint manager (.routeModelRequest request now)
        ((manager.keepAffinity fingerprint request instanceId).admitRoute request
          instanceId now)
  | released (instanceId : PyStr) (now : ℚ) :
      Becomes fingerprint manager (.releaseModelRoute instanceId now)
        (manager.releaseModelRoute instanceId now)
  | workflowCleared (workflowId : PyStr) :
      Becomes fingerprint manager (.clearWorkflowState workflowId)
        (manager.clearWorkflowState workflowId)
  | deploying (key : ModelKey) (instanceId : PyStr) :
      Becomes fingerprint manager (.markModelDeploying key instanceId)
        (manager.markModelDeploying key instanceId)
  | deployed (instanceId : PyStr) :
      Becomes fingerprint manager (.clearModelDeploying instanceId)
        (manager.clearModelDeploying instanceId)
  | registered (instanceId : PyStr) (key : ModelKey) (generationId : PyStr) (gpuMem : ℚ)
      (uncancelled : instanceId ∉ manager.cancelledStartIds)
      (absent : manager.instances.get? instanceId = none) :
      Becomes fingerprint manager
        (.registerStartingInstance instanceId key generationId gpuMem)
        { manager with
          instances := manager.instances.set instanceId
            { key, generationId, gpuMem, state := .launching, metadata := none } }
  | readied (instanceId : PyStr) (now : ℚ) (inst : Instance)
      (found : manager.instances.get? instanceId = some inst)
      (launching : inst.state = .launching) :
      Becomes fingerprint manager (.markReady instanceId now)
        (clearModelDeploying
          { manager with
            instances := manager.instances.set instanceId
              { inst with
                state := .ready
                metadata := some (manager.readyMetadata inst now) }
            modelToInstances := manager.modelToInstances.set inst.key
              ((manager.instancesOf inst.key).insert instanceId) }
          instanceId)
  | decided (instanceId identity : PyStr) (metadata : InstanceMetadata)
      (measured : (manager.instances.get? instanceId).bind Instance.metadata =
        some metadata) :
      Becomes fingerprint manager (.setResourceDecision instanceId identity)
        (manager.modifyMetadata instanceId fun metadata =>
          { metadata with identity := some identity })
  | startStopped (instanceId : PyStr)
      (started : manager.stateOf instanceId = some .launching ∨
        manager.stateOf instanceId = some .ready) :
      Becomes fingerprint manager (.requestStartCancellation instanceId)
        { { manager with
            cancelledStartIds :=
              manager.cancelledStartIds.insert instanceId }.leaveRouting instanceId
            .stopping with
          scaleInClaims := manager.scaleInClaims.insert instanceId }
  | startCancelled (instanceId : PyStr)
      (unstarted : ¬ (manager.stateOf instanceId = some .launching ∨
        manager.stateOf instanceId = some .ready)) :
      Becomes fingerprint manager (.requestStartCancellation instanceId)
        { manager with
          cancelledStartIds := manager.cancelledStartIds.insert instanceId }
  | cancellationCleared (instanceId : PyStr) :
      Becomes fingerprint manager (.clearStartCancellation instanceId)
        (manager.clearStartCancellation instanceId)
  | limited (instanceId : PyStr) (key : ModelKey) (metadata : InstanceMetadata)
      (ready : manager.readyInstance? instanceId = some (key, metadata))
      (busy : 0 < metadata.inflightRequests) :
      Becomes fingerprint manager (.prepareMemoryRecovery instanceId)
        { manager.modifyMetadata instanceId fun metadata =>
            { metadata with admissionLimit := 1 } with
          modelAdmissionLimits := manager.modelAdmissionLimits.set key 1 }
  | drained (instanceId : PyStr) (key : ModelKey) (metadata : InstanceMetadata)
      (ready : manager.readyInstance? instanceId = some (key, metadata))
      (idle : ¬ 0 < metadata.inflightRequests) :
      Becomes fingerprint manager (.prepareMemoryRecovery instanceId)
        (manager.leaveRouting instanceId .draining)
  | unhealthy (instanceId : PyStr)
      (ready : manager.stateOf instanceId = some .ready) :
      Becomes fingerprint manager (.markUnhealthy instanceId)
        (manager.leaveRouting instanceId .unhealthy)
  | unprobed (instanceId : PyStr)
      (unready : manager.stateOf instanceId ≠ some .ready) :
      Becomes fingerprint manager (.markUnhealthy instanceId) manager
  | claimed (instanceId : PyStr) (expectedIdleSince : Option ℚ) (now idleSeconds : ℚ)
      (requireNoPendingRequests : Bool) (key : ModelKey) (metadata : InstanceMetadata)
      (ready : manager.readyInstance? instanceId = some (key, metadata))
      (idle : metadata.inflightRequests = 0)
      (unwanted : requireNoPendingRequests = true → manager.requestIdsOf key = [])
      (since : ∀ expected ∈ expectedIdleSince, metadata.idleSince now = expected)
      (long : idleSeconds ≤ now - metadata.idleSince now) :
      Becomes fingerprint manager
        (.claimLruScaleIn instanceId expectedIdleSince now idleSeconds
          requireNoPendingRequests)
        { manager.leaveRouting instanceId .stopping with
          scaleInClaims := manager.scaleInClaims.insert instanceId }
  | claimCancelled (instanceId : PyStr) (inst : Instance)
      (found : manager.instances.get? instanceId = some inst)
      (claimed : instanceId ∈ manager.scaleInClaims)
      (stopping : inst.state = .stopping)
      (measured : inst.metadata.isSome = true) :
      Becomes fingerprint manager (.cancelLruScaleInClaim instanceId)
        { manager.setState instanceId .ready with
          scaleInClaims := manager.scaleInClaims.filter (· ≠ instanceId)
          modelToInstances := manager.modelToInstances.set inst.key
            ((manager.instancesOf inst.key).insert instanceId) }
  | claimOwned (instanceId : PyStr)
      (stopping : manager.stateOf instanceId = some .stopping)
      (claimed : instanceId ∈ manager.scaleInClaims) :
      Becomes fingerprint manager (.beginStop instanceId)
        { manager with
          scaleInClaims := manager.scaleInClaims.filter (· ≠ instanceId) }
  | stopBegun (instanceId : PyStr) (state : InstanceState)
      (known : manager.stateOf instanceId = some state)
      (unstopped : state ≠ .stopped ∧ state ≠ .stopping) :
      Becomes fingerprint manager (.beginStop instanceId)
        (manager.leaveRouting instanceId .stopping)
  | stopEnded (instanceId : PyStr) (confirmed : Bool)
      (stopping : manager.stateOf instanceId = some .stopping)
      (unclaimed : instanceId ∉ manager.scaleInClaims) :
      Becomes fingerprint manager (.endStop instanceId confirmed)
        (manager.setState instanceId (if confirmed then .stopped else .cleanupPending))
  | forgotten (instanceId : PyStr)
      (stopped : manager.stateOf instanceId = some .stopped) :
      Becomes fingerprint manager (.finalizeStoppedInstance instanceId)
        (clearModelDeploying
          { manager.removeRoutingRegistration instanceId with
            instances := manager.instances.erase instanceId
            scaleInClaims := manager.scaleInClaims.filter (· ≠ instanceId)
            cancelledStartIds :=
              manager.cancelledStartIds.filter (· ≠ instanceId) }
          instanceId)

/-- A step does one of these things. -/
theorem becomes_of_step
    {fingerprint : PyVal → PyVal → PyStr}
    {manager next : LlmInstanceManager}
    {action : Action}
    (stepped : step? fingerprint manager action = some next) :
    manager.Becomes fingerprint action next := by
  cases action with
  | routeModelRequest request now =>
      simp only [step?, routeModelRequest, Option.some.injEq] at stepped
      subst stepped
      split
      · rename_i unselected
        exact .unserved request now unselected
      · rename_i instanceId metadata chosen
        exact .routed request now instanceId metadata chosen
  | releaseModelRoute instanceId now =>
      cases stepped
      exact .released instanceId now
  | clearWorkflowState workflowId =>
      cases stepped
      exact .workflowCleared workflowId
  | markModelDeploying key instanceId =>
      cases stepped
      exact .deploying key instanceId
  | clearModelDeploying instanceId =>
      cases stepped
      exact .deployed instanceId
  | registerStartingInstance instanceId key generationId gpuMem =>
      simp only [step?, registerStartingInstance?, Option.ite_none_left_eq_some,
        not_or, Option.some.injEq] at stepped
      obtain ⟨⟨uncancelled, fresh⟩, rfl⟩ := stepped
      have absent : manager.instances.get? instanceId = none := by
        simpa [Table.contains] using fresh
      exact .registered instanceId key generationId gpuMem uncancelled absent
  | markReady instanceId now =>
      simp only [step?, markReady?] at stepped
      split at stepped
      · rename_i inst found
        simp only [Option.ite_none_right_eq_some, Option.some.injEq] at stepped
        obtain ⟨launching, rfl⟩ := stepped
        exact .readied instanceId now inst found launching
      · cases stepped
  | setResourceDecision instanceId identity =>
      simp only [step?, setResourceDecision?] at stepped
      split at stepped
      · rename_i metadata measured
        cases stepped
        exact .decided instanceId identity metadata measured
      · cases stepped
  | requestStartCancellation instanceId =>
      simp only [step?, requestStartCancellation, Option.some.injEq] at stepped
      subst stepped
      split
      · rename_i started
        exact .startStopped instanceId started
      · rename_i unstarted
        exact .startCancelled instanceId unstarted
  | clearStartCancellation instanceId =>
      cases stepped
      exact .cancellationCleared instanceId
  | prepareMemoryRecovery instanceId =>
      simp only [step?, prepareMemoryRecovery?] at stepped
      split at stepped
      · rename_i key metadata ready
        split at stepped
        · rename_i busy
          cases stepped
          exact .limited instanceId key metadata ready busy
        · rename_i idle
          cases stepped
          exact .drained instanceId key metadata ready idle
      · cases stepped
  | markUnhealthy instanceId =>
      simp only [step?, markUnhealthy, Option.some.injEq] at stepped
      subst stepped
      split
      · rename_i ready
        exact .unhealthy instanceId ready
      · rename_i unready
        exact .unprobed instanceId unready
  | claimLruScaleIn instanceId expectedIdleSince now idleSeconds
      requireNoPendingRequests =>
      simp only [step?, claimLruScaleIn?] at stepped
      split at stepped
      · rename_i key metadata ready
        simp only [Option.ite_none_right_eq_some, Option.some.injEq] at stepped
        obtain ⟨⟨idle, unwanted, since, long⟩, rfl⟩ := stepped
        exact .claimed instanceId expectedIdleSince now idleSeconds
          requireNoPendingRequests key metadata ready idle unwanted since long
      · cases stepped
  | cancelLruScaleInClaim instanceId =>
      simp only [step?, cancelLruScaleInClaim?] at stepped
      split at stepped
      · rename_i inst found
        simp only [Option.ite_none_right_eq_some, Option.some.injEq] at stepped
        obtain ⟨⟨claimed, stopping, measured⟩, rfl⟩ := stepped
        exact .claimCancelled instanceId inst found claimed stopping measured
      · cases stepped
  | beginStop instanceId =>
      simp only [step?, beginStop?] at stepped
      split at stepped
      · cases stepped
      · cases stepped
      · rename_i stopping
        simp only [Option.ite_none_right_eq_some, Option.some.injEq] at stepped
        obtain ⟨claimed, rfl⟩ := stepped
        exact .claimOwned instanceId stopping claimed
      · rename_i state unstopped unstopping known
        cases stepped
        exact .stopBegun instanceId state known ⟨unstopped, unstopping⟩
  | endStop instanceId confirmed =>
      simp only [step?, endStop?, Option.ite_none_right_eq_some,
        Option.some.injEq] at stepped
      obtain ⟨⟨stopping, unclaimed⟩, rfl⟩ := stepped
      exact .stopEnded instanceId confirmed stopping unclaimed
  | finalizeStoppedInstance instanceId =>
      simp only [step?, finalizeStoppedInstance?, Option.ite_none_right_eq_some,
        Option.some.injEq] at stepped
      obtain ⟨stopped, rfl⟩ := stepped
      exact .forgotten instanceId stopped

/-! ## What an operation leaves as it is -/

section Frames

variable (manager : LlmInstanceManager)

@[simp] theorem setPending_instances
    (key : ModelKey)
    (requestIds : List RequestId)
    (anchors : Table RequestId ModelRequest) :
    (manager.setPending key requestIds anchors).instances = manager.instances := rfl

@[simp] theorem setPending_modelToInstances
    (key : ModelKey)
    (requestIds : List RequestId)
    (anchors : Table RequestId ModelRequest) :
    (manager.setPending key requestIds anchors).modelToInstances =
      manager.modelToInstances := rfl

@[simp] theorem recordModelDemand_instances (request : ModelRequest) :
    (manager.recordModelDemand request).instances = manager.instances := rfl

@[simp] theorem recordModelDemand_modelToInstances (request : ModelRequest) :
    (manager.recordModelDemand request).modelToInstances =
      manager.modelToInstances := rfl

@[simp] theorem keepAffinity_instances
    (fingerprint : PyVal → PyVal → PyStr)
    (request : ModelRequest)
    (instanceId : PyStr) :
    (manager.keepAffinity fingerprint request instanceId).instances =
      manager.instances := by
  unfold keepAffinity
  split <;> rfl

@[simp] theorem keepAffinity_modelToInstances
    (fingerprint : PyVal → PyVal → PyStr)
    (request : ModelRequest)
    (instanceId : PyStr) :
    (manager.keepAffinity fingerprint request instanceId).modelToInstances =
      manager.modelToInstances := by
  unfold keepAffinity
  split <;> rfl

@[simp] theorem markModelDeploying_instances
    (key : ModelKey)
    (instanceId : PyStr) :
    (manager.markModelDeploying key instanceId).instances = manager.instances := by
  unfold markModelDeploying
  split <;> rfl

@[simp] theorem markModelDeploying_modelToInstances
    (key : ModelKey)
    (instanceId : PyStr) :
    (manager.markModelDeploying key instanceId).modelToInstances =
      manager.modelToInstances := by
  unfold markModelDeploying
  split <;> rfl

@[simp] theorem clearModelDeploying_instances (instanceId : PyStr) :
    (manager.clearModelDeploying instanceId).instances = manager.instances := by
  unfold clearModelDeploying
  split <;> rfl

@[simp] theorem clearModelDeploying_modelToInstances (instanceId : PyStr) :
    (manager.clearModelDeploying instanceId).modelToInstances =
      manager.modelToInstances := by
  unfold clearModelDeploying
  split <;> rfl

/-- Forgetting the requests of a workflow leaves all instances alone. -/
theorem clearWorkflowState_frame (workflowId : PyStr) :
    (manager.clearWorkflowState workflowId).instances = manager.instances ∧
      (manager.clearWorkflowState workflowId).modelToInstances =
        manager.modelToInstances := by
  unfold clearWorkflowState
  split
  · exact ⟨rfl, rfl⟩
  · generalize manager.pendingModelRequestIds.entries.map Prod.fst = keys
    induction keys generalizing manager with
    | nil =>
        exact ⟨rfl, rfl⟩
    | cons key rest inductionHypothesis =>
        exact inductionHypothesis (manager.clearPending workflowId key)

@[simp] theorem removeRoutingRegistration_instances (instanceId : PyStr) :
    (manager.removeRoutingRegistration instanceId).instances =
      manager.instances := rfl

@[simp] theorem leaveRouting_modelToInstances
    (instanceId : PyStr)
    (state : InstanceState) :
    (manager.leaveRouting instanceId state).modelToInstances =
      (manager.removeRoutingRegistration instanceId).modelToInstances := by
  cases found : manager.instances.get? instanceId <;>
    simp [leaveRouting, setState, removeRoutingRegistration, instancesOf, found]

@[simp] theorem leaveRouting_get?
    (instanceId wanted : PyStr)
    (state : InstanceState) :
    (manager.leaveRouting instanceId state).instances.get? wanted =
      if wanted = instanceId then
        (manager.instances.get? wanted).map fun inst => { inst with state := state }
      else
        manager.instances.get? wanted := by
  simp [leaveRouting, setState]

end Frames

/-! ## The routing index -/

/-- The instance is registered for the model and ready. -/
def ReadyFor
    (manager : LlmInstanceManager)
    (key : ModelKey)
    (instanceId : PyStr) : Prop :=
  ∃ inst, manager.instances.get? instanceId = some inst ∧
    inst.key = key ∧ inst.state = .ready

/-- The routing index lists the ready instances of every model, each of them once. -/
structure RoutingSound (manager : LlmInstanceManager) : Prop where
  listed : ∀ key instanceId,
    instanceId ∈ manager.instancesOf key ↔ manager.ReadyFor key instanceId
  distinct : ∀ key, (manager.instancesOf key).Nodup
  measured : ∀ instanceId inst, manager.instances.get? instanceId = some inst →
    inst.state = .ready → inst.metadata ≠ none

namespace RoutingSound

variable {manager next : LlmInstanceManager} {instanceId : PyStr}

/-- What changes neither the instances nor the index keeps the index sound. -/
theorem of_same
    (sound : manager.RoutingSound)
    (instances : next.instances = manager.instances)
    (routing : next.modelToInstances = manager.modelToInstances) :
    next.RoutingSound := by
  have same (key : ModelKey) : next.instancesOf key = manager.instancesOf key := by
    rw [instancesOf, routing, instancesOf]
  constructor
  · intro key instanceId
    rw [same, sound.listed, ReadyFor, ReadyFor, instances]
  · intro key
    rw [same]
    exact sound.distinct key
  · intro instanceId inst found
    rw [instances] at found
    exact sound.measured instanceId inst found

/--
A change of one instance keeps the index sound, if the others keep their entries and
the instance is listed exactly for the model that it is ready for.
-/
theorem of_local
    (instanceId : PyStr)
    (sound : manager.RoutingSound)
    (others : ∀ other, other ≠ instanceId →
      next.instances.get? other = manager.instances.get? other)
    (kept : ∀ key other, other ≠ instanceId →
      (other ∈ next.instancesOf key ↔ other ∈ manager.instancesOf key))
    (distinct : ∀ key, (next.instancesOf key).Nodup)
    (here : ∀ key, instanceId ∈ next.instancesOf key ↔ next.ReadyFor key instanceId)
    (measured : ∀ inst, next.instances.get? instanceId = some inst →
      inst.state = .ready → inst.metadata ≠ none) :
    next.RoutingSound := by
  refine ⟨fun key other => ?_, distinct, fun other inst found => ?_⟩
  · by_cases same : other = instanceId
    · subst same
      exact here key
    · rw [kept key other same, sound.listed, ReadyFor, ReadyFor, others other same]
  · by_cases same : other = instanceId
    · subst same
      exact measured inst found
    · rw [others other same] at found
      exact sound.measured other inst found

/-- An instance that is not ready for any model is listed for none. -/
theorem notMem_of_notReady
    (sound : manager.RoutingSound)
    (notReady : manager.stateOf instanceId ≠ some .ready)
    (key : ModelKey) :
    instanceId ∉ manager.instancesOf key := by
  intro inside
  obtain ⟨inst, found, _, ready⟩ := (sound.listed key instanceId).mp inside
  apply notReady
  rw [stateOf, found, Option.map_some, ready]

/-- Leaving the routing takes exactly the instance out of every list. -/
theorem mem_removeRoutingRegistration
    (sound : manager.RoutingSound)
    (key : ModelKey)
    (other : PyStr) :
    other ∈ (manager.removeRoutingRegistration instanceId).instancesOf key ↔
      other ∈ manager.instancesOf key ∧ other ≠ instanceId := by
  have untouched
      (absent : instanceId ∉ manager.instancesOf key) :
      other ∈ manager.instancesOf key ↔
        other ∈ manager.instancesOf key ∧ other ≠ instanceId := by
    refine ⟨fun inside => ⟨inside, ?_⟩, And.left⟩
    rintro rfl
    exact absent inside
  simp only [removeRoutingRegistration, instancesOf]
  split
  · rename_i inst found
    split
    · rw [Table.get?_set]
      by_cases same : key = inst.key
      · subst same
        simp
      · rw [if_neg same]
        refine untouched fun inside => ?_
        obtain ⟨_, here, owned, _⟩ := (sound.listed key instanceId).mp inside
        obtain rfl := Option.some.inj (found.symm.trans here)
        exact same owned.symm
    · rename_i unmeasured
      refine untouched fun inside => ?_
      obtain ⟨_, here, _, ready⟩ := (sound.listed key instanceId).mp inside
      obtain rfl := Option.some.inj (found.symm.trans here)
      exact unmeasured (Option.isSome_iff_ne_none.mpr
        (sound.measured instanceId inst found ready))
  · rename_i absent
    refine untouched fun inside => ?_
    obtain ⟨_, here, _⟩ := (sound.listed key instanceId).mp inside
    rw [absent] at here
    cases here

/-- The lists stay without duplicates when an instance leaves the routing. -/
theorem distinct_removeRoutingRegistration
    (sound : manager.RoutingSound)
    (key : ModelKey) :
    ((manager.removeRoutingRegistration instanceId).instancesOf key).Nodup := by
  simp only [removeRoutingRegistration, instancesOf]
  split
  · split
    · rw [Table.get?_set]
      split
      · exact (sound.distinct _).filter _
      · exact sound.distinct key
    · exact sound.distinct key
  · exact sound.distinct key

/-- A change of the metadata of an instance keeps the index sound. -/
theorem modifyMetadata
    (sound : manager.RoutingSound)
    (change : InstanceMetadata → InstanceMetadata) :
    (manager.modifyMetadata instanceId change).RoutingSound := by
  refine of_local instanceId sound ?_ (fun _ _ _ => Iff.rfl)
    sound.distinct ?_ ?_
  · intro other differ
    simp [LlmInstanceManager.modifyMetadata, differ]
  · intro key
    refine (sound.listed key instanceId).trans ?_
    simp only [ReadyFor, LlmInstanceManager.modifyMetadata, Table.get?_modify]
    cases manager.instances.get? instanceId <;> simp
  · intro inst found ready
    simp only [LlmInstanceManager.modifyMetadata, Table.get?_modify, if_true,
      Option.map_eq_some_iff] at found
    obtain ⟨old, found, rfl⟩ := found
    simpa using sound.measured instanceId old found ready

/-- An instance that leaves the routing in a state other than ready. -/
theorem leaveRouting
    (sound : manager.RoutingSound)
    {state : InstanceState}
    (notReady : state ≠ .ready) :
    (manager.leaveRouting instanceId state).RoutingSound := by
  have listed (key : ModelKey) :
      (manager.leaveRouting instanceId state).instancesOf key =
        (manager.removeRoutingRegistration instanceId).instancesOf key := by
    rw [instancesOf, leaveRouting_modelToInstances, instancesOf]
  refine of_local instanceId sound ?_ ?_ ?_ ?_ ?_
  · intro other differ
    simp [differ]
  · intro key other differ
    rw [listed, sound.mem_removeRoutingRegistration]
    exact and_iff_left differ
  · intro key
    rw [listed]
    exact sound.distinct_removeRoutingRegistration key
  · intro key
    rw [listed, sound.mem_removeRoutingRegistration]
    simp only [ne_eq, not_true_eq_false, and_false, false_iff]
    rintro ⟨inst, found, _, ready⟩
    simp only [leaveRouting_get?, if_true, Option.map_eq_some_iff] at found
    obtain ⟨old, _, rfl⟩ := found
    exact notReady ready
  · intro inst found ready
    simp only [leaveRouting_get?, if_true, Option.map_eq_some_iff] at found
    obtain ⟨old, _, rfl⟩ := found
    exact absurd ready notReady

/-- An instance that is not ready takes another entry without being ready. -/
theorem of_notReady
    (instanceId : PyStr)
    (sound : manager.RoutingSound)
    (routing : next.modelToInstances = manager.modelToInstances)
    (others : ∀ other, other ≠ instanceId →
      next.instances.get? other = manager.instances.get? other)
    (before : manager.stateOf instanceId ≠ some .ready)
    (after : next.stateOf instanceId ≠ some .ready) :
    next.RoutingSound := by
  have same (key : ModelKey) : next.instancesOf key = manager.instancesOf key := by
    rw [instancesOf, routing, instancesOf]
  have notReady (inst : Instance)
      (found : next.instances.get? instanceId = some inst) :
      inst.state ≠ .ready := by
    rintro ready
    apply after
    rw [stateOf, found, Option.map_some, ready]
  refine of_local instanceId sound others ?_ ?_ ?_ ?_
  · intro key other _
    rw [same]
  · intro key
    rw [same]
    exact sound.distinct key
  · intro key
    rw [same]
    constructor
    · intro inside
      exact absurd inside (sound.notMem_of_notReady before key)
    · rintro ⟨inst, found, _, ready⟩
      exact absurd ready (notReady inst found)
  · intro inst found ready
    exact absurd ready (notReady inst found)

/-- An instance that was not ready becomes ready and is listed for its model. -/
theorem enter
    (instanceId : PyStr)
    (inst : Instance)
    (sound : manager.RoutingSound)
    (before : manager.stateOf instanceId ≠ some .ready)
    (others : ∀ other, other ≠ instanceId →
      next.instances.get? other = manager.instances.get? other)
    (found : next.instances.get? instanceId = some inst)
    (ready : inst.state = .ready)
    (measured : inst.metadata ≠ none)
    (routing : next.modelToInstances = manager.modelToInstances.set inst.key
      ((manager.instancesOf inst.key).insert instanceId)) :
    next.RoutingSound := by
  have lists (key : ModelKey) :
      next.instancesOf key =
        if key = inst.key then (manager.instancesOf inst.key).insert instanceId
        else manager.instancesOf key := by
    rw [instancesOf, routing, Table.get?_set]
    split <;> rfl
  refine of_local instanceId sound others ?_ ?_ ?_ ?_
  · intro key other differ
    rw [lists]
    split
    · rename_i same
      subst same
      simp [differ]
    · rfl
  · intro key
    rw [lists]
    split
    · exact (sound.distinct _).insert
    · exact sound.distinct key
  · intro key
    rw [lists]
    split
    · rename_i same
      subst same
      exact iff_of_true (by simp) ⟨inst, found, rfl, ready⟩
    · rename_i differ
      refine iff_of_false (sound.notMem_of_notReady before key) ?_
      rintro ⟨other, here, owned, _⟩
      obtain rfl := Option.some.inj (found.symm.trans here)
      exact differ owned.symm
  · intro other here _
    obtain rfl := Option.some.inj (found.symm.trans here)
    exact measured

end RoutingSound

/-- Every step keeps the routing index sound. -/
theorem step_routingSound
    {fingerprint : PyVal → PyVal → PyStr}
    {manager next : LlmInstanceManager}
    {action : Action}
    (sound : manager.RoutingSound)
    (stepped : step? fingerprint manager action = some next) :
    next.RoutingSound := by
  cases becomes_of_step stepped with
  | unserved request now => exact sound.of_same rfl rfl
  | routed request now instanceId metadata chosen =>
      have kept : (manager.keepAffinity fingerprint request instanceId).RoutingSound :=
        sound.of_same (by simp) (by simp)
      exact (kept.modifyMetadata _).of_same rfl rfl
  | released instanceId now => exact sound.modifyMetadata _
  | workflowCleared workflowId =>
      obtain ⟨instances, routing⟩ := manager.clearWorkflowState_frame workflowId
      exact sound.of_same instances routing
  | deploying key instanceId => exact sound.of_same (by simp) (by simp)
  | deployed instanceId => exact sound.of_same (by simp) (by simp)
  | registered instanceId key generationId gpuMem uncancelled absent =>
      refine sound.of_notReady instanceId rfl ?_ ?_ ?_
      · intro other differ
        simp [differ]
      · simp [stateOf, absent]
      · simp [stateOf]
  | readied instanceId now inst found launching =>
      let entry : Instance :=
        { inst with
          state := .ready
          metadata := some (manager.readyMetadata inst now) }
      have entered : ({ manager with
          instances := manager.instances.set instanceId entry
          modelToInstances := manager.modelToInstances.set inst.key
            ((manager.instancesOf inst.key).insert instanceId) }).RoutingSound :=
        sound.enter instanceId entry
          (by simp [stateOf, found, launching])
          (fun other differ => by simp [differ])
          (by simp) rfl (by simp [entry]) rfl
      exact entered.of_same (by simp [entry]) (by simp)
  | decided instanceId identity => exact sound.modifyMetadata _
  | startStopped instanceId =>
      have cancelled : ({ manager with
          cancelledStartIds :=
            manager.cancelledStartIds.insert instanceId }).RoutingSound :=
        sound.of_same rfl rfl
      exact (cancelled.leaveRouting (by decide)).of_same rfl rfl
  | startCancelled instanceId => exact sound.of_same rfl rfl
  | cancellationCleared instanceId => exact sound.of_same rfl rfl
  | limited instanceId => exact (sound.modifyMetadata _).of_same rfl rfl
  | drained instanceId => exact sound.leaveRouting (by decide)
  | unhealthy instanceId => exact sound.leaveRouting (by decide)
  | unprobed instanceId => exact sound
  | claimed instanceId => exact (sound.leaveRouting (by decide)).of_same rfl rfl
  | claimCancelled instanceId inst found claimed stopping measured =>
      exact sound.enter instanceId { inst with state := .ready }
        (by simp [stateOf, found, stopping])
        (fun other differ => by simp [setState, differ])
        (by simp [setState, found]) rfl
        (by simpa using Option.isSome_iff_ne_none.mp measured) rfl
  | claimOwned instanceId => exact sound.of_same rfl rfl
  | stopBegun instanceId => exact sound.leaveRouting (by decide)
  | stopEnded instanceId confirmed stopping =>
      refine sound.of_notReady instanceId rfl ?_ ?_ ?_
      · intro other differ
        simp [setState, differ]
      · simp [stopping]
      · cases confirmed <;> simp [setState, stateOf]
  | forgotten instanceId stopped =>
      have forgotten : ({ manager.removeRoutingRegistration instanceId with
          instances := manager.instances.erase instanceId
          scaleInClaims := manager.scaleInClaims.filter (· ≠ instanceId)
          cancelledStartIds :=
            manager.cancelledStartIds.filter (· ≠ instanceId) }).RoutingSound := by
        refine sound.of_local instanceId ?_ ?_ ?_ ?_ ?_
        · intro other differ
          simp [differ]
        · intro key other differ
          exact (sound.mem_removeRoutingRegistration key other).trans
            (and_iff_left differ)
        · exact sound.distinct_removeRoutingRegistration
        · intro key
          refine (sound.mem_removeRoutingRegistration key instanceId).trans ?_
          simp [ReadyFor]
        · simp
      exact forgotten.of_same (by simp) (by simp)

end LlmInstanceManager

end Maze.Scheduler.ModelInstances
