import Mathlib.Data.List.Sort
import Mathlib.Data.List.Lex
import Maze.Library.Table
import Maze.Python.Number
import Maze.Python.Text

namespace Maze.Scheduler

open Maze.Python
open Maze.Library

/-!
# The resource manager

The manager knows the registered nodes with what they have in total and what is
available, the leases that are active and how many tasks run on each node. A
selection takes what it grants out of the available resources of one node; a
release and a registration compute them anew from the total and the leases. A
lease outlives the registration of its node.

Amounts are exact numbers. What Ray tells about its nodes, the models that are
found on the disk of the head and the id of a new lease come with each call.
-/

/-- The resources of one GPU. -/
structure GpuResource where
  gpuNum : ℚ
  gpuMem : ℚ
  gpuCapacity : Option ℚ
  deriving DecidableEq

/-- The resources of a node; the GPUs are listed by their ids. -/
structure NodeResources where
  cpu : ℚ
  cpuMem : ℚ
  gpuResource : Table ℤ GpuResource
  deriving DecidableEq

/-- `Node`, without the times at which it was seen. -/
structure Node where
  nodeIp : PyStr
  availableResources : NodeResources
  totalResources : NodeResources
  capabilities : PyDict

/--
`task_need_resources`: what is asked for, and the hints about where. Nobody asks
for less than nothing, and `select_node` asserts that it is at most one GPU.
-/
structure ResourceRequest where
  cpu : ℚ
  cpuMem : ℚ
  gpu : ℕ
  gpuMem : ℚ
  hints : PyDict
  cpu_nonneg : 0 ≤ cpu
  cpuMem_nonneg : 0 ≤ cpuMem
  gpuMem_nonneg : 0 ≤ gpuMem
  gpu_le_one : gpu ≤ 1

theorem nothing_nonneg :
    (0 : ℚ) ≤ 0 :=
  le_refl 0

theorem one_nonneg :
    (0 : ℚ) ≤ 1 :=
  zero_le_one

theorem no_gpu_le_one :
    0 ≤ 1 :=
  Nat.zero_le 1

/-- `reservation_kind`. -/
inductive ReservationKind where
  | task
  | instance_
  deriving DecidableEq

/-- An active lease. -/
structure Lease where
  reservationKind : ReservationKind
  nodeId : PyStr
  gpuId : Option ℤ
  resources : ResourceRequest

/-- The context of a workflow, and how many contexts prefer a node. -/
structure DagContexts where
  preferredNodes : Table PyStr PyStr
  nodeLoads : Table PyStr ℤ

/-- `SUPPORTED_SCHEDULING_POLICIES`. -/
inductive SchedulingPolicy where
  | default
  | leastLoaded
  | preferGpuFree
  | spread
  deriving DecidableEq

/-- `ResourceManager`. -/
structure ResourceManager where
  headNodeId : PyStr
  nodes : Table PyStr Node
  activeLeases : Table PyStr Lease
  runningTaskCounts : Table PyStr ℤ
  disabledNodeIds : List PyStr
  dagContexts : DagContexts
  schedulingPolicy : SchedulingPolicy

/-- A node as Ray knows it. -/
structure RayNode where
  alive : Bool
  address : Option PyStr

/-- What strings are turned into. -/
structure Strings where
  /-- `str(value)`. -/
  str : PyVal → PyStr
  /-- `text.lower()`. -/
  lower : PyStr → PyStr

namespace DagContexts

/-- `release_context`. -/
def release
    (contexts : DagContexts)
    (workflowId : PyStr) :
    DagContexts :=
  match contexts.preferredNodes.get? workflowId with
  | none => contexts
  | some nodeId =>
      { preferredNodes := contexts.preferredNodes.erase workflowId
        nodeLoads :=
          match contexts.nodeLoads.get? nodeId with
          | none => contexts.nodeLoads
          | some load =>
              if load - 1 ≤ 0 then contexts.nodeLoads.erase nodeId
              else contexts.nodeLoads.set nodeId (load - 1) }

/-- `release_node_contexts`. -/
def releaseNode
    (contexts : DagContexts)
    (nodeId : PyStr) :
    DagContexts :=
  (contexts.preferredNodes.entries.filter fun entry => entry.2 = nodeId).foldl
    (fun contexts entry => contexts.release entry.1) contexts

/-- `record_selection`. -/
def recordSelection
    (contexts : DagContexts)
    (workflowId : Option PyStr)
    (nodeId : PyStr) :
    DagContexts :=
  match workflowId with
  | none => contexts
  | some workflowId =>
      if workflowId.isEmpty || contexts.preferredNodes.contains workflowId then
        contexts
      else
        { preferredNodes := contexts.preferredNodes.set workflowId nodeId
          nodeLoads := contexts.nodeLoads.set nodeId
            ((contexts.nodeLoads.get? nodeId).getD 0 + 1) }

/-- The node that the context of a workflow prefers. -/
def preferredNode
    (contexts : DagContexts)
    (workflowId : Option PyStr) :
    Option PyStr :=
  match workflowId with
  | none => none
  | some workflowId =>
      if workflowId.isEmpty then none
      else contexts.preferredNodes.get? workflowId

end DagContexts

namespace ResourceManager

/-! ## Computing what is available -/

/-- What the leases on a node have reserved, as the loop collects it. -/
structure Reserved where
  cpu : ℚ
  cpuMem : ℚ
  gpus : Table ℤ (ℚ × ℚ)

/-- What is reserved of a GPU: its number and its memory. -/
def Reserved.ofGpu
    (reserved : Reserved)
    (gpuId : ℤ) :
    ℚ × ℚ :=
  (reserved.gpus.get? gpuId).getD (0, 0)

/-- One round of the loop over the leases. -/
def reserve
    (nodeId : PyStr)
    (reserved : Reserved)
    (lease : Lease) :
    Reserved :=
  if lease.nodeId = nodeId then
    { cpu := reserved.cpu + lease.resources.cpu
      cpuMem := reserved.cpuMem + lease.resources.cpuMem
      gpus :=
        match lease.gpuId with
        | none => reserved.gpus
        | some gpuId =>
            let old := reserved.ofGpu gpuId
            reserved.gpus.set gpuId
              (old.1 + lease.resources.gpu, old.2 + lease.resources.gpuMem) }
  else
    reserved

/-- The loop over the leases. -/
def reservedOn
    (activeLeases : Table PyStr Lease)
    (nodeId : PyStr) :
    Reserved :=
  (activeLeases.entries.map Prod.snd).foldl (reserve nodeId) ⟨0, 0, Table.empty⟩

/-- What the reservations leave of the resources of a node. -/
def leftOf
    (total : NodeResources)
    (reserved : Reserved) :
    NodeResources where
  cpu := max 0 (total.cpu - reserved.cpu)
  cpuMem := max 0 (total.cpuMem - reserved.cpuMem)
  gpuResource := total.gpuResource.mapValues fun gpuId gpu =>
    { gpu with
      gpuNum := max 0 (gpu.gpuNum - (reserved.ofGpu gpuId).1)
      gpuMem := max 0 (gpu.gpuMem - (reserved.ofGpu gpuId).2) }

/-- `_recompute_node_available_resources`. -/
def recomputeNodeAvailableResources
    (manager : ResourceManager)
    (nodeId : PyStr) :
    ResourceManager :=
  { manager with
    nodes := manager.nodes.modify nodeId fun node =>
      { node with
        availableResources :=
          leftOf node.totalResources (reservedOn manager.activeLeases nodeId) } }

/-- `running_task_counts.get(node_id, 0)`. -/
def runningTaskCount
    (manager : ResourceManager)
    (nodeId : PyStr) :
    ℤ :=
  (manager.runningTaskCounts.get? nodeId).getD 0

/-- `release_lease`; without an id there is no lease. -/
def releaseLease
    (leaseId : Option PyStr)
    (manager : ResourceManager) :
    ResourceManager :=
  match leaseId.bind manager.activeLeases.get?, leaseId with
  | some lease, some leaseId =>
      let popped :=
        { manager with activeLeases := manager.activeLeases.erase leaseId }
      if popped.nodes.contains lease.nodeId then
        let counted :=
          if lease.reservationKind = .task then
            { popped with
              runningTaskCounts := popped.runningTaskCounts.set lease.nodeId
                (max 0 (popped.runningTaskCount lease.nodeId - 1)) }
          else
            popped
        counted.recomputeNodeAvailableResources lease.nodeId
      else
        popped
  | _, _ => manager

/-! ## Selecting a node -/

/-- Why a node is not taken. -/
inductive RejectReason where
  | nodeNotAlive
  | specifiedNodeUnavailable
  | avoidedAfterFailure
  | nodeDisabled
  | insufficientCpu
  | insufficientCpuMem
  | missingCapability
  | missingModel
  | modelBackendUnavailable
  | insufficientGpu
  | insufficientGpuMem
  deriving DecidableEq

/-- A registered node in the eyes of a selection. -/
structure Candidate where
  order : ℕ
  nodeId : PyStr
  node : Node
  rejectReasons : List RejectReason
  selectedGpuId : Option ℤ

/-- `for item in value`. -/
def iterate : PyVal → Except PyErr (List PyVal)
  | .list items => .ok items
  | .str text => .ok (text.chars.map fun char => .str ⟨[char]⟩)
  | .dict entries => .ok (entries.map fun entry => .str entry.1)
  | _ => .error .typeError

/-- `local_model_supports_backend`. -/
def localModelSupportsBackend
    (model : PyDict)
    (backend : PyVal) :
    Bool :=
  match model.get "backends" with
  | .list backends => backends.any fun other => PyVal.pyEq other backend
  | _ => PyVal.pyEq ((model.get "backend").orElse (.str "transformers")) backend

/-- The model that a node must have. -/
def requiredModel (modelAnchor : PyDict) : PyVal :=
  (modelAnchor.get "local_model").orElse (modelAnchor.get "model")

/-- `_is_node_alive`. -/
def isAlive
    (rayNodes : Table PyStr RayNode)
    (nodeId : PyStr) :
    Bool :=
  ((rayNodes.get? nodeId).map RayNode.alive).getD false

/-- `_refresh_head_local_models`, where the models have been scanned. -/
def refreshHeadLocalModels
    (localModels : PyVal)
    (manager : ResourceManager) :
    ResourceManager :=
  { manager with
    nodes := manager.nodes.modify manager.headNodeId fun node =>
      { node with capabilities := node.capabilities.set "local_models" localModels } }

/-- What a call of `select_node` is given, and what it meets. -/
structure SelectCall where
  request : ResourceRequest
  reservationKind : ReservationKind
  modelAnchor : PyDict
  workflowId : Option PyStr
  localModels : PyVal
  rayNodes : Option (Table PyStr RayNode)
  leaseId : PyStr

/-- The node that the request or its model asks for. -/
def targetNodeId
    (manager : ResourceManager)
    (call : SelectCall) :
    PyVal :=
  if call.modelAnchor.get "model_scope" = .str "head" then
    .str manager.headNodeId
  else
    (call.request.hints.get "node_id").orElse
      (call.request.hints.get "target_node_id")

/-- `target_node_id and node_id != target_node_id`. -/
def isElsewhere
    (target : PyVal)
    (nodeId : PyStr) :
    Bool :=
  target.truthy && target ≠ .str nodeId

section Selecting

variable (strings : Strings)

/-- `avoid_node_ids`, as a set of texts. -/
def avoidNodeIds (hints : PyDict) : Except PyErr (List PyStr) := do
  let items ← iterate ((hints.get "avoid_node_ids").orElse (.list []))
  return (items.filter PyVal.truthy).map fun item => item.text strings.str

/-- The backend that must support the model. -/
def requiredBackend (modelAnchor : PyDict) : PyStr :=
  let backend := (modelAnchor.get "backend").orElse
    ((modelAnchor.get "engine").orElse (.str "vllm"))
  strings.lower ⟨Number.strip (backend.text strings.str).chars⟩

/-- The required capability is missing; a key must be hashable. -/
def lacksCapability (hints capabilities : PyDict) : Except PyErr Bool :=
  match hints.get "required_capability" with
  | .str key => .ok (!key.isEmpty && !(capabilities.get key).truthy)
  | .list items => if items.isEmpty then .ok false else .error .typeError
  | .dict entries => if entries.isEmpty then .ok false else .error .typeError
  | other => .ok other.truthy

/-- What speaks against the models of a node. -/
def modelReasons (modelAnchor capabilities : PyDict) :
    Except PyErr (List RejectReason) :=
  let required := requiredModel modelAnchor
  if required.truthy then do
    let items ← iterate ((capabilities.get "local_models").orElse (.list []))
    let matching := items.filterMap fun
      | .dict model =>
          if PyVal.pyEq (PyDict.get model "id") required then some model else none
      | _ => none
    if matching.isEmpty then
      return [.missingModel]
    else if matching.any fun model =>
        localModelSupportsBackend model (.str (requiredBackend strings modelAnchor))
      then
      return []
    else
      return [.modelBackendUnavailable]
  else
    .ok []

/-- What speaks against the GPUs of a node, or the one that is taken. -/
def gpuChoice
    (request : ResourceRequest)
    (available : NodeResources) :
    List RejectReason × Option ℤ :=
  if 0 < request.gpu then
    let gpus := available.gpuResource
    let options := gpus.entries.filter fun entry =>
      request.gpuMem ≤ entry.2.gpuMem ∧ (request.gpu : ℚ) ≤ entry.2.gpuNum
    if gpus.sumOf GpuResource.gpuNum < request.gpu then
      ([.insufficientGpu], none)
    else
      match (options.map Prod.fst).insertionSort (· ≤ ·) with
      | [] => ([.insufficientGpuMem], none)
      | gpuId :: _ => ([], some gpuId)
  else
    ([], none)

/-- What the selection finds out about a node. -/
def candidate
    (manager : ResourceManager)
    (call : SelectCall)
    (avoided : List PyStr)
    (rayNodes : Table PyStr RayNode)
    (order : ℕ)
    (nodeId : PyStr)
    (node : Node) :
    Except PyErr Candidate := do
  let alive := isAlive rayNodes nodeId
  let disabled := decide (nodeId ∈ manager.disabledNodeIds)
  let targeted := decide (manager.targetNodeId call = .str nodeId)
  let available := node.availableResources
  let missing ← lacksCapability call.request.hints node.capabilities
  let models ← modelReasons strings call.modelAnchor node.capabilities
  let gpu := gpuChoice call.request available
  let listed (reason : RejectReason) (holds : Bool) : List RejectReason :=
    if holds then [reason] else []
  return {
    order := order
    nodeId := nodeId
    node := node
    rejectReasons :=
      listed .nodeNotAlive (!alive) ++
        listed .specifiedNodeUnavailable (!alive && targeted) ++
        listed .avoidedAfterFailure (decide (nodeId ∈ avoided)) ++
        listed .nodeDisabled disabled ++
        listed .specifiedNodeUnavailable (disabled && targeted) ++
        listed .insufficientCpu (available.cpu < call.request.cpu) ++
        listed .insufficientCpuMem (available.cpuMem < call.request.cpuMem) ++
        listed .missingCapability missing ++ models ++ gpu.1
    selectedGpuId := gpu.2 }

/-- The nodes that the selection looks at, in the order of their registration. -/
def candidates
    (manager : ResourceManager)
    (call : SelectCall)
    (avoided : List PyStr)
    (rayNodes : Table PyStr RayNode) :
    Except PyErr (List Candidate) :=
  (manager.nodes.entries.zipIdx.filter fun entry =>
      !isElsewhere (manager.targetNodeId call) entry.1.1).mapM fun entry =>
    manager.candidate strings call avoided rayNodes entry.2 entry.1.1 entry.1.2

end Selecting

/-- `_candidate_sort_key`; the address of the node decides last. -/
def candidateSortKey
    (manager : ResourceManager)
    (call : SelectCall)
    (candidate : Candidate) :
    List ℚ × List CodePoint :=
  let affinity := manager.dagContexts.preferredNode call.workflowId
  let rank : ℚ :=
    match affinity with
    | none => 0
    | some nodeId => if nodeId.isEmpty || candidate.nodeId = nodeId then 0 else 1
  let load : ℚ := (manager.dagContexts.nodeLoads.get? candidate.nodeId).getD 0
  let context : List ℚ :=
    match call.workflowId with
    | none => []
    | some workflowId => if workflowId.isEmpty then [] else [rank, load]
  let count : ℚ := manager.runningTaskCount candidate.nodeId
  let available := candidate.node.availableResources
  let byPlace := (context ++ [(candidate.order : ℚ)], [])
  match manager.schedulingPolicy with
  | .leastLoaded | .spread =>
      (context ++ [count, -available.cpu], candidate.node.nodeIp.chars)
  | .preferGpuFree =>
      if call.request.gpu = 0 then
        let free := available.gpuResource.sumOf GpuResource.gpuNum
        (context ++ [if 0 < free then 1 else 0, count],
          candidate.node.nodeIp.chars)
      else
        byPlace
  | .default => byPlace

/-- The first of the runnable candidates in the order of their keys. -/
def chosen
    (manager : ResourceManager)
    (call : SelectCall)
    (candidates : List Candidate) :
    Option Candidate :=
  ((candidates.filter fun candidate => candidate.rejectReasons.isEmpty).insertionSort
    fun first second =>
      let before := manager.candidateSortKey call first
      let after := manager.candidateSortKey call second
      before.1 < after.1 ∨ before.1 = after.1 ∧ before.2 ≤ after.2).head?

/-- The lease that a candidate gets. -/
def leaseOf
    (call : SelectCall)
    (candidate : Candidate) :
    Lease where
  reservationKind := call.reservationKind
  nodeId := candidate.nodeId
  gpuId := candidate.selectedGpuId
  resources := call.request

/-- What a lease takes from the available resources. -/
def take
    (request : ResourceRequest)
    (gpuId : Option ℤ)
    (available : NodeResources) :
    NodeResources where
  cpu := available.cpu - request.cpu
  cpuMem := available.cpuMem - request.cpuMem
  gpuResource :=
    match gpuId with
    | none => available.gpuResource
    | some gpuId =>
        available.gpuResource.modify gpuId fun gpu =>
          { gpu with
            gpuMem := gpu.gpuMem - request.gpuMem
            gpuNum := gpu.gpuNum - request.gpu }

/-- The part of `select_node` that grants the lease. -/
def grant
    (manager : ResourceManager)
    (call : SelectCall)
    (candidate : Candidate) :
    ResourceManager :=
  { manager with
    nodes := manager.nodes.modify candidate.nodeId fun node =>
      { node with
        availableResources :=
          take call.request candidate.selectedGpuId node.availableResources }
    runningTaskCounts :=
      if call.reservationKind = .task then
        manager.runningTaskCounts.set candidate.nodeId
          (manager.runningTaskCount candidate.nodeId + 1)
      else
        manager.runningTaskCounts
    activeLeases :=
      manager.activeLeases.set call.leaseId (leaseOf call candidate)
    dagContexts :=
      manager.dagContexts.recordSelection call.workflowId candidate.nodeId }

/-- `select_node`: the candidate that is granted, and what is left behind. -/
def selectNode
    (strings : Strings)
    (call : SelectCall)
    (manager : ResourceManager) :
    Except PyErr (Option Candidate) × ResourceManager :=
  match avoidNodeIds strings call.request.hints with
  | .error raised => (.error raised, manager)
  | .ok avoided =>
      let manager := manager.refreshHeadLocalModels call.localModels
      match call.rayNodes with
      | none => (.ok none, manager)
      | some rayNodes =>
          match manager.candidates strings call avoided rayNodes with
          | .error raised => (.error raised, manager)
          | .ok candidates =>
              match manager.chosen call candidates with
              | none => (.ok none, manager)
              | some candidate => (.ok (some candidate), manager.grant call candidate)

/-! ## Registering nodes -/

/-- `del self.nodes[node_id]`, with the node's marks and contexts. -/
def forgetNode
    (manager : ResourceManager)
    (nodeId : PyStr) :
    ResourceManager :=
  { manager with
    nodes := manager.nodes.erase nodeId
    disabledNodeIds := manager.disabledNodeIds.filter fun other => other ≠ nodeId
    dagContexts := manager.dagContexts.releaseNode nodeId }

/-- A node that is dead is forgotten with its count. -/
def dropNode
    (manager : ResourceManager)
    (nodeId : PyStr) :
    ResourceManager :=
  { manager.forgetNode nodeId with
    runningTaskCounts := manager.runningTaskCounts.erase nodeId }

/-- `first == second`, for two dictionaries of resources. -/
def sameResources (first second : NodeResources) : Bool :=
  first.cpu = second.cpu && first.cpuMem = second.cpuMem &&
    first.gpuResource.entries.length = second.gpuResource.entries.length &&
    first.gpuResource.entries.all fun entry =>
      second.gpuResource.get? entry.1 = some entry.2

/-- `Node.update_registration`. -/
def updateRegistration
    (node : Node)
    (nodeIp : PyStr)
    (resources : NodeResources)
    (capabilities : PyDict) :
    Node :=
  let seen :=
    { node with
      nodeIp := nodeIp
      capabilities := if capabilities.isEmpty then node.capabilities else capabilities }
  if sameResources resources node.totalResources then
    seen
  else
    let total := node.totalResources
    let available := node.availableResources
    let usedOf (amount : GpuResource → ℚ) (gpuId : ℤ) (gpu : GpuResource) : ℚ :=
      amount gpu - ((available.gpuResource.get? gpuId).map amount).getD 0
    { seen with
      totalResources := resources
      availableResources :=
        { cpu := max 0 (resources.cpu - (total.cpu - available.cpu))
          cpuMem := max 0 (resources.cpuMem - (total.cpuMem - available.cpuMem))
          gpuResource := resources.gpuResource.mapValues fun gpuId gpu =>
            match total.gpuResource.get? gpuId with
            | none => gpu
            | some old =>
                { gpu with
                  gpuNum := max 0
                    (gpu.gpuNum - usedOf GpuResource.gpuNum gpuId old)
                  gpuMem := max 0
                    (gpu.gpuMem - usedOf GpuResource.gpuMem gpuId old) } } }

/-- What a worker reports about itself. -/
structure Registration where
  nodeId : PyStr
  nodeIp : PyStr
  resources : NodeResources
  capabilities : PyDict

/-- The address that Ray gives counts more than the reported one. -/
def canonicalIp
    (registration : Registration)
    (rayNode : RayNode) :
    PyStr :=
  match rayNode.address with
  | none => registration.nodeIp
  | some address => if address.isEmpty then registration.nodeIp else address

/-- The dead nodes that had the address of the worker. -/
def staleNodeIds
    (manager : ResourceManager)
    (nodeId nodeIp : PyStr)
    (rayNodes : Table PyStr RayNode) :
    List PyStr :=
  (manager.nodes.entries.filter fun entry =>
    entry.1 ≠ nodeId ∧ entry.2.nodeIp = nodeIp ∧
      isAlive rayNodes entry.1 = false).map Prod.fst

/-- The tasks that hold a lease on a node. -/
def taskLeaseCount
    (activeLeases : Table PyStr Lease)
    (nodeId : PyStr) :
    ℕ :=
  activeLeases.sumOf fun lease =>
    if lease.reservationKind = .task ∧ lease.nodeId = nodeId then 1 else 0

/-- `start_worker`. -/
def startWorker
    (registration : Registration)
    (rayNodes : Option (Table PyStr RayNode))
    (manager : ResourceManager) :
    ResourceManager :=
  match rayNodes with
  | none => manager
  | some rayNodes =>
      match rayNodes.get? registration.nodeId with
      | none => manager
      | some rayNode =>
          if rayNode.alive then
            let nodeId := registration.nodeId
            let nodeIp := canonicalIp registration rayNode
            let capabilities : PyDict :=
              if registration.capabilities.isEmpty then
                [("workspace_sandbox", .bool true)]
              else
                registration.capabilities
            let cleared :=
              (manager.staleNodeIds nodeId nodeIp rayNodes).foldl dropNode manager
            let nodes :=
              match cleared.nodes.get? nodeId with
              | some node =>
                  cleared.nodes.set nodeId
                    (updateRegistration node nodeIp registration.resources
                      capabilities)
              | none =>
                  cleared.nodes.set nodeId
                    ⟨nodeIp, registration.resources, registration.resources,
                      capabilities⟩
            let registered :=
              { cleared with
                nodes := nodes
                runningTaskCounts := cleared.runningTaskCounts.set nodeId
                  (taskLeaseCount cleared.activeLeases nodeId) }
            registered.recomputeNodeAvailableResources nodeId
          else
            manager

/-- `check_dead_node`; it is due if the last check is long enough ago. -/
def checkDeadNode
    (due : Bool)
    (rayNodes : Option (Table PyStr RayNode))
    (manager : ResourceManager) :
    ResourceManager :=
  match rayNodes with
  | none => manager
  | some rayNodes =>
      if due then
        ((manager.nodes.entries.map Prod.fst).filter fun nodeId =>
          !isAlive rayNodes nodeId).foldl dropNode manager
      else
        manager

/-- `stop_worker`; the count of the node stays where it is. -/
def stopWorker
    (nodeId : PyStr)
    (manager : ResourceManager) :
    ResourceManager :=
  if manager.nodes.contains nodeId then manager.forgetNode nodeId else manager

/-- `set_node_disabled`, which shows the cluster afterwards. -/
def setNodeDisabled
    (nodeId : PyStr)
    (disabled : Bool)
    (localModels : PyVal)
    (manager : ResourceManager) :
    ResourceManager :=
  if nodeId = manager.headNodeId ∧ disabled = true then
    manager
  else if manager.nodes.contains nodeId then
    let others := manager.disabledNodeIds.filter fun other => other ≠ nodeId
    refreshHeadLocalModels localModels
      { manager with
        disabledNodeIds := if disabled then nodeId :: others else others }
  else
    manager

/-! ## Runs -/

/-- The calls of the resource manager. -/
inductive Action where
  | selectNode (call : SelectCall)
  | releaseLease (leaseId : Option PyStr)
  | startWorker
      (registration : Registration)
      (rayNodes : Option (Table PyStr RayNode))
  | checkDeadNode (due : Bool) (rayNodes : Option (Table PyStr RayNode))
  | stopWorker (nodeId : PyStr)
  | setNodeDisabled (nodeId : PyStr) (disabled : Bool) (localModels : PyVal)

/-- One call; the id of a new lease is not in use. -/
def step?
    (strings : Strings)
    (manager : ResourceManager) :
    Action → Option ResourceManager
  | .selectNode call =>
      if manager.activeLeases.contains call.leaseId then none
      else some (manager.selectNode strings call).2
  | .releaseLease leaseId => some (manager.releaseLease leaseId)
  | .startWorker registration rayNodes =>
      some (manager.startWorker registration rayNodes)
  | .checkDeadNode due rayNodes => some (manager.checkDeadNode due rayNodes)
  | .stopWorker nodeId => some (manager.stopWorker nodeId)
  | .setNodeDisabled nodeId disabled localModels =>
      some (manager.setNodeDisabled nodeId disabled localModels)

/-- What Ray and the GPUs tell about the head. -/
structure HeadNode where
  nodeId : PyStr
  nodeIp : PyStr
  resources : NodeResources
  localModels : PyVal
  cpu_nonneg : 0 ≤ resources.cpu
  cpuMem_nonneg : 0 ≤ resources.cpuMem
  gpu_nonneg :
    ∀ gpuId gpu, resources.gpuResource.get? gpuId = some gpu →
      0 ≤ gpu.gpuNum ∧ 0 ≤ gpu.gpuMem

/-- `init`: the head is registered and nothing is leased. -/
def initial
    (head : HeadNode)
    (schedulingPolicy : SchedulingPolicy) :
    ResourceManager where
  headNodeId := head.nodeId
  nodes := Table.empty.set head.nodeId
    ⟨head.nodeIp, head.resources, head.resources,
      [("workspace_sandbox", .bool true), ("local_models", head.localModels)]⟩
  activeLeases := Table.empty
  runningTaskCounts := Table.empty.set head.nodeId 0
  disabledNodeIds := []
  dagContexts := ⟨Table.empty, Table.empty⟩
  schedulingPolicy := schedulingPolicy

end ResourceManager

end Maze.Scheduler
