import Maze.Scheduler.ResourceAccounting

namespace Maze.Scheduler.ResourceManager

open Maze.Python
open Maze.Library
open Maze.Library.Transition

/-!
# The capacity gate

Before a GPU task is placed, `gpu_capacity_mib` finds the largest GPU that could
ever take it, and a task that asks for more is failed for good. The gate reads
the hints of the request and the anchor of the model on its own: it prefers
`target_node_id` where the placement prefers `node_id`, it looks for a node id in
`avoid_node_ids` as they were given, it takes the backend as it is written and
not from `engine`, and it knows the models that the head had when they were last
scanned.
-/

/-! ## The gate -/

/-- `text in value`. -/
def contains
    (value : PyVal)
    (text : PyStr) :
    Except PyErr Bool :=
  match value with
  | .list items => .ok (items.any fun item => PyVal.pyEq item (.str text))
  | .str other => .ok (decide (text.chars <:+: other.chars))
  | .dict entries => .ok (hasEntry entries)
  | _ => .error .typeError
where
  /-- The text is a key. -/
  hasEntry (entries : PyDict) : Bool :=
    (PyDict.get? entries text).isSome

/-- The node that the gate takes for the target. -/
def gateTarget
    (manager : ResourceManager)
    (hints modelAnchor : PyDict) :
    PyVal :=
  if modelAnchor.get "model_scope" = .str "head" then
    .str manager.headNodeId
  else
    (hints.get "target_node_id").orElse (hints.get "node_id")

/-- `any(item.get("id") == model and ...)`: it stops at the first that fits. -/
def anyModel
    (required backend : PyVal) :
    List PyVal → Except PyErr Bool
  | [] => .ok false
  | .dict model :: rest =>
      if PyVal.pyEq (PyDict.get model "id") required &&
          localModelSupportsBackend model backend then
        .ok true
      else
        anyModel required backend rest
  | _ :: _ => .error .attributeError

/-- Whether the gate finds the model on a node. -/
def hasModel (modelAnchor capabilities : PyDict) : Except PyErr Bool :=
  let required := requiredModel modelAnchor
  if required.truthy then do
    let items ← iterate ((capabilities.get? "local_models").getD (.list []))
    anyModel required ((modelAnchor.get? "backend").getD (.str "vllm")) items
  else
    .ok true

/-- Whether the gate counts the GPUs of a node. -/
def looksAt
    (manager : ResourceManager)
    (hints modelAnchor : PyDict)
    (nodeId : PyStr)
    (node : Node) :
    Except PyErr Bool :=
  if nodeId ∈ manager.disabledNodeIds ∨
      isElsewhere (manager.gateTarget hints modelAnchor) nodeId = true then
    .ok false
  else do
    let avoided ← contains ((hints.get? "avoid_node_ids").getD (.list [])) nodeId
    if avoided then
      return false
    else
      let found ← hasModel modelAnchor node.capabilities
      if found then
        let missing ← lacksCapability hints node.capabilities
        return !missing
      else
        return false

/-- `gpu.get("gpu_capacity")` of all GPUs of a node. -/
def capacitiesOf (node : Node) : List (Option ℚ) :=
  node.totalResources.gpuResource.entries.map fun entry => entry.2.gpuCapacity

/-- `bool(capacity)`. -/
def isKnown (capacity : Option ℚ) : Bool :=
  capacity.any fun amount => amount ≠ 0

/-- `max(capacities) if capacities and all(capacities) else None`. -/
def largest (capacities : List (Option ℚ)) : Option ℚ :=
  if capacities.all isKnown then (capacities.filterMap id).max? else none

/-- `gpu_capacity_mib`. -/
def gpuCapacityMib
    (hints modelAnchor : PyDict)
    (manager : ResourceManager) :
    Except PyErr (Option ℚ) := do
  let counted ← manager.nodes.entries.mapM fun entry => do
    let looked ← manager.looksAt hints modelAnchor entry.1 entry.2
    return if looked then capacitiesOf entry.2 else []
  return largest counted.flatten

/-! ## The placement when all leases are released -/

/-- Release every lease that is active. -/
def releaseAll (manager : ResourceManager) : ResourceManager :=
  (manager.activeLeases.entries.map Prod.fst).foldl
    (fun manager leaseId => manager.releaseLease (some leaseId)) manager

/-- The node that a selection gets once all leases are released. -/
def Places
    (strings : Strings)
    (manager : ResourceManager)
    (call : SelectCall)
    (candidate : Candidate) : Prop :=
  (manager.releaseAll.selectNode strings call).1 = .ok (some candidate)

/-- Every GPU reports a capacity, and not less than the memory it offers. -/
def ReportsCapacity (manager : ResourceManager) : Prop :=
  ∀ nodeId node gpuId gpu,
    manager.nodes.get? nodeId = some node →
    node.totalResources.gpuResource.get? gpuId = some gpu →
      ∃ capacity, gpu.gpuCapacity = some capacity ∧ gpu.gpuMem ≤ capacity

/-- `gpu_need` and `gpu_mem_need` of a task of kind `gpu`. -/
def IsGpuTask (request : ResourceRequest) : Prop :=
  request.gpu = 1 ∧ 0 < request.gpuMem

/-- A task that the placement accepts is let through by the gate. -/
def GateAgrees
    (strings : Strings)
    (manager : ResourceManager)
    (call : SelectCall) : Prop :=
  ∀ candidate, Places strings manager call candidate →
    ∃ capacity,
      manager.gpuCapacityMib call.request.hints call.modelAnchor = .ok capacity ∧
        ∀ amount, capacity = some amount → call.request.gpuMem ≤ amount

/-! ## When the gate reads a request as the placement does -/

/-- The gate can read the request and the models of every node. -/
def Readable
    (manager : ResourceManager)
    (hints modelAnchor : PyDict) : Prop :=
  ∀ nodeId node, manager.nodes.get? nodeId = some node →
    ∃ looked, manager.looksAt hints modelAnchor nodeId node = .ok looked

/-- The gate counts the GPUs of a registered node. -/
def LooksAt
    (manager : ResourceManager)
    (hints modelAnchor : PyDict)
    (nodeId : PyStr)
    (node : Node) : Prop :=
  manager.nodes.get? nodeId = some node ∧
    manager.looksAt hints modelAnchor nodeId node = .ok true

/-- The placement, with all leases released, has nothing against the node. -/
def Accepts
    (strings : Strings)
    (manager : ResourceManager)
    (call : SelectCall)
    (nodeId : PyStr) : Prop :=
  let seen := manager.releaseAll.refreshHeadLocalModels call.localModels
  isElsewhere (seen.targetNodeId call) nodeId = false ∧
    ∃ avoided rayNodes order node candidate,
      avoidNodeIds strings call.request.hints = .ok avoided ∧
        call.rayNodes = some rayNodes ∧
        seen.nodes.get? nodeId = some node ∧
        seen.candidate strings call avoided rayNodes order nodeId node =
          .ok candidate ∧
        candidate.rejectReasons = []

variable
  {manager : ResourceManager}
  {strings : Strings}
  {call : SelectCall}
  {nodeId : PyStr}
  {node : Node}

/--
Among the nodes that the gate looks at is one that the placement accepts; or else
it does not matter, because they have no GPU, one without a known capacity or one
that is large enough.
-/
structure ReadsAlike
    (strings : Strings)
    (manager : ResourceManager)
    (call : SelectCall) : Prop where
  readable : Readable manager call.request.hints call.modelAnchor
  alike :
    (∃ nodeId node,
        LooksAt manager call.request.hints call.modelAnchor nodeId node ∧
          Accepts strings manager call nodeId) ∨
      (∀ nodeId node,
        LooksAt manager call.request.hints call.modelAnchor nodeId node →
          capacitiesOf node = []) ∨
      ∃ nodeId node,
        LooksAt manager call.request.hints call.modelAnchor nodeId node ∧
          ∃ capacity ∈ capacitiesOf node,
            isKnown capacity = false ∨
              ∃ amount, capacity = some amount ∧ call.request.gpuMem ≤ amount

/-! ## Releasing all leases -/

theorem releaseAll_accounted
    (accounted : Accounted manager) :
    Accounted manager.releaseAll := by
  unfold releaseAll
  induction manager.activeLeases.entries.map Prod.fst generalizing manager with
  | nil =>
      exact accounted
  | cons leaseId rest inductionHypothesis =>
      exact inductionHypothesis (releaseLease_accounted accounted (some leaseId))

theorem releaseAll_registrations (manager : ResourceManager) :
    SameRegistrations manager manager.releaseAll := by
  unfold releaseAll
  generalize manager.activeLeases.entries.map Prod.fst = leaseIds
  induction leaseIds generalizing manager with
  | nil =>
      exact SameRegistrations.refl manager
  | cons leaseId rest inductionHypothesis =>
      exact (releaseLease_registrations (some leaseId) manager).trans
        (inductionHypothesis _)

/-- Leases that are released one after the other are gone. -/
theorem activeLeases_foldl_releaseLease
    (leaseIds : List PyStr)
    (manager : ResourceManager)
    (other : PyStr) :
    (leaseIds.foldl (fun manager leaseId => manager.releaseLease (some leaseId))
        manager).activeLeases.get? other =
      if other ∈ leaseIds then none else manager.activeLeases.get? other := by
  induction leaseIds generalizing manager with
  | nil =>
      simp
  | cons leaseId rest inductionHypothesis =>
      rw [List.foldl_cons, inductionHypothesis, activeLeases_releaseLease]
      by_cases here : other = leaseId
      · simp [here]
      · simp [here]

theorem activeLeases_releaseAll (manager : ResourceManager) :
    manager.releaseAll.activeLeases.entries = [] := by
  apply Table.entries_eq_nil
  intro other
  rw [releaseAll, activeLeases_foldl_releaseLease]
  split
  · rfl
  · next absent =>
    by_contra active
    obtain ⟨lease, found⟩ := Option.ne_none_iff_exists'.mp active
    apply absent
    exact List.mem_map.mpr
      ⟨(other, lease), (Table.get?_eq_some_iff _ _ _).mp found, rfl⟩

/-- With all leases released a GPU offers what it has in total. -/
theorem gpuMem_of_released
    (accounted : Accounted manager)
    (found : manager.releaseAll.nodes.get? nodeId = some node)
    {gpuId : ℤ}
    {left : GpuResource}
    (available : node.availableResources.gpuResource.get? gpuId = some left) :
    ∃ gpu, node.totalResources.gpuResource.get? gpuId = some gpu ∧
      left.gpuMem = max 0 gpu.gpuMem := by
  rw [(releaseAll_accounted accounted).available nodeId node found, availableFor,
    Table.get?_mapValues] at available
  obtain ⟨gpu, total, rfl⟩ := Option.map_eq_some_iff.mp available
  refine ⟨gpu, total, ?_⟩
  simp [heldOnGpu, Table.sumOf, activeLeases_releaseAll, remaining]

/-- A node that the placement accepts has a GPU of the capacity that is asked for. -/
theorem capacity_of_accepts
    (accounted : Accounted manager)
    (reports : ReportsCapacity manager)
    (isGpuTask : IsGpuTask call.request)
    (registered : manager.nodes.get? nodeId = some node)
    (accepts : Accepts strings manager call nodeId) :
    ∃ amount, some amount ∈ capacitiesOf node ∧ call.request.gpuMem ≤ amount := by
  obtain ⟨_, avoided, rayNodes, order, seen, candidate, _, _, found, made, runnable⟩ :=
    accepts
  obtain ⟨released, there, seenTotal, seenAvailable⟩ :=
    registered_of_refreshed found
  obtain ⟨old, here, total, _⟩ :=
    (releaseAll_registrations manager).nodes nodeId released there
  rw [registered, Option.some.injEq] at here
  subst here
  obtain ⟨_, fits⟩ := candidate_fits made runnable
  cases chosen : candidate.selectedGpuId with
  | none =>
      have none_ : call.request.gpu = 0 := by
        have gpu := fits.gpu
        rw [chosen] at gpu
        exact gpu
      exact absurd isGpuTask.1 (by rw [none_]; decide)
  | some gpuId =>
      have gpu := fits.gpu
      rw [chosen] at gpu
      obtain ⟨_, left, offered, enough, _⟩ := gpu
      rw [seenAvailable] at offered
      obtain ⟨gpu, inTotal, offers⟩ := gpuMem_of_released accounted there offered
      rw [total] at inTotal
      obtain ⟨capacity, reported, atLeast⟩ :=
        reports nodeId node gpuId gpu registered inTotal
      refine ⟨capacity, ?_, ?_⟩
      · exact List.mem_map.mpr
          ⟨(gpuId, gpu), (Table.get?_eq_some_iff _ _ _).mp inTotal, reported⟩
      · rw [offers] at enough
        rcases le_max_iff.mp enough with none_ | fits
        · exact absurd isGpuTask.2 (not_lt.mpr none_)
        · exact fits.trans atLeast

/-! ## What the gate finds -/

/-- The largest capacity lets a request through if one of them does. -/
theorem largest_covers_iff
    (capacities : List (Option ℚ))
    (need : ℚ) :
    (∀ amount, largest capacities = some amount → need ≤ amount) ↔
      capacities = [] ∨
        ∃ capacity ∈ capacities,
          isKnown capacity = false ∨
            ∃ amount, capacity = some amount ∧ need ≤ amount := by
  unfold largest
  by_cases known : capacities.all isKnown = true
  · simp only [known, if_true]
    constructor
    · intro covers
      cases top : (capacities.filterMap id).max? with
      | none =>
          left
          rw [List.max?_eq_none_iff] at top
          apply List.eq_nil_iff_forall_not_mem.mpr
          intro capacity inside
          cases capacity with
          | none =>
              exact absurd (List.all_eq_true.mp known none inside) (by decide)
          | some amount =>
              have there : amount ∈ capacities.filterMap id :=
                List.mem_filterMap.mpr ⟨some amount, inside, rfl⟩
              rw [top] at there
              cases there
      | some amount =>
          right
          obtain ⟨capacity, inside, same⟩ :=
            List.mem_filterMap.mp (List.max?_eq_some_iff.mp top).1
          exact ⟨capacity, inside, .inr ⟨amount, same, covers amount top⟩⟩
    · rintro (rfl | ⟨capacity, inside, unknown | ⟨amount, rfl, enough⟩⟩) top largest_
      · cases largest_
      · have knows := List.all_eq_true.mp known capacity inside
        rw [unknown] at knows
        cases knows
      · have there : amount ∈ capacities.filterMap id :=
          List.mem_filterMap.mpr ⟨some amount, inside, rfl⟩
        exact enough.trans ((List.max?_eq_some_iff.mp largest_).2 amount there)
  · simp only [known]
    constructor
    · intro _
      right
      simp only [List.all_eq_true, not_forall] at known
      obtain ⟨capacity, inside, unknown⟩ := known
      exact ⟨capacity, inside, .inl (by simpa using unknown)⟩
    · intro _ amount impossible
      cases impossible

/-- What the gate counts are the GPUs of the nodes that it looks at. -/
theorem mem_counted
    {hints modelAnchor : PyDict}
    {counted : List (List (Option ℚ))}
    (returned :
      (manager.nodes.entries.mapM fun entry => do
        let looked ← manager.looksAt hints modelAnchor entry.1 entry.2
        return if looked then capacitiesOf entry.2 else []) = .ok counted)
    (capacity : Option ℚ) :
    capacity ∈ counted.flatten ↔
      ∃ nodeId node, LooksAt manager hints modelAnchor nodeId node ∧
        capacity ∈ capacitiesOf node := by
  rw [List.mem_flatten]
  constructor
  · rintro ⟨capacities, member, inside⟩
    obtain ⟨⟨nodeId, node⟩, registered, made⟩ := mem_of_mapM returned member
    obtain ⟨looked, looks, same⟩ := bind_eq_ok.mp made
    cases looked with
    | false =>
        cases same
        cases inside
    | true =>
        cases same
        exact ⟨nodeId, node,
          ⟨(Table.get?_eq_some_iff _ _ _).mpr registered, looks⟩, inside⟩
  · rintro ⟨nodeId, node, ⟨registered, looks⟩, inside⟩
    obtain ⟨capacities, member, made⟩ := mem_mapM_of_mem returned
      ((Table.get?_eq_some_iff _ _ _).mp registered)
    obtain ⟨looked, lookedAt, same⟩ := bind_eq_ok.mp made
    dsimp only at lookedAt
    rw [looks] at lookedAt
    cases lookedAt
    cases same
    exact ⟨_, member, inside⟩

/-- The gate returns exactly if it can read every node. -/
theorem gpuCapacityMib_returns_iff
    {hints modelAnchor : PyDict} :
    (∃ capacity, manager.gpuCapacityMib hints modelAnchor = .ok capacity) ↔
      Readable manager hints modelAnchor := by
  constructor
  · rintro ⟨capacity, returned⟩ nodeId node registered
    obtain ⟨counted, called, _⟩ := bind_eq_ok.mp returned
    obtain ⟨_, _, made⟩ := mem_mapM_of_mem called
      ((Table.get?_eq_some_iff _ _ _).mp registered)
    obtain ⟨looked, looks, _⟩ := bind_eq_ok.mp made
    exact ⟨looked, looks⟩
  · intro readable
    obtain ⟨counted, called⟩ : ∃ counted,
        (manager.nodes.entries.mapM fun entry => do
          let looked ← manager.looksAt hints modelAnchor entry.1 entry.2
          return if looked then capacitiesOf entry.2 else []) =
          (.ok counted : Except PyErr _) := by
      apply mapM_of_forall
      rintro ⟨nodeId, node⟩ inside
      obtain ⟨looked, looks⟩ :=
        readable nodeId node ((Table.get?_eq_some_iff _ _ _).mpr inside)
      exact ⟨_, bind_eq_ok.mpr ⟨looked, looks, rfl⟩⟩
    exact ⟨_, bind_eq_ok.mpr ⟨counted, called, rfl⟩⟩

/-- When a request passes the gate. -/
theorem gate_passes_iff
    {hints modelAnchor : PyDict}
    (need : ℚ) :
    (∃ capacity,
        manager.gpuCapacityMib hints modelAnchor = .ok capacity ∧
          ∀ amount, capacity = some amount → need ≤ amount) ↔
      Readable manager hints modelAnchor ∧
        ((∀ nodeId node, LooksAt manager hints modelAnchor nodeId node →
            capacitiesOf node = []) ∨
          ∃ nodeId node, LooksAt manager hints modelAnchor nodeId node ∧
            ∃ capacity ∈ capacitiesOf node,
              isKnown capacity = false ∨
                ∃ amount, capacity = some amount ∧ need ≤ amount) := by
  have covers : ∀ counted : List (List (Option ℚ)),
      (manager.nodes.entries.mapM fun entry => do
        let looked ← manager.looksAt hints modelAnchor entry.1 entry.2
        return if looked then capacitiesOf entry.2 else []) = .ok counted →
      ((∀ amount, largest counted.flatten = some amount → need ≤ amount) ↔
        (∀ nodeId node, LooksAt manager hints modelAnchor nodeId node →
            capacitiesOf node = []) ∨
          ∃ nodeId node, LooksAt manager hints modelAnchor nodeId node ∧
            ∃ capacity ∈ capacitiesOf node,
              isKnown capacity = false ∨
                ∃ amount, capacity = some amount ∧ need ≤ amount) := by
    intro counted called
    have members := mem_counted called
    rw [largest_covers_iff]
    apply or_congr
    · constructor
      · intro nothing nodeId node looks
        apply List.eq_nil_iff_forall_not_mem.mpr
        intro capacity inside
        have there := (members capacity).mpr ⟨nodeId, node, looks, inside⟩
        rw [nothing] at there
        cases there
      · intro nothing
        apply List.eq_nil_iff_forall_not_mem.mpr
        intro capacity inside
        obtain ⟨nodeId, node, looks, there⟩ := (members capacity).mp inside
        rw [nothing nodeId node looks] at there
        cases there
    · constructor
      · rintro ⟨capacity, inside, enough⟩
        obtain ⟨nodeId, node, looks, there⟩ := (members capacity).mp inside
        exact ⟨nodeId, node, looks, capacity, there, enough⟩
      · rintro ⟨nodeId, node, looks, capacity, there, enough⟩
        exact ⟨capacity, (members capacity).mpr ⟨nodeId, node, looks, there⟩, enough⟩
  constructor
  · rintro ⟨capacity, returned, enough⟩
    refine ⟨gpuCapacityMib_returns_iff.mp ⟨capacity, returned⟩, ?_⟩
    obtain ⟨counted, called, same⟩ := bind_eq_ok.mp returned
    cases same
    exact (covers counted called).mp enough
  · rintro ⟨readable, large⟩
    obtain ⟨capacity, returned⟩ := gpuCapacityMib_returns_iff.mpr readable
    refine ⟨capacity, returned, ?_⟩
    obtain ⟨counted, called, same⟩ := bind_eq_ok.mp returned
    cases same
    exact (covers counted called).mpr large

/-! ## Requests that are read alike -/

/-- The target is named once, in whatever hint, or twice alike. -/
def NamesOneTarget (hints : PyDict) : Prop :=
  (hints.get "target_node_id").orElse (hints.get "node_id") =
    (hints.get "node_id").orElse (hints.get "target_node_id")

/-- `avoid_node_ids` lists node ids, if it is given. -/
def AvoidsNodes
    (hints : PyDict)
    (nodeIds : List PyStr) : Prop :=
  hints.get? "avoid_node_ids" = none ∧ nodeIds = [] ∨
    hints.get? "avoid_node_ids" = some (.list (nodeIds.map PyVal.str)) ∧
      ∀ nodeId ∈ nodeIds, nodeId.isEmpty = false

/-- Models are known by their dictionaries on every node. -/
def ListsModels (capabilities : PyDict) (models : List PyDict) : Prop :=
  capabilities.get? "local_models" = some (.list (models.map PyVal.dict))

/--
The request names one target and avoids nodes by their ids, the anchor spells its
backend out, and the models of the nodes are known as they are.
-/
structure PlainCall
    (strings : Strings)
    (manager : ResourceManager)
    (call : SelectCall) : Prop where
  target : NamesOneTarget call.request.hints
  avoids : ∃ nodeIds, AvoidsNodes call.request.hints nodeIds
  backend :
    (requiredModel call.modelAnchor).truthy = true →
      call.modelAnchor.get? "backend" =
        some (.str (requiredBackend strings call.modelAnchor))
  models :
    (requiredModel call.modelAnchor).truthy = true →
      ∀ nodeId node, manager.nodes.get? nodeId = some node →
        ∃ models, ListsModels node.capabilities models
  current :
    ∀ node, manager.nodes.get? manager.headNodeId = some node →
      node.capabilities.get? "local_models" = some call.localModels

theorem set_of_get?
    {entries : PyDict}
    {key : PyStr}
    {value : PyVal}
    (found : entries.get? key = some value) :
    entries.set key value = entries := by
  induction entries with
  | nil =>
      cases found
  | cons entry rest inductionHypothesis =>
      obtain ⟨other, old⟩ := entry
      rw [PyDict.get?_cons] at found
      by_cases here : key = other
      · rw [if_pos here, Option.some.injEq] at found
        simp [PyDict.set, here, found]
      · rw [if_neg here] at found
        simp [PyDict.set, Ne.symm here, inductionHypothesis found]

/-- Node ids that are listed are looked up the same way by both. -/
theorem avoidNodeIds_of_avoidsNodes
    (strings : Strings)
    {hints : PyDict}
    {nodeIds : List PyStr}
    (avoids : AvoidsNodes hints nodeIds) :
    avoidNodeIds strings hints = .ok nodeIds ∧
      ∀ nodeId, contains ((hints.get? "avoid_node_ids").getD (.list [])) nodeId =
        .ok (decide (nodeId ∈ nodeIds)) := by
  rcases avoids with ⟨absent, rfl⟩ | ⟨listed, named⟩
  · constructor
    · simp only [avoidNodeIds, PyDict.get, absent, Option.getD_none]
      rfl
    · intro nodeId
      simp [absent, contains]
  · constructor
    · have all : (nodeIds.map PyVal.str).filter PyVal.truthy =
          nodeIds.map PyVal.str := by
        apply List.filter_eq_self.mpr
        intro value inside
        obtain ⟨nodeId, member, rfl⟩ := List.mem_map.mp inside
        simp [PyVal.truthy, named nodeId member]
      have given : (hints.get "avoid_node_ids").orElse (.list []) =
          .list (nodeIds.map PyVal.str) := by
        rw [PyDict.get, listed, Option.getD_some]
        cases nodeIds <;> rfl
      rw [avoidNodeIds, given]
      change Except.ok _ = _
      rw [all, List.map_map, Except.ok.injEq]
      exact List.map_id nodeIds
    · intro nodeId
      simp only [listed, Option.getD_some, contains, Except.ok.injEq, List.any_map]
      rw [Bool.eq_iff_iff]
      simp [PyVal.pyEq]

/-- Of the listed models the gate finds one exactly if the placement finds it. -/
theorem anyModel_of_dicts
    (required backend : PyVal)
    (models : List PyDict) :
    anyModel required backend (models.map PyVal.dict) =
      .ok (models.any fun model =>
        PyVal.pyEq (model.get "id") required &&
          localModelSupportsBackend model backend) := by
  induction models with
  | nil =>
      rfl
  | cons model rest inductionHypothesis =>
      rw [List.map_cons, anyModel, inductionHypothesis, List.any_cons]
      split
      · next fits =>
        rw [fits, Bool.true_or]
      · next misses =>
        rw [Bool.not_eq_true] at misses
        rw [misses, Bool.false_or]

/-- Whether an unhashable capability is asked for depends on the hints alone. -/
theorem lacksCapability_returns
    {hints first : PyDict}
    {missing : Bool}
    (returned : lacksCapability hints first = .ok missing)
    (second : PyDict) :
    ∃ other, lacksCapability hints second = .ok other := by
  unfold lacksCapability at returned ⊢
  split at returned
  · exact ⟨_, rfl⟩
  · split at returned
    · next empty =>
      exact ⟨false, by simp [empty]⟩
    · cases returned
  · split at returned
    · next empty =>
      exact ⟨false, by simp [empty]⟩
    · cases returned
  · exact ⟨_, rfl⟩

theorem hasModel_of_listsModels
    {modelAnchor capabilities : PyDict}
    {backend : PyVal}
    {models : List PyDict}
    (required : (requiredModel modelAnchor).truthy = true)
    (spelled : modelAnchor.get? "backend" = some backend)
    (listed : ListsModels capabilities models) :
    hasModel modelAnchor capabilities =
      .ok (models.any fun model =>
        PyVal.pyEq (model.get "id") (requiredModel modelAnchor) &&
          localModelSupportsBackend model backend) := by
  unfold hasModel
  dsimp only
  rw [if_pos required, listed, spelled, Option.getD_some, Option.getD_some]
  exact anyModel_of_dicts _ _ models

/-- What the placement has found in the models the gate finds, too. -/
theorem hasModel_of_modelReasons
    {modelAnchor capabilities : PyDict}
    {models : List PyDict}
    (required : (requiredModel modelAnchor).truthy = true)
    (spelled :
      modelAnchor.get? "backend" =
        some (.str (requiredBackend strings modelAnchor)))
    (listed : ListsModels capabilities models)
    (suited : modelReasons strings modelAnchor capabilities = .ok []) :
    hasModel modelAnchor capabilities = .ok true := by
  rw [hasModel_of_listsModels required spelled listed, Except.ok.injEq,
    List.any_eq_true]
  have given : (capabilities.get "local_models").orElse (.list []) =
      .list (models.map PyVal.dict) := by
    rw [PyDict.get, listed, Option.getD_some]
    cases models <;> rfl
  unfold modelReasons at suited
  dsimp only at suited
  rw [if_pos required, given] at suited
  obtain ⟨items, iterated, suited⟩ := bind_eq_ok.mp suited
  cases iterated
  rw [List.filterMap_map] at suited
  split at suited
  · cases suited
  · split at suited
    · next supported =>
      obtain ⟨model, inside, supports⟩ := List.any_eq_true.mp supported
      obtain ⟨origin, member, kept⟩ := List.mem_filterMap.mp inside
      simp only [Function.comp_apply, Option.ite_none_right_eq_some,
        Option.some.injEq] at kept
      obtain ⟨same, rfl⟩ := kept
      exact ⟨origin, member, by rw [same, supports, Bool.true_and]⟩
    · cases suited

/-- A node that a plain call is placed on is one that the gate looks at. -/
theorem looksAt_of_plain
    (plain : PlainCall strings manager call)
    {avoided : List PyStr}
    (avoids : avoidNodeIds strings call.request.hints = .ok avoided)
    (registered : manager.nodes.get? nodeId = some node)
    (here : isElsewhere (manager.targetNodeId call) nodeId = false)
    (suits : Suits strings manager call avoided nodeId node.capabilities) :
    manager.looksAt call.request.hints call.modelAnchor nodeId node = .ok true := by
  obtain ⟨nodeIds, listed⟩ := plain.avoids
  obtain ⟨read, contained⟩ := avoidNodeIds_of_avoidsNodes strings listed
  rw [avoids, Except.ok.injEq] at read
  subst read
  have target : manager.gateTarget call.request.hints call.modelAnchor =
      manager.targetNodeId call := by
    unfold gateTarget targetNodeId
    rw [plain.target]
  have found : hasModel call.modelAnchor node.capabilities = .ok true := by
    by_cases required : (requiredModel call.modelAnchor).truthy = true
    · obtain ⟨models, known⟩ := plain.models required nodeId node registered
      exact hasModel_of_modelReasons required (plain.backend required) known
        suits.models
    · simp [hasModel, required]
  unfold looksAt
  rw [target, here, if_neg (by simpa using suits.enabled), contained,
    found, suits.capability]
  simp [suits.avoided, Bind.bind, Except.bind, Pure.pure, Except.pure]

/-- The gate can read a plain call where the placement has read it. -/
theorem readable_of_plain
    (plain : PlainCall strings manager call)
    {capabilities : PyDict}
    {missing : Bool}
    (read : lacksCapability call.request.hints capabilities = .ok missing) :
    Readable manager call.request.hints call.modelAnchor := by
  intro nodeId node registered
  obtain ⟨nodeIds, listed⟩ := plain.avoids
  obtain ⟨_, contained⟩ := avoidNodeIds_of_avoidsNodes strings listed
  obtain ⟨other, lacks⟩ := lacksCapability_returns read node.capabilities
  have found : ∃ found, hasModel call.modelAnchor node.capabilities = .ok found := by
    by_cases required : (requiredModel call.modelAnchor).truthy = true
    · obtain ⟨models, known⟩ := plain.models required nodeId node registered
      exact ⟨_, hasModel_of_listsModels required (plain.backend required) known⟩
    · exact ⟨true, by simp [hasModel, required]⟩
  obtain ⟨found, finds⟩ := found
  unfold looksAt
  rw [contained, finds, lacks]
  split
  · exact ⟨false, rfl⟩
  · cases decide (nodeId ∈ nodeIds) with
    | true =>
        exact ⟨false, rfl⟩
    | false =>
        cases found with
        | false =>
            exact ⟨false, rfl⟩
        | true =>
            exact ⟨!other, rfl⟩

/-- What the placement sees of a node is what the gate sees, but for the leases. -/
theorem registered_of_current
    {localModels : PyVal}
    (current :
      ∀ node, manager.nodes.get? manager.headNodeId = some node →
        node.capabilities.get? "local_models" = some localModels)
    (found :
      (manager.releaseAll.refreshHeadLocalModels localModels).nodes.get? nodeId =
        some node) :
    ∃ old, manager.nodes.get? nodeId = some old ∧
      node.capabilities = old.capabilities := by
  have same := releaseAll_registrations manager
  simp only [refreshHeadLocalModels, Table.get?_modify] at found
  split at found
  · next isHead =>
    obtain ⟨released, there, rfl⟩ := Option.map_eq_some_iff.mp found
    obtain ⟨old, here, _, capabilities⟩ := same.nodes nodeId released there
    refine ⟨old, here, ?_⟩
    rw [isHead, same.headNodeId] at here
    dsimp only
    rw [capabilities, set_of_get? (current old here)]
  · obtain ⟨old, here, _, capabilities⟩ := same.nodes nodeId node found
    exact ⟨old, here, capabilities⟩

/-- The gate agrees with the placement on every plain call. -/
theorem plainCall_agrees
    (accounted : Accounted manager)
    (reports : ReportsCapacity manager)
    (isGpuTask : IsGpuTask call.request)
    (plain : PlainCall strings manager call) :
    GateAgrees strings manager call := by
  intro candidate placed
  rcases selectNode_cases strings manager.releaseAll call with
    ⟨refused, _⟩ |
      ⟨avoided, rayNodes, found, first, avoids, queried, listed, picked, _⟩
  · exact absurd placed (refused candidate)
  · obtain ⟨member, runnable⟩ := chosen_mem picked
    obtain ⟨order, nodeId, node, seen, here, made⟩ := mem_candidates listed member
    have suits := candidate_suits made runnable
    have same := releaseAll_registrations manager
    obtain ⟨old, registered, capabilities⟩ :=
      registered_of_current plain.current seen
    have target :
        (manager.releaseAll.refreshHeadLocalModels call.localModels).targetNodeId
          call = manager.targetNodeId call := by
      unfold targetNodeId
      rw [show (manager.releaseAll.refreshHeadLocalModels
        call.localModels).headNodeId = manager.headNodeId from same.headNodeId]
    have suitsHere : Suits strings manager call avoided nodeId old.capabilities :=
      ⟨suits.avoided, same.disabledNodeIds ▸ suits.enabled,
        capabilities ▸ suits.capability, capabilities ▸ suits.models⟩
    have looks := looksAt_of_plain plain avoids registered (target ▸ here) suitsHere
    obtain ⟨amount, inside, enough⟩ := capacity_of_accepts accounted reports isGpuTask
      registered ⟨here, avoided, rayNodes, order, node, first, avoids, queried, seen,
        made, runnable⟩
    apply (gate_passes_iff _).mpr
    exact ⟨readable_of_plain plain suitsHere.capability, .inr
      ⟨nodeId, old, ⟨registered, looks⟩, some amount, inside,
        .inr ⟨amount, rfl, enough⟩⟩⟩

/-! ### A small and a large worker -/

/-- A worker with one GPU of the given memory. -/
def gpuWorker
    (nodeId : PyStr)
    (gpuMem : ℚ)
    (capabilities : PyDict) :
    Registration where
  nodeId := nodeId
  nodeIp := nodeId
  resources := ⟨8, 0, Table.empty.set 0 ⟨1, gpuMem, some gpuMem⟩⟩
  capabilities := capabilities

/-- The head and both workers are alive. -/
def threeAlive : Table PyStr RayNode :=
  (bothAlive.set "small" ⟨true, none⟩).set "large" ⟨true, none⟩

/-- The workers register with what they can do. -/
def registering (small large : PyDict) : List Action :=
  [.startWorker (gpuWorker "small" 8000 small) (some threeAlive),
    .startWorker (gpuWorker "large" 24000 large) (some threeAlive)]

/-- The manager that knows both workers. -/
def twoWorkers (small large : PyDict) : ResourceManager :=
  ((initial plainHead .default).startWorker (gpuWorker "small" 8000 small)
    (some threeAlive)).startWorker (gpuWorker "large" 24000 large) (some threeAlive)

/-- A task that only the large worker can take. -/
def largeCall (hints modelAnchor : PyDict) : SelectCall :=
  { gpuCall "first" with
    request :=
      { gpuRequest with
        gpuMem := 16000
        hints := hints
        gpuMem_nonneg := by norm_num }
    modelAnchor := modelAnchor
    rayNodes := some threeAlive }

/-- The hints name two nodes; the placement takes the first, the gate the second. -/
def twoTargets : PyDict :=
  [("node_id", .str "large"), ("target_node_id", .str "small")]

/-- A model that runs with one backend. -/
def modelFor (backend : PyStr) : PyDict :=
  [("local_models", .list
    [.dict [("id", .str "model"), ("backends", .list [.str backend])]])]

/-- The backend is named by the engine, which the gate does not read. -/
def engineAnchor : PyDict :=
  [("local_model", .str "model"), ("engine", .str "transformers")]

/-- Every GPU of the table reports enough. -/
theorem reportsCapacity_of_all
    (all :
      (manager.nodes.entries.all fun entry =>
        entry.2.totalResources.gpuResource.entries.all fun gpu =>
          gpu.2.gpuCapacity.any fun capacity => gpu.2.gpuMem ≤ capacity) = true) :
    ReportsCapacity manager := by
  intro nodeId node gpuId gpu registered total
  have node_ := List.all_eq_true.mp all _ ((Table.get?_eq_some_iff _ _ _).mp registered)
  have gpu_ := List.all_eq_true.mp node_ _ ((Table.get?_eq_some_iff _ _ _).mp total)
  obtain ⟨capacity, reported, enough⟩ := (Option.any_eq_true _ _).mp gpu_
  exact ⟨capacity, reported, by simpa using enough⟩

theorem twoWorkers_registered (small large : PyDict) :
    run? (step? plainStrings) (initial plainHead .default)
        (registering small large) =
      some (twoWorkers small large) := rfl

/-- A task that is placed and that the gate finds too large. -/
theorem not_agrees_of_small
    {amount : ℚ}
    (placed : grants (manager.releaseAll.selectNode strings call).1 = true)
    (limit :
      manager.gpuCapacityMib call.request.hints call.modelAnchor =
        .ok (some amount))
    (small : amount < call.request.gpuMem) :
    ¬ GateAgrees strings manager call := by
  intro agrees
  unfold grants at placed
  split at placed
  · next candidate granted =>
    obtain ⟨capacity, returned, enough⟩ := agrees candidate granted
    rw [limit, Except.ok.injEq] at returned
    exact absurd (enough amount returned.symm) (not_le.mpr small)
  · cases placed

end Maze.Scheduler.ResourceManager
