import Mathlib.Algebra.Order.BigOperators.Group.List
import Mathlib.Data.Prod.Lex
import Maze.Scheduler.ResourceAccounting

namespace Maze.Scheduler.ResourceManager

open Maze.Python
open Maze.Library
open Maze.Library.Transition

/-!
# The placement of a request

`select_node` collects what speaks against each registered node that it looks at, and
takes the first of the others in the order of their keys. It takes a node exactly if one is
feasible, and then no feasible node has a smaller key.
-/

/-! ## What a request needs of a node -/

/-- The node has the capability that is required, if there is one. -/
def HasCapability (hints capabilities : PyDict) : Prop :=
  (hints.get "required_capability").truthy = true →
    ∃ key, hints.get "required_capability" = .str key ∧ (capabilities.get key).truthy = true

/-- The node has the model that is required, with its backend, if there is one. -/
def HasModel
    (strings : Strings)
    (modelAnchor capabilities : PyDict) : Prop :=
  (requiredModel modelAnchor).truthy = true →
    ∃ items model, iterate ((capabilities.get "local_models").orElse (.list [])) = .ok items ∧
      .dict model ∈ items ∧
      PyVal.pyEq (PyDict.get model "id") (requiredModel modelAnchor) = true ∧
      localModelSupportsBackend model (.str (requiredBackend strings modelAnchor)) = true

/-- The node is registered, and the request does not ask for another one. -/
structure Considered
    (manager : ResourceManager)
    (call : SelectCall)
    (nodeId : PyStr)
    (node : Node) : Prop where
  registered : manager.nodes.get? nodeId = some node
  targeted : isElsewhere (manager.targetNodeId call) nodeId = false

/--
A pair of a node and a GPU that the request allows: the node is registered, alive, neither
disabled nor avoided, is the target if there is one, has the capability and the model, and
has every amount available, those of a GPU on the one GPU.
-/
structure Feasible
    (strings : Strings)
    (manager : ResourceManager)
    (call : SelectCall)
    (nodeId : PyStr)
    (node : Node)
    (gpuId : Option ℤ) : Prop extends Considered manager call nodeId node where
  alive : ∃ rayNodes, call.rayNodes = some rayNodes ∧ isAlive rayNodes nodeId = true
  enabled : nodeId ∉ manager.disabledNodeIds
  kept : ∀ avoided, avoidNodeIds strings call.request.hints = .ok avoided → nodeId ∉ avoided
  capability : HasCapability call.request.hints node.capabilities
  model : HasModel strings call.modelAnchor node.capabilities
  fits : Fits call.request gpuId node.availableResources

/-- The models of the node can be looked through for the one that is required. -/
def ModelsReadable (modelAnchor capabilities : PyDict) : Prop :=
  (requiredModel modelAnchor).truthy = true →
    ∃ items, iterate ((capabilities.get "local_models").orElse (.list [])) = .ok items

/-- The capability that is required can be looked up. -/
def CapabilityReadable (hints : PyDict) : Prop :=
  (hints.get "required_capability").truthy = true →
    (hints.get "required_capability").hashable = true

/--
The hints and the models have the types that the selection relies on: the nodes to avoid can
be iterated over, and for the nodes that Ray is asked about the capability can be looked up
and the models can be iterated over.
-/
structure CallReadable
    (strings : Strings)
    (manager : ResourceManager)
    (call : SelectCall) : Prop where
  avoids : ∃ avoided, avoidNodeIds strings call.request.hints = .ok avoided
  nodes : call.rayNodes.isSome = true → ∀ nodeId node, Considered manager call nodeId node →
    CapabilityReadable call.request.hints ∧ ModelsReadable call.modelAnchor node.capabilities

/-- The key of a feasible node that is registered at a place. -/
def keyAt
    (manager : ResourceManager)
    (call : SelectCall)
    (order : ℕ)
    (nodeId : PyStr)
    (node : Node) :
    List ℚ × List CodePoint :=
  manager.candidateSortKey call ⟨order, nodeId, node, [], none⟩

/-- `first < second`, for two keys. -/
def KeyLT (first second : List ℚ × List CodePoint) : Prop :=
  first.1 < second.1 ∨ first.1 = second.1 ∧ first.2 < second.2

/-- What is selected is feasible, with the least GPU, and no feasible node has a smaller key. -/
structure Placed
    (strings : Strings)
    (manager : ResourceManager)
    (call : SelectCall)
    (candidate : Candidate) : Prop where
  feasible : Feasible strings manager call candidate.nodeId candidate.node
    candidate.selectedGpuId
  place : manager.nodes.entries[candidate.order]? = some (candidate.nodeId, candidate.node)
  leastGpu : ∀ gpuId other, candidate.selectedGpuId = some gpuId →
    Feasible strings manager call candidate.nodeId candidate.node (some other) → gpuId ≤ other
  leastKey : ∀ order nodeId node gpuId,
    manager.nodes.entries[order]? = some (nodeId, node) →
    Feasible strings manager call nodeId node gpuId →
      ¬KeyLT (manager.keyAt call order nodeId node)
        (manager.keyAt call candidate.order candidate.nodeId candidate.node)

/-! ## The checks of one node -/

theorem lacksCapability_iff (hints capabilities : PyDict) :
    (lacksCapability hints capabilities = .ok false ↔
        CapabilityReadable hints ∧ HasCapability hints capabilities) ∧
      ((∃ missing, lacksCapability hints capabilities = .ok missing) ↔
        CapabilityReadable hints) := by
  unfold lacksCapability HasCapability CapabilityReadable
  cases hints.get "required_capability" with
  | str key =>
      simp [PyVal.truthy, PyVal.hashable]
  | list items =>
      cases items <;> simp [PyVal.truthy, PyVal.hashable]
  | dict entries =>
      cases entries <;> simp [PyVal.truthy, PyVal.hashable]
  | null | bool | int | float =>
      simp [PyVal.hashable]

/-- The model of an entry, if it is the one that is asked for. -/
def offeredModel (modelAnchor : PyDict) : PyVal → Option PyDict
  | .dict model =>
      if PyVal.pyEq (PyDict.get model "id") (requiredModel modelAnchor) then some model else none
  | _ => none

theorem mem_offeredModels
    (modelAnchor : PyDict)
    (items : List PyVal)
    (model : PyDict) :
    model ∈ items.filterMap (offeredModel modelAnchor) ↔
      .dict model ∈ items ∧
        PyVal.pyEq (PyDict.get model "id") (requiredModel modelAnchor) = true := by
  rw [List.mem_filterMap]
  constructor
  · rintro ⟨item, inside, made⟩
    cases item with
    | dict entries =>
        simp only [offeredModel, Option.ite_none_right_eq_some, Option.some.injEq] at made
        obtain ⟨same, rfl⟩ := made
        exact ⟨inside, same⟩
    | _ => cases made
  · rintro ⟨inside, same⟩
    exact ⟨_, inside, if_pos same⟩

/-- Where the models are listed, one of those asked for is missing, has the backend, or not. -/
theorem modelReasons_of_listed
    {strings : Strings}
    {modelAnchor capabilities : PyDict}
    {items : List PyVal}
    (needed : (requiredModel modelAnchor).truthy = true)
    (listed : iterate ((capabilities.get "local_models").orElse (.list [])) = .ok items) :
    ∃ reasons, modelReasons strings modelAnchor capabilities = .ok reasons ∧
      (reasons = [] ↔ (items.filterMap (offeredModel modelAnchor)).any (fun model =>
        localModelSupportsBackend model (.str (requiredBackend strings modelAnchor))) = true) := by
  have returned : modelReasons strings modelAnchor capabilities =
      if (items.filterMap (offeredModel modelAnchor)).isEmpty then .ok [.missingModel]
      else if (items.filterMap (offeredModel modelAnchor)).any fun model =>
          localModelSupportsBackend model (.str (requiredBackend strings modelAnchor)) then
        .ok []
      else .ok [.modelBackendUnavailable] := by
    unfold modelReasons
    rw [if_pos needed, listed]
    rfl
  rw [returned]
  split
  · next none =>
    refine ⟨_, rfl, ?_⟩
    rw [List.isEmpty_iff.mp none]
    simp
  · split
    · next some => exact ⟨_, rfl, iff_of_true rfl some⟩
    · next none => exact ⟨_, rfl, iff_of_false (fun same => by cases same) none⟩

theorem modelReasons_iff
    (strings : Strings)
    (modelAnchor capabilities : PyDict) :
    (modelReasons strings modelAnchor capabilities = .ok [] ↔
        HasModel strings modelAnchor capabilities) ∧
      ((∃ reasons, modelReasons strings modelAnchor capabilities = .ok reasons) ↔
        ModelsReadable modelAnchor capabilities) := by
  unfold HasModel ModelsReadable
  by_cases needed : (requiredModel modelAnchor).truthy = true
  swap
  · simp [modelReasons, needed]
  simp only [needed, true_implies]
  cases listed : iterate ((capabilities.get "local_models").orElse (.list [])) with
  | error raised =>
      have raises : modelReasons strings modelAnchor capabilities = .error raised := by
        unfold modelReasons
        rw [if_pos needed, listed]
        rfl
      simp [raises]
  | ok items =>
      obtain ⟨reasons, returned, found⟩ : ∃ reasons,
          modelReasons strings modelAnchor capabilities = .ok reasons ∧ _ :=
        modelReasons_of_listed needed listed
      rw [returned, Except.ok.injEq, found, List.any_eq_true]
      refine ⟨?_, iff_of_true ⟨reasons, rfl⟩ ⟨items, rfl⟩⟩
      constructor
      · rintro ⟨model, offered, supports⟩
        obtain ⟨inside, named⟩ := (mem_offeredModels modelAnchor items model).mp offered
        exact ⟨items, model, rfl, inside, named, supports⟩
      · rintro ⟨_, model, same, inside, named, supports⟩
        cases same
        exact ⟨model, (mem_offeredModels modelAnchor items model).mpr ⟨inside, named⟩, supports⟩

/-- The amounts that are available are not negative. -/
def Nonnegative (manager : ResourceManager) : Prop :=
  ∀ nodeId node gpuId gpu, manager.nodes.get? nodeId = some node →
    node.availableResources.gpuResource.get? gpuId = some gpu → 0 ≤ gpu.gpuNum

/-- The GPUs that have what is asked for. -/
def gpuOptions
    (request : ResourceRequest)
    (available : NodeResources) :
    List ℤ :=
  (available.gpuResource.entries.filter fun entry =>
    request.gpuMem ≤ entry.2.gpuMem ∧ (request.gpu : ℚ) ≤ entry.2.gpuNum).map Prod.fst

theorem mem_gpuOptions
    {request : ResourceRequest}
    {available : NodeResources}
    {gpuId : ℤ}
    (fits : FitsGpu request available (some gpuId)) :
    gpuId ∈ gpuOptions request available := by
  obtain ⟨one, gpu, found, memory, count⟩ := fits
  refine List.mem_map.mpr ⟨(gpuId, gpu), List.mem_filter.mpr ⟨?_, ?_⟩, rfl⟩
  · exact (Table.get?_eq_some_iff _ _ _).mp found
  · rw [one]
    simpa using ⟨memory, count⟩

/-- The first of the GPUs is the least that has what is asked for. -/
theorem gpuChoice_least
    {request : ResourceRequest}
    {available : NodeResources}
    {gpuId other : ℤ}
    {reasons : List RejectReason}
    (choice : gpuChoice request available = (reasons, some gpuId))
    (fits : FitsGpu request available (some other)) :
    gpuId ≤ other := by
  have inside := mem_gpuOptions fits
  rw [← List.mem_insertionSort (· ≤ ·)] at inside
  have sorted := List.pairwise_insertionSort (· ≤ ·) (gpuOptions request available)
  unfold gpuChoice at choice
  rw [if_pos (by rw [fits.1]; exact Nat.one_pos)] at choice
  dsimp only at choice
  split at choice
  · cases choice
  · split at choice
    · cases choice
    · next first rest listed =>
      cases choice
      change (gpuOptions request available).insertionSort (· ≤ ·) = gpuId :: rest at listed
      rw [listed] at inside sorted
      rcases List.mem_cons.mp inside with rfl | later
      · exact le_rfl
      · exact (List.pairwise_cons.mp sorted).1 other later

/-- Where a GPU has what is asked for, one is chosen. -/
theorem gpuChoice_of_fits
    {request : ResourceRequest}
    {available : NodeResources}
    {gpuId : Option ℤ}
    (nonneg : ∀ id gpu, available.gpuResource.get? id = some gpu → 0 ≤ gpu.gpuNum)
    (fits : FitsGpu request available gpuId) :
    ∃ chosen, gpuChoice request available = ([], chosen) := by
  cases gpuId with
  | none =>
      refine ⟨none, if_neg ?_⟩
      rw [show request.gpu = 0 from fits]
      exact Nat.lt_irrefl 0
  | some gpuId =>
      have inside := mem_gpuOptions fits
      obtain ⟨one, gpu, found, _, count⟩ := fits
      have enough : (request.gpu : ℚ) ≤ available.gpuResource.sumOf GpuResource.gpuNum := by
        rw [one, Nat.cast_one]
        refine count.trans (List.single_le_sum ?_ _ ?_)
        · intro amount listed
          obtain ⟨entry, member, rfl⟩ := List.mem_map.mp listed
          exact nonneg entry.1 entry.2 ((Table.get?_eq_some_iff _ _ _).mpr member)
        · exact List.mem_map.mpr
            ⟨(gpuId, gpu), (Table.get?_eq_some_iff _ _ _).mp found, rfl⟩
      unfold gpuChoice
      rw [if_pos (by omega)]
      dsimp only
      rw [if_neg (not_lt.mpr enough)]
      rw [← List.mem_insertionSort (· ≤ ·)] at inside
      split
      · next listed =>
        rw [gpuOptions, listed] at inside
        cases inside
      · exact ⟨_, rfl⟩

section Node

variable {strings : Strings} {manager : ResourceManager} {call : SelectCall}
  {avoided : List PyStr} {rayNodes : Table PyStr RayNode} {order : ℕ} {nodeId : PyStr}
  {node : Node}

/-- A candidate is made of a node whose capabilities can be read. -/
theorem candidate_returns :
    (∃ candidate,
        manager.candidate strings call avoided rayNodes order nodeId node = .ok candidate) ↔
      CapabilityReadable call.request.hints ∧
        ModelsReadable call.modelAnchor node.capabilities := by
  rw [← (lacksCapability_iff call.request.hints node.capabilities).2,
    ← (modelReasons_iff strings call.modelAnchor node.capabilities).2]
  constructor
  · rintro ⟨candidate, made⟩
    obtain ⟨missing, lacks, made⟩ := bind_eq_ok.mp made
    obtain ⟨models, reasons, _⟩ := bind_eq_ok.mp made
    exact ⟨⟨missing, lacks⟩, models, reasons⟩
  · rintro ⟨⟨missing, lacks⟩, models, reasons⟩
    unfold candidate
    dsimp only
    rw [lacks, reasons]
    exact ⟨_, rfl⟩

/-- What a candidate keeps of its node, and its key. -/
theorem candidate_fields
    {candidate : Candidate}
    (made : manager.candidate strings call avoided rayNodes order nodeId node =
      .ok candidate) :
    candidate.order = order ∧ candidate.nodeId = nodeId ∧ candidate.node = node ∧
      ∃ reasons, gpuChoice call.request node.availableResources =
        (reasons, candidate.selectedGpuId) := by
  obtain ⟨missing, _, made⟩ := bind_eq_ok.mp made
  obtain ⟨models, _, same⟩ := bind_eq_ok.mp made
  cases same
  exact ⟨rfl, rfl, rfl, _, rfl⟩

/-- Nothing speaks against a node exactly if it is feasible. -/
theorem candidate_runnable_iff
    {candidate : Candidate}
    (nonneg : ∀ id gpu, node.availableResources.gpuResource.get? id = some gpu →
      0 ≤ gpu.gpuNum)
    (avoids : avoidNodeIds strings call.request.hints = .ok avoided)
    (queried : call.rayNodes = some rayNodes)
    (considered : Considered manager call nodeId node)
    (made : manager.candidate strings call avoided rayNodes order nodeId node =
      .ok candidate) :
    candidate.rejectReasons = [] ↔
      ∃ gpuId, Feasible strings manager call nodeId node gpuId := by
  have returned := made
  obtain ⟨missing, lacks, made⟩ := bind_eq_ok.mp made
  obtain ⟨models, reasons, same⟩ := bind_eq_ok.mp made
  cases same
  simp only [List.append_eq_nil_iff, ite_eq_right_iff, reduceCtorEq, imp_false,
    decide_eq_true_eq, not_lt, Bool.not_eq_true, Bool.and_eq_true, Bool.not_eq_eq_eq_not,
    Bool.not_true]
  constructor
  · rintro ⟨⟨⟨⟨⟨⟨⟨⟨⟨alive, _⟩, kept⟩, enabled⟩, _⟩, cpu⟩, cpuMem⟩, capability⟩, suited⟩, choice⟩
    subst capability
    subst suited
    refine ⟨_, considered, ⟨rayNodes, queried, by simpa using alive⟩, enabled,
      fun other same => ?_, ?_, ?_, cpu, cpuMem, gpuChoice_fits (Prod.ext choice rfl)⟩
    · obtain rfl := Except.ok.inj (avoids.symm.trans same)
      exact kept
    · exact ((lacksCapability_iff _ _).1.mp lacks).2
    · exact (modelReasons_iff _ _ _).1.mp reasons
  · rintro ⟨gpuId, feasible⟩
    obtain ⟨other, same, alive⟩ := feasible.alive
    obtain rfl := Option.some.inj (queried.symm.trans same)
    have readable := candidate_returns.mp ⟨_, returned⟩
    have notMissing := (lacksCapability_iff _ _).1.mpr ⟨readable.1, feasible.capability⟩
    obtain rfl := Except.ok.inj (lacks.symm.trans notMissing)
    have noReasons := (modelReasons_iff _ _ _).1.mpr feasible.model
    obtain rfl := Except.ok.inj (reasons.symm.trans noReasons)
    obtain ⟨chosen, choice⟩ := gpuChoice_of_fits nonneg feasible.fits.gpu
    rw [choice]
    simp [alive, feasible.enabled, feasible.kept avoided avoids, feasible.fits.cpu,
      feasible.fits.cpuMem]

end Node

/-! ## The first of the keys -/

/-- `first <= second`, for two keys. -/
def KeyLE (first second : List ℚ × List CodePoint) : Prop :=
  first.1 < second.1 ∨ first.1 = second.1 ∧ first.2 ≤ second.2

theorem keyLE_iff (first second : List ℚ × List CodePoint) :
    KeyLE first second ↔ toLex first ≤ toLex second :=
  Prod.Lex.le_iff.symm

theorem not_keyLT_iff (first second : List ℚ × List CodePoint) :
    ¬KeyLT first second ↔ KeyLE second first := by
  have same : KeyLT first second ↔ toLex first < toLex second := Prod.Lex.lt_iff.symm
  rw [same, not_lt, keyLE_iff]

/-- Nothing that is runnable comes before what is chosen. -/
theorem chosen_least
    {manager : ResourceManager}
    {call : SelectCall}
    {found : List Candidate}
    {candidate other : Candidate}
    (first : manager.chosen call found = some candidate)
    (inside : other ∈ found)
    (runnable : other.rejectReasons = []) :
    ¬KeyLT (manager.candidateSortKey call other) (manager.candidateSortKey call candidate) := by
  let before : Candidate → Candidate → Prop := fun first second =>
    (manager.candidateSortKey call first).1 < (manager.candidateSortKey call second).1 ∨
      (manager.candidateSortKey call first).1 = (manager.candidateSortKey call second).1 ∧
        (manager.candidateSortKey call first).2 ≤ (manager.candidateSortKey call second).2
  have key (first second : Candidate) : before first second ↔
      toLex (manager.candidateSortKey call first) ≤
        toLex (manager.candidateSortKey call second) :=
    keyLE_iff _ _
  have total : Std.Total before := ⟨fun first second => by
    rw [key, key]
    exact le_total _ _⟩
  have transitive : IsTrans Candidate before := ⟨fun first second third one two => by
    rw [key] at one two ⊢
    exact one.trans two⟩
  have sorted := List.pairwise_insertionSort before
    (found.filter fun candidate => candidate.rejectReasons.isEmpty)
  have listed : other ∈ (found.filter fun candidate =>
      candidate.rejectReasons.isEmpty).insertionSort before := by
    rw [List.mem_insertionSort, List.mem_filter]
    exact ⟨inside, by rw [runnable]; rfl⟩
  rw [not_keyLT_iff]
  change (List.insertionSort before _).head? = some candidate at first
  obtain ⟨rest, shape⟩ := List.head?_eq_some_iff.mp first
  rw [shape] at sorted listed
  rcases List.mem_cons.mp listed with rfl | later
  · exact .inr ⟨rfl, le_rfl⟩
  · exact (List.pairwise_cons.mp sorted).1 other later

/-- With something runnable there is something to choose. -/
theorem chosen_of_runnable
    {manager : ResourceManager}
    {call : SelectCall}
    {found : List Candidate}
    {other : Candidate}
    (inside : other ∈ found)
    (runnable : other.rejectReasons = []) :
    ∃ candidate, manager.chosen call found = some candidate := by
  cases picked : manager.chosen call found with
  | some candidate => exact ⟨candidate, rfl⟩
  | none =>
      have empty := List.length_eq_zero_iff.mpr (List.head?_eq_none_iff.mp picked)
      rw [List.length_insertionSort, List.length_eq_zero_iff] at empty
      have listed : other ∈ found.filter fun candidate => candidate.rejectReasons.isEmpty :=
        List.mem_filter.mpr ⟨inside, by rw [runnable]; rfl⟩
      rw [empty] at listed
      cases listed

/-! ## The selection -/

theorem Accounted.nonnegative
    {manager : ResourceManager}
    (accounted : Accounted manager) :
    Nonnegative manager := by
  intro nodeId node gpuId gpu registered found
  rw [accounted.available nodeId node registered, availableFor, Table.get?_mapValues,
    Option.map_eq_some_iff] at found
  obtain ⟨total, _, rfl⟩ := found
  exact le_max_left _ _

section Selection

variable {strings : Strings} {manager : ResourceManager} {call : SelectCall}
  {avoided : List PyStr} {rayNodes : Table PyStr RayNode}

/-- The nodes that a selection looks at, in their places. -/
theorem mem_looked
    {order : ℕ}
    {nodeId : PyStr}
    {node : Node} :
    ((nodeId, node), order) ∈ manager.nodes.entries.zipIdx.filter (fun entry =>
        !isElsewhere (manager.targetNodeId call) entry.1.1) ↔
      manager.nodes.entries[order]? = some (nodeId, node) ∧
        Considered manager call nodeId node := by
  rw [List.mem_filter, List.mem_zipIdx_iff_getElem?]
  constructor
  · rintro ⟨place, here⟩
    refine ⟨place, (Table.get?_eq_some_iff _ _ _).mpr (List.mem_of_getElem? place), ?_⟩
    simpa using here
  · rintro ⟨place, considered⟩
    exact ⟨place, by simpa using considered.targeted⟩

/-- The candidates are found unless a node that is looked at cannot be read. -/
theorem candidates_returns :
    (∃ found, manager.candidates strings call avoided rayNodes = .ok found) ↔
      ∀ nodeId node, Considered manager call nodeId node →
        CapabilityReadable call.request.hints ∧
          ModelsReadable call.modelAnchor node.capabilities := by
  constructor
  · rintro ⟨found, listed⟩ nodeId node considered
    have registered := (Table.get?_eq_some_iff _ _ _).mp considered.registered
    obtain ⟨order, place⟩ := List.mem_iff_getElem?.mp registered
    obtain ⟨candidate, _, made⟩ :=
      mem_mapM_of_mem listed (mem_looked.mpr ⟨place, considered⟩)
    exact candidate_returns.mp ⟨candidate, made⟩
  · intro readable
    refine mapM_of_forall fun entry inside => ?_
    obtain ⟨⟨nodeId, node⟩, order⟩ := entry
    exact candidate_returns.mpr (readable nodeId node (mem_looked.mp inside).2)

/-- What is found for a feasible node. -/
theorem runnable_of_feasible
    {found : List Candidate}
    (nonneg : Nonnegative manager)
    (avoids : avoidNodeIds strings call.request.hints = .ok avoided)
    (queried : call.rayNodes = some rayNodes)
    (listed : manager.candidates strings call avoided rayNodes = .ok found)
    {order : ℕ}
    {nodeId : PyStr}
    {node : Node}
    {gpuId : Option ℤ}
    (place : manager.nodes.entries[order]? = some (nodeId, node))
    (feasible : Feasible strings manager call nodeId node gpuId) :
    ∃ candidate ∈ found, candidate.rejectReasons = [] ∧
      manager.candidateSortKey call candidate = manager.keyAt call order nodeId node := by
  obtain ⟨candidate, inside, made⟩ :=
    mem_mapM_of_mem listed (mem_looked.mpr ⟨place, feasible.toConsidered⟩)
  refine ⟨candidate, inside, ?_, ?_⟩
  · exact (candidate_runnable_iff (nonneg nodeId node · · feasible.registered) avoids queried
      feasible.toConsidered made).mpr ⟨gpuId, feasible⟩
  · obtain ⟨rfl, rfl, rfl, _⟩ := candidate_fields made
    rfl

/-- What is chosen is placed. -/
theorem chosen_placed
    {found : List Candidate}
    {candidate : Candidate}
    (nonneg : Nonnegative manager)
    (avoids : avoidNodeIds strings call.request.hints = .ok avoided)
    (queried : call.rayNodes = some rayNodes)
    (listed : manager.candidates strings call avoided rayNodes = .ok found)
    (picked : manager.chosen call found = some candidate) :
    Placed strings manager call candidate := by
  obtain ⟨inside, runnable⟩ := chosen_mem picked
  obtain ⟨⟨⟨nodeId, node⟩, order⟩, looked, made⟩ := mem_of_mapM listed inside
  obtain ⟨place, considered⟩ := mem_looked.mp looked
  obtain ⟨feasibleGpu, feasible⟩ := (candidate_runnable_iff
    (nonneg nodeId node · · considered.registered) avoids queried considered made).mp runnable
  have fits := (candidate_fits made runnable).2
  obtain ⟨rfl, rfl, rfl, reasons, choice⟩ := candidate_fields made
  refine
    { feasible := { feasible with fits := fits }
      place := place
      leastGpu := fun gpuId other taken otherFeasible => ?_
      leastKey := fun order nodeId node gpuId otherPlace otherFeasible => ?_ }
  · rw [taken] at choice
    exact gpuChoice_least choice otherFeasible.fits.gpu
  · obtain ⟨other, otherInside, otherRunnable, key⟩ :=
      runnable_of_feasible nonneg avoids queried listed otherPlace otherFeasible
    rw [← key]
    change ¬KeyLT _ (manager.candidateSortKey call candidate)
    exact chosen_least picked otherInside otherRunnable

end Selection

/-- A selection raises, finds nothing where nothing is feasible, or places the request. -/
theorem selectNode_outcomes
    {manager : ResourceManager}
    (accounted : Accounted manager)
    (strings : Strings)
    (call : SelectCall) :
    let seen := manager.refreshHeadLocalModels call.localModels
    (∃ raised, (manager.selectNode strings call).1 = .error raised ∧
        ¬CallReadable strings seen call) ∨
      ((manager.selectNode strings call).1 = .ok none ∧ CallReadable strings seen call ∧
        ∀ nodeId node gpuId, ¬Feasible strings seen call nodeId node gpuId) ∨
      ∃ candidate, (manager.selectNode strings call).1 = .ok (some candidate) ∧
        CallReadable strings seen call ∧ Placed strings seen call candidate := by
  dsimp only
  have nonneg : Nonnegative (manager.refreshHeadLocalModels call.localModels) :=
    ((refreshHeadLocalModels_keeps call.localModels manager).accounted accounted).nonnegative
  cases avoids : avoidNodeIds strings call.request.hints with
  | error raised =>
      refine .inl ⟨raised, ?_, fun readable => ?_⟩
      · simp only [selectNode, avoids]
      · obtain ⟨avoided, same⟩ := readable.avoids
        cases avoids.symm.trans same
  | ok avoided =>
    cases queried : call.rayNodes with
    | none =>
        refine .inr (.inl ⟨?_, ⟨⟨avoided, avoids⟩, fun asked => ?_⟩, ?_⟩)
        · simp only [selectNode, avoids, queried]
        · rw [queried] at asked
          cases asked
        · intro nodeId node gpuId feasible
          obtain ⟨rayNodes, same, _⟩ := feasible.alive
          cases queried.symm.trans same
    | some rayNodes =>
      cases listed : (manager.refreshHeadLocalModels call.localModels).candidates strings call
          avoided rayNodes with
      | error raised =>
          refine .inl ⟨raised, ?_, fun readable => ?_⟩
          · simp only [selectNode, avoids, queried, listed]
          · obtain ⟨found, same⟩ := candidates_returns.mpr
              (readable.nodes (by rw [queried]; rfl))
            cases listed.symm.trans same
      | ok found =>
          have readable : CallReadable strings (manager.refreshHeadLocalModels call.localModels)
              call :=
            ⟨⟨avoided, avoids⟩, fun _ => candidates_returns.mp ⟨found, listed⟩⟩
          cases picked : (manager.refreshHeadLocalModels call.localModels).chosen call found with
          | none =>
              refine .inr (.inl ⟨?_, readable, fun nodeId node gpuId feasible => ?_⟩)
              · simp only [selectNode, avoids, queried, listed, picked]
              · obtain ⟨order, place⟩ := List.mem_iff_getElem?.mp
                  ((Table.get?_eq_some_iff _ _ _).mp feasible.registered)
                obtain ⟨candidate, inside, runnable, _⟩ :=
                  runnable_of_feasible nonneg avoids queried listed place feasible
                obtain ⟨chosen, same⟩ := chosen_of_runnable inside runnable
                cases picked.symm.trans same
          | some candidate =>
              refine .inr (.inr ⟨candidate, ?_, readable, ?_⟩)
              · simp only [selectNode, avoids, queried, listed, picked]
              · exact chosen_placed nonneg avoids queried listed picked

/--
In every state that is reached, a selection finds a node exactly if the request and the
models can be read and some node is feasible, and it takes the feasible one with the least
key, and the least feasible GPU of it.
-/
theorem placement
    {strings : Strings}
    {head : HeadNode}
    {schedulingPolicy : SchedulingPolicy}
    {actions : List Action}
    {manager : ResourceManager}
    (reached : run? (step? strings) (initial head schedulingPolicy) actions = some manager)
    (call : SelectCall) :
    let seen := manager.refreshHeadLocalModels call.localModels
    ((∃ candidate, (manager.selectNode strings call).1 = .ok (some candidate)) ↔
        CallReadable strings seen call ∧
          ∃ nodeId node gpuId, Feasible strings seen call nodeId node gpuId) ∧
      ((∃ raised, (manager.selectNode strings call).1 = .error raised) ↔
        ¬CallReadable strings seen call) ∧
      ∀ candidate, (manager.selectNode strings call).1 = .ok (some candidate) →
        Placed strings seen call candidate := by
  intro seen
  have accounted := run?_invariant
    (fun _ _ _ accounted stepped => step_accounted accounted stepped)
    (initial_accounted head schedulingPolicy) reached
  rcases selectNode_outcomes accounted strings call with
    ⟨raised, outcome, unreadable⟩ | ⟨outcome, readable, infeasible⟩ |
      ⟨candidate, outcome, readable, placed⟩
  · rw [outcome]
    exact ⟨iff_of_false (fun ⟨_, same⟩ => by cases same) fun ⟨readable, _⟩ =>
        unreadable readable,
      iff_of_true ⟨raised, rfl⟩ unreadable, fun _ same => by cases same⟩
  · rw [outcome]
    exact ⟨iff_of_false (fun ⟨_, same⟩ => by cases same)
        fun ⟨_, nodeId, node, gpuId, feasible⟩ => infeasible nodeId node gpuId feasible,
      iff_of_false (fun ⟨_, same⟩ => by cases same) (not_not.mpr readable),
      fun _ same => by cases same⟩
  · rw [outcome]
    refine ⟨iff_of_true ⟨candidate, rfl⟩ ⟨readable, _, _, _, placed.feasible⟩,
      iff_of_false (fun ⟨_, same⟩ => by cases same) (not_not.mpr readable), ?_⟩
    rintro other same
    cases same
    exact placed

theorem exists_of_grants
    {result : Except PyErr (Option Candidate)}
    (granted : grants result = true) :
    ∃ candidate, result = .ok (some candidate) := by
  unfold grants at granted
  split at granted
  · exact ⟨_, rfl⟩
  · cases granted

/-- The head and a worker with one GPU, which a task that asks for a GPU can only get. -/
theorem worker_placed :
    ∃ candidate, Placed plainStrings
      (((initial plainHead .default).startWorker (workerRegistration 1)
        (some bothAlive)).refreshHeadLocalModels (.list [])) (gpuCall "first") candidate := by
  have spec := @placement plainStrings plainHead .default
    [.startWorker (workerRegistration 1) (some bothAlive)] _ rfl (gpuCall "first")
  obtain ⟨candidate, granted⟩ := exists_of_grants
    (show grants (((initial plainHead .default).startWorker (workerRegistration 1)
      (some bothAlive)).selectNode plainStrings (gpuCall "first")).1 = true by
        decide +kernel)
  exact ⟨candidate, spec.2.2 candidate granted⟩

/-- Every amount is available, those of a GPU on one GPU, whether or not one is asked for. -/
def HasEveryAmount
    (request : ResourceRequest)
    (available : NodeResources) : Prop :=
  request.cpu ≤ available.cpu ∧ request.cpuMem ≤ available.cpuMem ∧
    (0 < request.gpu ∨ 0 < request.gpuMem → ∃ gpuId gpu,
      available.gpuResource.get? gpuId = some gpu ∧ (request.gpu : ℚ) ≤ gpu.gpuNum ∧
        request.gpuMem ≤ gpu.gpuMem)

/-- A selection for GPU memory without a GPU. -/
def memoryCall : SelectCall :=
  { gpuCall "first" with
    request :=
      { gpuRequest with
        gpu := 0
        gpu_le_one := Nat.zero_le 1 } }

/-- A selection for a model that the head has. -/
def modelCall : SelectCall :=
  { memoryCall with
    modelAnchor := [("local_model", .str "model")]
    localModels := .list [.dict [("id", .str "model"), ("backend", .str "vllm")]] }

/-- The head with its models. -/
def headNode (localModels : PyVal) : Node :=
  ⟨"10.0.0.1", plainHead.resources, plainHead.resources,
    [("workspace_sandbox", .bool true), ("local_models", localModels)]⟩

/-- A worker that reports no list of models. -/
def unreadableWorker : ResourceManager :=
  (initial plainHead .default).startWorker
    { workerRegistration 1 with capabilities := [("local_models", .int 5)] } (some bothAlive)

/--
Without a GPU the memory does not count, and the models of one node can stop the selection
of another.
-/
theorem selectNode_deviates :
    (∃ candidate,
      ((initial plainHead .default).selectNode plainStrings memoryCall).1 =
          .ok (some candidate) ∧
        ¬HasEveryAmount memoryCall.request candidate.node.availableResources) ∧
    (unreadableWorker.selectNode plainStrings modelCall).1 = .error .typeError ∧
      ∃ node, Feasible plainStrings
        (unreadableWorker.refreshHeadLocalModels modelCall.localModels) modelCall "head" node
        none := by
  have noGpu (available : NodeResources) (none : available.gpuResource = Table.empty) :
      ¬HasEveryAmount memoryCall.request available := by
    rintro ⟨_, _, gpus⟩
    obtain ⟨gpuId, gpu, found, _⟩ := gpus (.inr (by norm_num [memoryCall, gpuRequest]))
    rw [none] at found
    cases found
  refine ⟨⟨⟨0, "head", headNode (.list []), [], none⟩, rfl, noGpu _ rfl⟩, rfl,
    headNode modelCall.localModels, ?_⟩
  exact
    { registered := rfl
      targeted := rfl
      alive := ⟨bothAlive, rfl, rfl⟩
      enabled := List.not_mem_nil
      kept := fun avoided same => by cases same; exact List.not_mem_nil
      capability := fun required => by cases required
      model := fun _ => ⟨_, _, rfl, List.mem_singleton.mpr rfl, rfl, rfl⟩
      fits := ⟨by norm_num [memoryCall, modelCall, gpuRequest, headNode, plainHead],
        le_rfl, rfl⟩ }

end Maze.Scheduler.ResourceManager
