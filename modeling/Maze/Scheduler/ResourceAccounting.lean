import Mathlib.Algebra.Order.Ring.Rat
import Maze.Library.Transition
import Maze.Scheduler.ResourceManager

namespace Maze.Scheduler.ResourceManager

open Maze.Python
open Maze.Library
open Maze.Library.Transition

/-!
# The accounts of the resource manager

At every time what is available on a registered node is what the active leases
leave of its total, and its count is the number of its task leases. A grant is
taken out of what is available, so a GPU that is registered for one lease is not
granted to a second one.
-/

/-! ## What the leases hold -/

/-- What the active leases hold of a node. -/
def heldOn
    (activeLeases : Table PyStr Lease)
    (nodeId : PyStr)
    (amount : ResourceRequest → ℚ) :
    ℚ :=
  activeLeases.sumOf fun lease =>
    if lease.nodeId = nodeId then amount lease.resources else 0

/-- What the active leases hold of a GPU. -/
def heldOnGpu
    (activeLeases : Table PyStr Lease)
    (nodeId : PyStr)
    (gpuId : ℤ)
    (amount : ResourceRequest → ℚ) :
    ℚ :=
  activeLeases.sumOf fun lease =>
    if lease.nodeId = nodeId ∧ lease.gpuId = some gpuId then
      amount lease.resources
    else
      0

/-- The active leases of a GPU. -/
def gpuLeaseCount
    (activeLeases : Table PyStr Lease)
    (nodeId : PyStr)
    (gpuId : ℤ) :
    ℕ :=
  activeLeases.sumOf fun lease =>
    if lease.nodeId = nodeId ∧ lease.gpuId = some gpuId then 1 else 0

/-- The total less what the active leases hold, and never less than nothing. -/
def availableFor
    (total : NodeResources)
    (activeLeases : Table PyStr Lease)
    (nodeId : PyStr) :
    NodeResources where
  cpu := remaining total.cpu (heldOn activeLeases nodeId ResourceRequest.cpu)
  cpuMem :=
    remaining total.cpuMem (heldOn activeLeases nodeId ResourceRequest.cpuMem)
  gpuResource := total.gpuResource.mapValues fun gpuId gpu =>
    { gpu with
      gpuNum := remaining gpu.gpuNum
        (heldOnGpu activeLeases nodeId gpuId fun request => request.gpu)
      gpuMem := remaining gpu.gpuMem
        (heldOnGpu activeLeases nodeId gpuId ResourceRequest.gpuMem) }

/-- What the loop collects of a node is the sum over its leases. -/
theorem foldl_reserve
    (nodeId : PyStr)
    (leases : List Lease)
    (start : Reserved) :
    (leases.foldl (reserve nodeId) start).cpu =
        start.cpu + (leases.map fun lease =>
          if lease.nodeId = nodeId then lease.resources.cpu else 0).sum ∧
      (leases.foldl (reserve nodeId) start).cpuMem =
        start.cpuMem + (leases.map fun lease =>
          if lease.nodeId = nodeId then lease.resources.cpuMem else 0).sum := by
  induction leases generalizing start with
  | nil =>
      simp
  | cons lease rest inductionHypothesis =>
      rw [List.foldl_cons, (inductionHypothesis _).1, (inductionHypothesis _).2]
      by_cases here : lease.nodeId = nodeId
      · simp [reserve, here, add_assoc]
      · simp [reserve, here]

/-- What the loop collects of a GPU is the sum over its leases. -/
theorem foldl_reserve_ofGpu
    (nodeId : PyStr)
    (gpuId : ℤ)
    (leases : List Lease)
    (start : Reserved) :
    (leases.foldl (reserve nodeId) start).ofGpu gpuId =
      ((start.ofGpu gpuId).1 + (leases.map fun lease =>
          if lease.nodeId = nodeId ∧ lease.gpuId = some gpuId then
            (lease.resources.gpu : ℚ) else 0).sum,
        (start.ofGpu gpuId).2 + (leases.map fun lease =>
          if lease.nodeId = nodeId ∧ lease.gpuId = some gpuId then
            lease.resources.gpuMem else 0).sum) := by
  induction leases generalizing start with
  | nil =>
      simp
  | cons lease rest inductionHypothesis =>
      rw [List.foldl_cons, inductionHypothesis]
      by_cases here : lease.nodeId = nodeId
      · cases held : lease.gpuId with
        | none =>
            simp [reserve, here, held, Reserved.ofGpu]
        | some other =>
            by_cases same : other = gpuId
            · subst same
              simp [reserve, here, held, Reserved.ofGpu, add_assoc]
            · simp [reserve, here, held, Reserved.ofGpu, same, Ne.symm same]
      · simp [reserve, here]

/-- The loop computes what the active leases leave. -/
theorem leftOf_reservedOn
    (total : NodeResources)
    (activeLeases : Table PyStr Lease)
    (nodeId : PyStr) :
    leftOf total (reservedOn activeLeases nodeId) =
      availableFor total activeLeases nodeId := by
  have node := foldl_reserve nodeId (activeLeases.entries.map Prod.snd)
    ⟨0, 0, Table.empty⟩
  simp only [leftOf, availableFor, remaining, NodeResources.mk.injEq]
  refine ⟨?_, ?_, ?_⟩
  · rw [reservedOn, node.1, zero_add, List.map_map]
    rfl
  · rw [reservedOn, node.2, zero_add, List.map_map]
    rfl
  · apply Table.mapValues_congr
    intro gpuId gpu _
    rw [reservedOn, foldl_reserve_ofGpu]
    simp only [Reserved.ofGpu, Table.get?_empty, Option.getD_none, zero_add,
      List.map_map]
    rfl

/-! ## The accounts -/

/--
What is available on each registered node is what the leases leave of its total,
its count is that of its task leases, and a lease of a GPU is for one GPU.
-/
structure Accounted (manager : ResourceManager) : Prop where
  available :
    ∀ nodeId node, manager.nodes.get? nodeId = some node →
      node.availableResources =
        availableFor node.totalResources manager.activeLeases nodeId
  counted :
    ∀ nodeId node, manager.nodes.get? nodeId = some node →
      manager.runningTaskCount nodeId =
        taskLeaseCount manager.activeLeases nodeId
  single :
    ∀ leaseId lease gpuId, manager.activeLeases.get? leaseId = some lease →
      lease.gpuId = some gpuId → lease.resources.gpu = 1

variable
  {manager : ResourceManager}
  {nodeId : PyStr}
  {call : SelectCall}
  {candidate : Candidate}
  {strings : Strings}
  {gpuId : ℤ}
  {activeLeases : Table PyStr Lease}
  {leaseId : PyStr}
  {node : Node}

/-- The leases are the same, and so are the accounts of the nodes that are left. -/
structure KeepsAccounts (before after : ResourceManager) : Prop where
  nodes :
    ∀ nodeId node, after.nodes.get? nodeId = some node →
      ∃ old, before.nodes.get? nodeId = some old ∧
        node.totalResources = old.totalResources ∧
        node.availableResources = old.availableResources
  leases : after.activeLeases = before.activeLeases
  counts :
    ∀ nodeId node, after.nodes.get? nodeId = some node →
      after.runningTaskCount nodeId = before.runningTaskCount nodeId

theorem KeepsAccounts.refl (manager : ResourceManager) :
    KeepsAccounts manager manager :=
  ⟨fun _ node found => ⟨node, found, rfl, rfl⟩, rfl, fun _ _ _ => rfl⟩

theorem KeepsAccounts.trans
    {first second third : ResourceManager}
    (early : KeepsAccounts first second)
    (late : KeepsAccounts second third) :
    KeepsAccounts first third where
  nodes := by
    intro nodeId node found
    obtain ⟨middle, there, total, available⟩ := late.nodes nodeId node found
    obtain ⟨old, here, oldTotal, oldAvailable⟩ := early.nodes nodeId middle there
    exact ⟨old, here, total.trans oldTotal, available.trans oldAvailable⟩
  leases := late.leases.trans early.leases
  counts := by
    intro nodeId node found
    obtain ⟨middle, there, _⟩ := late.nodes nodeId node found
    exact (late.counts nodeId node found).trans (early.counts nodeId middle there)

theorem KeepsAccounts.accounted
    {before after : ResourceManager}
    (keeps : KeepsAccounts before after)
    (accounted : Accounted before) :
    Accounted after where
  available := by
    intro nodeId node found
    obtain ⟨old, there, total, available⟩ := keeps.nodes nodeId node found
    rw [available, total, keeps.leases]
    exact accounted.available nodeId old there
  counted := by
    intro nodeId node found
    obtain ⟨old, there, _⟩ := keeps.nodes nodeId node found
    rw [keeps.counts nodeId node found, keeps.leases]
    exact accounted.counted nodeId old there
  single := by
    rw [keeps.leases]
    exact accounted.single

/-! ## Calls that leave the leases alone -/

theorem refreshHeadLocalModels_keeps
    (localModels : PyVal)
    (manager : ResourceManager) :
    KeepsAccounts manager (manager.refreshHeadLocalModels localModels) where
  nodes := by
    intro nodeId node found
    simp only [refreshHeadLocalModels, Table.get?_modify] at found
    split at found
    · obtain ⟨old, there, rfl⟩ := Option.map_eq_some_iff.mp found
      exact ⟨old, there, rfl, rfl⟩
    · exact ⟨node, found, rfl, rfl⟩
  leases := rfl
  counts := fun _ _ _ => rfl

theorem forgetNode_keeps
    (nodeId : PyStr)
    (manager : ResourceManager) :
    KeepsAccounts manager (manager.forgetNode nodeId) where
  nodes := by
    intro other node found
    simp only [forgetNode, Table.get?_erase, Option.ite_none_left_eq_some] at found
    exact ⟨node, found.2, rfl, rfl⟩
  leases := rfl
  counts := fun _ _ _ => rfl

theorem dropNode_keeps
    (nodeId : PyStr)
    (manager : ResourceManager) :
    KeepsAccounts manager (manager.dropNode nodeId) where
  nodes := (forgetNode_keeps nodeId manager).nodes
  leases := rfl
  counts := by
    intro other node found
    simp only [dropNode, forgetNode, Table.get?_erase,
      Option.ite_none_left_eq_some] at found
    simp [runningTaskCount, dropNode, forgetNode, found.1]

theorem dropNodes_keeps
    (nodeIds : List PyStr)
    (manager : ResourceManager) :
    KeepsAccounts manager (nodeIds.foldl dropNode manager) := by
  induction nodeIds generalizing manager with
  | nil =>
      exact KeepsAccounts.refl manager
  | cons nodeId rest inductionHypothesis =>
      exact (dropNode_keeps nodeId manager).trans (inductionHypothesis _)

theorem checkDeadNode_keeps
    (due : Bool)
    (rayNodes : Option (Table PyStr RayNode))
    (manager : ResourceManager) :
    KeepsAccounts manager (manager.checkDeadNode due rayNodes) := by
  unfold checkDeadNode
  split
  · exact KeepsAccounts.refl manager
  · split
    · exact dropNodes_keeps _ manager
    · exact KeepsAccounts.refl manager

theorem stopWorker_keeps
    (nodeId : PyStr)
    (manager : ResourceManager) :
    KeepsAccounts manager (manager.stopWorker nodeId) := by
  unfold stopWorker
  split
  · exact forgetNode_keeps nodeId manager
  · exact KeepsAccounts.refl manager

theorem setNodeDisabled_keeps
    (nodeId : PyStr)
    (disabled : Bool)
    (localModels : PyVal)
    (manager : ResourceManager) :
    KeepsAccounts manager
      (manager.setNodeDisabled nodeId disabled localModels) := by
  unfold setNodeDisabled
  split
  · exact KeepsAccounts.refl manager
  · split
    · have marked : KeepsAccounts manager
          { manager with
            disabledNodeIds :=
              if disabled then
                nodeId :: manager.disabledNodeIds.filter fun other => other ≠ nodeId
              else
                manager.disabledNodeIds.filter fun other => other ≠ nodeId } :=
        ⟨fun _ node found => ⟨node, found, rfl, rfl⟩, rfl, fun _ _ _ => rfl⟩
      exact marked.trans (refreshHeadLocalModels_keeps localModels _)
    · exact KeepsAccounts.refl manager

/-! ## Computing anew -/

/-- A node whose resources are computed anew is accounted for. -/
theorem recompute_accounted
    (others :
      ∀ other node, other ≠ nodeId → manager.nodes.get? other = some node →
        node.availableResources =
          availableFor node.totalResources manager.activeLeases other)
    (counted :
      ∀ other node, manager.nodes.get? other = some node →
        manager.runningTaskCount other =
          taskLeaseCount manager.activeLeases other)
    (single :
      ∀ leaseId lease gpuId, manager.activeLeases.get? leaseId = some lease →
        lease.gpuId = some gpuId → lease.resources.gpu = 1) :
    Accounted (manager.recomputeNodeAvailableResources nodeId) where
  available := by
    intro other node found
    simp only [recomputeNodeAvailableResources, Table.get?_modify] at found
    split at found
    · next here =>
      obtain ⟨old, _, rfl⟩ := Option.map_eq_some_iff.mp found
      subst here
      exact leftOf_reservedOn _ _ _
    · next elsewhere =>
      exact others other node elsewhere found
  counted := by
    intro other node found
    simp only [recomputeNodeAvailableResources, Table.get?_modify] at found
    split at found
    · obtain ⟨old, there, _⟩ := Option.map_eq_some_iff.mp found
      exact counted other old there
    · exact counted other node found
  single := single

/-- The leases of other nodes do not touch what is available. -/
theorem availableFor_congr
    {total : NodeResources}
    {first second : Table PyStr Lease}
    (node : ∀ amount, heldOn first nodeId amount = heldOn second nodeId amount)
    (gpu :
      ∀ gpuId amount, heldOnGpu first nodeId gpuId amount =
        heldOnGpu second nodeId gpuId amount) :
    availableFor total first nodeId = availableFor total second nodeId := by
  simp only [availableFor, node, gpu]

theorem availableFor_erase
    {lease : Lease}
    (found : activeLeases.get? leaseId = some lease)
    (elsewhere : nodeId ≠ lease.nodeId)
    (total : NodeResources) :
    availableFor total (activeLeases.erase leaseId) nodeId =
      availableFor total activeLeases nodeId := by
  apply availableFor_congr
  · intro amount
    simp [heldOn, Table.sumOf_erase found, Ne.symm elsewhere]
  · intro gpuId amount
    simp [heldOnGpu, Table.sumOf_erase found, Ne.symm elsewhere]

theorem taskLeaseCount_erase
    {lease : Lease}
    (found : activeLeases.get? leaseId = some lease)
    (nodeId : PyStr) :
    taskLeaseCount activeLeases nodeId =
      taskLeaseCount (activeLeases.erase leaseId) nodeId +
        if lease.reservationKind = .task ∧ lease.nodeId = nodeId then 1 else 0 :=
  Table.sumOf_erase found _

/-- A lease that is released is taken off the accounts of its node. -/
theorem releaseLease_accounted
    (accounted : Accounted manager)
    (leaseId : Option PyStr) :
    Accounted (manager.releaseLease leaseId) := by
  unfold releaseLease
  split
  · next lease leaseId found =>
    have single : ∀ other left gpuId,
        (manager.activeLeases.erase leaseId).get? other = some left →
          left.gpuId = some gpuId → left.resources.gpu = 1 := by
      intro other left gpuId there
      rw [Table.get?_erase, Option.ite_none_left_eq_some] at there
      exact accounted.single other left gpuId there.2
    have others : ∀ other node, other ≠ lease.nodeId →
        manager.nodes.get? other = some node →
          node.availableResources = availableFor node.totalResources
            (manager.activeLeases.erase leaseId) other := by
      intro other node elsewhere there
      rw [availableFor_erase found elsewhere]
      exact accounted.available other node there
    have counts : ∀ other node, other ≠ lease.nodeId →
        manager.nodes.get? other = some node →
          manager.runningTaskCount other =
            taskLeaseCount (manager.activeLeases.erase leaseId) other := by
      intro other node elsewhere there
      rw [accounted.counted other node there, taskLeaseCount_erase found]
      simp [Ne.symm elsewhere]
    dsimp only
    split
    · split
      · next isTask =>
        refine recompute_accounted others ?_ single
        intro other node there
        by_cases here : other = lease.nodeId
        · subst here
          have before := accounted.counted lease.nodeId node there
          rw [taskLeaseCount_erase found, if_pos ⟨isTask, rfl⟩] at before
          simp only [runningTaskCount] at before ⊢
          simp only [Table.get?_set, if_true, Option.getD_some, before]
          push_cast
          rw [add_sub_cancel_right, max_eq_right (Int.natCast_nonneg _)]
        · simp only [runningTaskCount, Table.get?_set, if_neg here]
          exact counts other node here there
      · next noTask =>
        refine recompute_accounted others ?_ single
        intro other node there
        have before := accounted.counted other node there
        rwa [taskLeaseCount_erase found, if_neg fun both => noTask both.1,
          add_zero] at before
    · next unregistered =>
      have elsewhere : ∀ other node, manager.nodes.get? other = some node →
          other ≠ lease.nodeId := by
        rintro other node there rfl
        simp [Table.contains, there] at unregistered
      exact ⟨fun other node there =>
          others other node (elsewhere other node there) there,
        fun other node there =>
          counts other node (elsewhere other node there) there, single⟩
  · exact accounted

/-! ## Registering a worker -/

theorem activeLeases_startWorker
    (registration : Registration)
    (rayNodes : Option (Table PyStr RayNode))
    (manager : ResourceManager) :
    (manager.startWorker registration rayNodes).activeLeases =
      manager.activeLeases := by
  unfold startWorker
  split
  · rfl
  · split
    · rfl
    · split
      · exact (dropNodes_keeps _ manager).leases
      · rfl

/-- A worker that is registered is accounted for with the leases it still has. -/
theorem startWorker_accounted
    (accounted : Accounted manager)
    (registration : Registration)
    (rayNodes : Option (Table PyStr RayNode)) :
    Accounted (manager.startWorker registration rayNodes) := by
  unfold startWorker
  split
  · exact accounted
  · next rayNodes =>
    split
    · exact accounted
    · next rayNode _ =>
      split
      · dsimp only
        have cleared := (dropNodes_keeps
          (manager.staleNodeIds registration.nodeId
            (canonicalIp registration rayNode) rayNodes) manager).accounted accounted
        apply recompute_accounted
        · intro other node elsewhere there
          apply cleared.available other node
          dsimp only at there
          split at there <;> simpa [elsewhere] using there
        · intro other node there
          by_cases here : other = registration.nodeId
          · simp [runningTaskCount, here]
          · simp only [runningTaskCount, Table.get?_set, if_neg here]
            apply cleared.counted other node
            dsimp only at there
            split at there <;> simpa [here] using there
        · exact cleared.single
      · exact accounted

/-! ## Granting a lease -/

/-- A GPU is named if one is asked for, and it has what is asked for. -/
def FitsGpu
    (request : ResourceRequest)
    (available : NodeResources) :
    Option ℤ → Prop
  | none => request.gpu = 0
  | some gpuId =>
      request.gpu = 1 ∧
        ∃ gpu, available.gpuResource.get? gpuId = some gpu ∧
          request.gpuMem ≤ gpu.gpuMem ∧ 1 ≤ gpu.gpuNum

/-- What a request needs is available. -/
structure Fits
    (request : ResourceRequest)
    (gpuId : Option ℤ)
    (available : NodeResources) : Prop where
  cpu : request.cpu ≤ available.cpu
  cpuMem : request.cpuMem ≤ available.cpuMem
  gpu : FitsGpu request available gpuId

theorem gpuChoice_fits
    {request : ResourceRequest}
    {available : NodeResources}
    {gpuId : Option ℤ}
    (choice : gpuChoice request available = ([], gpuId)) :
    FitsGpu request available gpuId := by
  unfold gpuChoice at choice
  dsimp only at choice
  split at choice
  · next asked =>
    have one : request.gpu = 1 := le_antisymm request.gpu_le_one asked
    split at choice
    · cases choice
    · split at choice
      · cases choice
      · next first rest sorted =>
        cases choice
        refine ⟨one, ?_⟩
        have inside : first ∈ (available.gpuResource.entries.filter fun entry =>
            request.gpuMem ≤ entry.2.gpuMem ∧
              (request.gpu : ℚ) ≤ entry.2.gpuNum).map Prod.fst := by
          rw [← List.mem_insertionSort (· ≤ ·), sorted]
          exact List.mem_cons_self
        obtain ⟨⟨_, gpu⟩, option, rfl⟩ := List.mem_map.mp inside
        obtain ⟨member, enough⟩ := List.mem_filter.mp option
        refine ⟨gpu, (Table.get?_eq_some_iff _ _ _).mpr member, ?_⟩
        simpa [one] using enough
  · next none_ =>
    cases choice
    exact Nat.eq_zero_of_not_pos none_

/-- A candidate that nothing speaks against has what is asked for. -/
theorem candidate_fits
    {avoided : List PyStr}
    {rayNodes : Table PyStr RayNode}
    {order : ℕ}
    (made :
      manager.candidate strings call avoided rayNodes order nodeId node =
        .ok candidate)
    (runnable : candidate.rejectReasons = []) :
    candidate.nodeId = nodeId ∧
      Fits call.request candidate.selectedGpuId node.availableResources := by
  obtain ⟨missing, _, made⟩ := bind_eq_ok.mp made
  obtain ⟨models, _, same⟩ := bind_eq_ok.mp made
  cases same
  simp only [List.append_eq_nil_iff, ite_eq_right_iff, reduceCtorEq, imp_false,
    decide_eq_true_eq, not_lt] at runnable
  obtain ⟨⟨⟨⟨⟨_, cpu⟩, cpuMem⟩, _⟩, _⟩, choice⟩ := runnable
  exact ⟨rfl, cpu, cpuMem, gpuChoice_fits (Prod.ext choice rfl)⟩

/-- Nothing in the hints and in the model speaks against a runnable candidate. -/
structure Suits
    (strings : Strings)
    (manager : ResourceManager)
    (call : SelectCall)
    (avoided : List PyStr)
    (nodeId : PyStr)
    (capabilities : PyDict) : Prop where
  avoided : nodeId ∉ avoided
  enabled : nodeId ∉ manager.disabledNodeIds
  capability : lacksCapability call.request.hints capabilities = .ok false
  models : modelReasons strings call.modelAnchor capabilities = .ok []

theorem candidate_suits
    {avoided : List PyStr}
    {rayNodes : Table PyStr RayNode}
    {order : ℕ}
    (made :
      manager.candidate strings call avoided rayNodes order nodeId node =
        .ok candidate)
    (runnable : candidate.rejectReasons = []) :
    Suits strings manager call avoided nodeId node.capabilities := by
  obtain ⟨missing, lacks, made⟩ := bind_eq_ok.mp made
  obtain ⟨models, reasons, same⟩ := bind_eq_ok.mp made
  cases same
  simp only [List.append_eq_nil_iff, ite_eq_right_iff, reduceCtorEq, imp_false,
    decide_eq_true_eq, not_lt, Bool.not_eq_true] at runnable
  obtain ⟨⟨⟨⟨⟨⟨⟨⟨_, kept⟩, enabled⟩, _⟩, _⟩, _⟩, capability⟩, suited⟩, _⟩ := runnable
  subst capability
  subst suited
  exact ⟨kept, enabled, lacks, reasons⟩

/-- Every candidate comes from a registered node. -/
theorem mem_candidates
    {avoided : List PyStr}
    {rayNodes : Table PyStr RayNode}
    {found : List Candidate}
    (listed : manager.candidates strings call avoided rayNodes = .ok found)
    (inside : candidate ∈ found) :
    ∃ order nodeId node,
      manager.nodes.get? nodeId = some node ∧
        isElsewhere (manager.targetNodeId call) nodeId = false ∧
        manager.candidate strings call avoided rayNodes order nodeId node =
          .ok candidate := by
  obtain ⟨⟨⟨nodeId, node⟩, order⟩, member, made⟩ := mem_of_mapM listed inside
  obtain ⟨numbered, here⟩ := List.mem_filter.mp member
  refine ⟨order, nodeId, node, ?_, by simpa using here, made⟩
  rw [Table.get?_eq_some_iff]
  exact List.fst_mem_of_mem_zipIdx numbered

/-- The candidate that is chosen is runnable. -/
theorem chosen_mem
    {found : List Candidate}
    (first : manager.chosen call found = some candidate) :
    candidate ∈ found ∧ candidate.rejectReasons = [] := by
  have inside := List.mem_of_mem_head? first
  rw [List.mem_insertionSort, List.mem_filter] at inside
  exact ⟨inside.1, by simpa using inside.2⟩

/-- A selection is refused, or grants the candidate that it chose. -/
theorem selectNode_cases
    (strings : Strings)
    (manager : ResourceManager)
    (call : SelectCall) :
    ((∀ candidate, (manager.selectNode strings call).1 ≠ .ok (some candidate)) ∧
        ((manager.selectNode strings call).2 = manager ∨
          (manager.selectNode strings call).2 =
            manager.refreshHeadLocalModels call.localModels)) ∨
      ∃ avoided rayNodes found candidate,
        avoidNodeIds strings call.request.hints = .ok avoided ∧
          call.rayNodes = some rayNodes ∧
          (manager.refreshHeadLocalModels call.localModels).candidates strings call
            avoided rayNodes = .ok found ∧
          (manager.refreshHeadLocalModels call.localModels).chosen call found =
            some candidate ∧
          manager.selectNode strings call =
            (.ok (some candidate),
              (manager.refreshHeadLocalModels call.localModels).grant call
                candidate) := by
  unfold selectNode
  split
  · exact .inl ⟨fun _ impossible => (by cases impossible), .inl rfl⟩
  · next avoided avoids =>
    dsimp only
    split
    · exact .inl ⟨fun _ impossible => (by cases impossible), .inr rfl⟩
    · next rayNodes queried =>
      split
      · exact .inl ⟨fun _ impossible => (by cases impossible), .inr rfl⟩
      · next found listed =>
        split
        · exact .inl ⟨fun _ impossible => (by cases impossible), .inr rfl⟩
        · next candidate picked =>
          exact .inr ⟨avoided, rayNodes, found, candidate, avoids, queried, listed,
            picked, rfl⟩

/-- A selection that grants has found what is asked for on a registered node. -/
theorem selectNode_granted
    (granted : (manager.selectNode strings call).1 = .ok (some candidate)) :
    (manager.selectNode strings call).2 =
        (manager.refreshHeadLocalModels call.localModels).grant call candidate ∧
      ∃ node,
        (manager.refreshHeadLocalModels call.localModels).nodes.get?
            candidate.nodeId = some node ∧
          Fits call.request candidate.selectedGpuId node.availableResources := by
  rcases selectNode_cases strings manager call with
    ⟨refused, _⟩ | ⟨_, rayNodes, found, first, _, _, listed, picked, selected⟩
  · exact absurd granted (refused candidate)
  · rw [selected] at granted
    cases granted
    obtain ⟨member, runnable⟩ := chosen_mem picked
    obtain ⟨_, nodeId, node, registered, _, made⟩ := mem_candidates listed member
    obtain ⟨same, fits⟩ := candidate_fits made runnable
    exact ⟨by rw [selected], node, same ▸ registered, fits⟩

/-- A selection that does not grant has read the models of the head at most. -/
theorem selectNode_refused
    (refused :
      ∀ candidate, (manager.selectNode strings call).1 ≠ .ok (some candidate)) :
    (manager.selectNode strings call).2 = manager ∨
      (manager.selectNode strings call).2 =
        manager.refreshHeadLocalModels call.localModels := by
  rcases selectNode_cases strings manager call with
    ⟨_, kept⟩ | ⟨_, _, _, candidate, _, _, _, _, selected⟩
  · exact kept
  · exact absurd (by rw [selected]) (refused candidate)

theorem heldOn_set
    (fresh : activeLeases.get? leaseId = none)
    (lease : Lease)
    (nodeId : PyStr)
    (amount : ResourceRequest → ℚ) :
    heldOn (activeLeases.set leaseId lease) nodeId amount =
      heldOn activeLeases nodeId amount +
        if lease.nodeId = nodeId then amount lease.resources else 0 :=
  Table.sumOf_set fresh _ _

theorem heldOnGpu_set
    (fresh : activeLeases.get? leaseId = none)
    (lease : Lease)
    (nodeId : PyStr)
    (gpuId : ℤ)
    (amount : ResourceRequest → ℚ) :
    heldOnGpu (activeLeases.set leaseId lease) nodeId gpuId amount =
      heldOnGpu activeLeases nodeId gpuId amount +
        if lease.nodeId = nodeId ∧ lease.gpuId = some gpuId then
          amount lease.resources
        else
          0 :=
  Table.sumOf_set fresh _ _

/-- A lease that is granted is taken off the accounts of its node. -/
theorem availableFor_grant
    (fresh : activeLeases.get? leaseId = none)
    {total : NodeResources}
    (fits :
      Fits call.request candidate.selectedGpuId
        (availableFor total activeLeases candidate.nodeId)) :
    take call.request candidate.selectedGpuId
        (availableFor total activeLeases candidate.nodeId) =
      availableFor total (activeLeases.set leaseId (leaseOf call candidate))
        candidate.nodeId := by
  obtain ⟨cpu, cpuMem, gpu⟩ := fits
  simp only [take, availableFor, NodeResources.mk.injEq] at cpu cpuMem gpu ⊢
  refine ⟨?_, ?_, ?_⟩
  · rw [remaining_sub call.request.cpu_nonneg cpu, heldOn_set fresh]
    simp [leaseOf]
  · rw [remaining_sub call.request.cpuMem_nonneg cpuMem, heldOn_set fresh]
    simp [leaseOf]
  · cases chosen : candidate.selectedGpuId with
    | none =>
        apply Table.mapValues_congr
        intro gpuId gpu _
        simp [heldOnGpu_set fresh, leaseOf, chosen]
    | some gpuId =>
        simp only [chosen, FitsGpu, Table.get?_mapValues] at gpu
        obtain ⟨one, _, found, mem, num⟩ := gpu
        obtain ⟨old, present, rfl⟩ := Option.map_eq_some_iff.mp found
        dsimp only
        rw [Table.modify_mapValues]
        apply Table.mapValues_congr
        intro other other_ there
        by_cases here : other = gpuId
        · subst here
          rw [present, Option.some.injEq] at there
          subst there
          have asked : (call.request.gpu : ℚ) = 1 := by rw [one, Nat.cast_one]
          rw [if_pos rfl, remaining_sub call.request.gpuMem_nonneg mem,
            remaining_sub (by rw [asked]; exact zero_le_one) (by rw [asked]; exact num),
            heldOnGpu_set fresh, heldOnGpu_set fresh]
          simp [leaseOf, chosen]
        · rw [if_neg here, heldOnGpu_set fresh, heldOnGpu_set fresh]
          simp [leaseOf, chosen, Ne.symm here]

theorem availableFor_grant_of_ne
    (fresh : activeLeases.get? leaseId = none)
    {lease : Lease}
    (elsewhere : nodeId ≠ lease.nodeId)
    (total : NodeResources) :
    availableFor total (activeLeases.set leaseId lease) nodeId =
      availableFor total activeLeases nodeId := by
  apply availableFor_congr
  · intro amount
    simp [heldOn_set fresh, Ne.symm elsewhere]
  · intro gpuId amount
    simp [heldOnGpu_set fresh, Ne.symm elsewhere]

/-- A grant is accounted for. -/
theorem grant_accounted
    (accounted : Accounted manager)
    (fresh : manager.activeLeases.get? call.leaseId = none)
    (registered : manager.nodes.get? candidate.nodeId = some node)
    (fits :
      Fits call.request candidate.selectedGpuId node.availableResources) :
    Accounted (manager.grant call candidate) where
  available := by
    intro other after found
    simp only [grant, Table.get?_modify] at found ⊢
    split at found
    · next here =>
      subst here
      rw [registered, Option.map_some, Option.some.injEq] at found
      subst found
      have left := accounted.available candidate.nodeId node registered
      rw [left] at fits
      dsimp only
      rw [left, availableFor_grant fresh fits]
    · next elsewhere =>
      rw [availableFor_grant_of_ne fresh elsewhere]
      exact accounted.available other after found
  counted := by
    intro other after found
    have there : ∃ old, manager.nodes.get? other = some old := by
      simp only [grant, Table.get?_modify] at found
      split at found
      · obtain ⟨old, there, _⟩ := Option.map_eq_some_iff.mp found
        exact ⟨old, there⟩
      · exact ⟨after, found⟩
    obtain ⟨old, there⟩ := there
    have before := accounted.counted other old there
    have count : taskLeaseCount (manager.grant call candidate).activeLeases other =
        taskLeaseCount manager.activeLeases other +
          if call.reservationKind = .task ∧ candidate.nodeId = other then 1 else 0 :=
      Table.sumOf_set fresh _ _
    rw [count]
    unfold grant
    simp only [runningTaskCount] at before ⊢
    by_cases isTask : call.reservationKind = .task
    · by_cases here : other = candidate.nodeId
      · subst here
        simp [isTask, before]
      · simp [isTask, before, here, Ne.symm here]
    · simp [isTask, before]
  single := by
    intro other lease gpuId found held
    simp only [grant, Table.get?_set] at found
    split at found
    · rw [Option.some.injEq] at found
      subst found
      have gpu := fits.gpu
      simp only [leaseOf] at held ⊢
      rw [held] at gpu
      exact gpu.1
    · exact accounted.single other lease gpuId found held

/-- Every call keeps the accounts. -/
theorem step_accounted
    {manager after : ResourceManager}
    {action : Action}
    (accounted : Accounted manager)
    (stepped : step? strings manager action = some after) :
    Accounted after := by
  cases action with
  | selectNode call =>
      simp only [step?, Option.ite_none_left_eq_some, Option.some.injEq] at stepped
      obtain ⟨unused, rfl⟩ := stepped
      have fresh : manager.activeLeases.get? call.leaseId = none := by
        simpa [Table.contains] using unused
      have refreshed :=
        (refreshHeadLocalModels_keeps call.localModels manager).accounted accounted
      by_cases granted :
          ∃ candidate, (manager.selectNode strings call).1 = .ok (some candidate)
      · obtain ⟨candidate, granted⟩ := granted
        obtain ⟨same, node, registered, fits⟩ := selectNode_granted granted
        rw [same]
        exact grant_accounted refreshed fresh registered fits
      · rcases selectNode_refused (not_exists.mp granted) with same | same
        · rw [same]
          exact accounted
        · rw [same]
          exact refreshed
  | releaseLease leaseId =>
      cases stepped
      exact releaseLease_accounted accounted leaseId
  | startWorker registration rayNodes =>
      cases stepped
      exact startWorker_accounted accounted registration rayNodes
  | checkDeadNode due rayNodes =>
      cases stepped
      exact (checkDeadNode_keeps due rayNodes manager).accounted accounted
  | stopWorker nodeId =>
      cases stepped
      exact (stopWorker_keeps nodeId manager).accounted accounted
  | setNodeDisabled nodeId disabled localModels =>
      cases stepped
      exact (setNodeDisabled_keeps nodeId disabled localModels manager).accounted
        accounted

theorem initial_accounted
    (head : HeadNode)
    (schedulingPolicy : SchedulingPolicy) :
    Accounted (initial head schedulingPolicy) where
  available := by
    intro nodeId node found
    simp only [initial, Table.get?_set, Table.get?_empty] at found ⊢
    split at found
    · rw [Option.some.injEq] at found
      subst found
      simp only [availableFor, heldOn, heldOnGpu, Table.sumOf_empty,
        remaining_zero head.cpu_nonneg, remaining_zero head.cpuMem_nonneg]
      rw [Table.mapValues_self]
      intro gpuId gpu there
      obtain ⟨num, mem⟩ := head.gpu_nonneg gpuId gpu there
      rw [remaining_zero num, remaining_zero mem]
    · cases found
  counted := by
    intro nodeId node found
    simp only [initial, Table.get?_set, Table.get?_empty] at found
    split at found
    · next here =>
      subst here
      simp [initial, runningTaskCount, taskLeaseCount]
    · cases found
  single := by
    intro leaseId lease gpuId found
    cases found

/-! ## What a grant and a release do -/

/-- Each lease of a GPU holds one of it. -/
theorem heldOnGpu_eq_count
    (accounted : Accounted manager)
    (nodeId : PyStr)
    (gpuId : ℤ) :
    heldOnGpu manager.activeLeases nodeId gpuId (fun request => request.gpu) =
      gpuLeaseCount manager.activeLeases nodeId gpuId := by
  apply Table.sumOf_natCast
  intro leaseId lease found
  split
  · next held =>
    exact congrArg Nat.cast (accounted.single leaseId lease gpuId found held.2)
  · rw [Nat.cast_zero]

/-- A GPU that is granted has room for one more lease. -/
theorem gpuLeaseCount_lt_of_fits
    (accounted : Accounted manager)
    {request : ResourceRequest}
    (registered : manager.nodes.get? nodeId = some node)
    (fits : Fits request (some gpuId) node.availableResources)
    {gpu : GpuResource}
    (total : node.totalResources.gpuResource.get? gpuId = some gpu) :
    (gpuLeaseCount manager.activeLeases nodeId gpuId : ℚ) + 1 ≤ gpu.gpuNum := by
  obtain ⟨_, left, there, _, enough⟩ := fits.gpu
  rw [accounted.available nodeId node registered, availableFor,
    Table.get?_mapValues, total, Option.map_some, Option.some.injEq] at there
  subst there
  rw [← heldOnGpu_eq_count accounted]
  exact reserved_le_of_remaining zero_lt_one enough

/-- A node that is registered after the models were read was there before. -/
theorem registered_of_refreshed
    {localModels : PyVal}
    (registered :
      (manager.refreshHeadLocalModels localModels).nodes.get? nodeId = some node) :
    ∃ old, manager.nodes.get? nodeId = some old ∧
      node.totalResources = old.totalResources ∧
      node.availableResources = old.availableResources :=
  (refreshHeadLocalModels_keeps localModels manager).nodes nodeId node registered

/-- A grant stays within what was available when it was made. -/
theorem granted_fits
    (granted : (manager.selectNode strings call).1 = .ok (some candidate)) :
    ∃ node, manager.nodes.get? candidate.nodeId = some node ∧
      Fits call.request candidate.selectedGpuId node.availableResources := by
  obtain ⟨_, node, registered, fits⟩ := selectNode_granted granted
  obtain ⟨old, there, _, available⟩ := registered_of_refreshed registered
  exact ⟨old, there, available ▸ fits⟩

/-- A lease that is not active cannot be released. -/
theorem releaseLease_of_inactive
    {leaseId : Option PyStr}
    (inactive : leaseId.bind manager.activeLeases.get? = none) :
    manager.releaseLease leaseId = manager := by
  simp only [releaseLease, inactive]

/-- A release takes its lease away and no other. -/
theorem activeLeases_releaseLease
    (leaseId other : PyStr)
    (manager : ResourceManager) :
    (manager.releaseLease (some leaseId)).activeLeases.get? other =
      if other = leaseId then none else manager.activeLeases.get? other := by
  unfold releaseLease
  split
  · next lease named found same =>
    cases same
    dsimp only
    split
    · split <;> simp [recomputeNodeAvailableResources]
    · simp
  · next absent =>
    split
    · next here =>
      subst here
      by_contra active
      obtain ⟨lease, found⟩ := Option.ne_none_iff_exists'.mp active
      exact absent lease other found rfl
    · rfl

/-- The nodes are registered as they were. -/
structure SameRegistrations (before after : ResourceManager) : Prop where
  headNodeId : after.headNodeId = before.headNodeId
  disabledNodeIds : after.disabledNodeIds = before.disabledNodeIds
  nodes :
    ∀ nodeId node, after.nodes.get? nodeId = some node →
      ∃ old, before.nodes.get? nodeId = some old ∧
        node.totalResources = old.totalResources ∧
        node.capabilities = old.capabilities

theorem SameRegistrations.refl (manager : ResourceManager) :
    SameRegistrations manager manager :=
  ⟨rfl, rfl, fun _ node found => ⟨node, found, rfl, rfl⟩⟩

theorem SameRegistrations.trans
    {first second third : ResourceManager}
    (early : SameRegistrations first second)
    (late : SameRegistrations second third) :
    SameRegistrations first third where
  headNodeId := late.headNodeId.trans early.headNodeId
  disabledNodeIds := late.disabledNodeIds.trans early.disabledNodeIds
  nodes := by
    intro nodeId node found
    obtain ⟨middle, there, total, capabilities⟩ := late.nodes nodeId node found
    obtain ⟨old, here, oldTotal, oldCapabilities⟩ :=
      early.nodes nodeId middle there
    exact ⟨old, here, total.trans oldTotal, capabilities.trans oldCapabilities⟩

theorem recompute_registrations
    (manager : ResourceManager)
    (nodeId : PyStr) :
    SameRegistrations manager (manager.recomputeNodeAvailableResources nodeId) where
  headNodeId := rfl
  disabledNodeIds := rfl
  nodes := by
    intro other node found
    simp only [recomputeNodeAvailableResources, Table.get?_modify] at found
    split at found
    · obtain ⟨old, there, rfl⟩ := Option.map_eq_some_iff.mp found
      exact ⟨old, there, rfl, rfl⟩
    · exact ⟨node, found, rfl, rfl⟩

/-- A release registers nothing. -/
theorem releaseLease_registrations
    (leaseId : Option PyStr)
    (manager : ResourceManager) :
    SameRegistrations manager (manager.releaseLease leaseId) := by
  have same : ∀ leases counts,
      SameRegistrations manager
        { manager with activeLeases := leases, runningTaskCounts := counts } :=
    fun _ _ => ⟨rfl, rfl, fun _ node found => ⟨node, found, rfl, rfl⟩⟩
  unfold releaseLease
  split
  · dsimp only
    split
    · split
      · exact (same _ _).trans (recompute_registrations _ _)
      · exact (same _ _).trans (recompute_registrations _ _)
    · exact same _ _
  · exact SameRegistrations.refl manager

theorem releaseLease_twice
    (leaseId : Option PyStr)
    (manager : ResourceManager) :
    (manager.releaseLease leaseId).releaseLease leaseId =
      manager.releaseLease leaseId := by
  cases leaseId with
  | none =>
      rfl
  | some leaseId =>
      apply releaseLease_of_inactive
      simp [activeLeases_releaseLease]

/-! ## A GPU that is registered for one lease -/

/-- A registration of the node gives at most one of the GPU. -/
def RegistersOne
    (nodeId : PyStr)
    (gpuId : ℤ) :
    Action → Prop
  | .startWorker registration _ =>
      registration.nodeId = nodeId →
        ∀ gpu, registration.resources.gpuResource.get? gpuId = some gpu →
          gpu.gpuNum ≤ 1
  | _ => True

/-- The accounts hold, and the GPU is registered and held at most once. -/
structure HeldOnce
    (nodeId : PyStr)
    (gpuId : ℤ)
    (manager : ResourceManager) : Prop where
  accounted : Accounted manager
  registered :
    ∀ node gpu, manager.nodes.get? nodeId = some node →
      node.totalResources.gpuResource.get? gpuId = some gpu → gpu.gpuNum ≤ 1
  held : gpuLeaseCount manager.activeLeases nodeId gpuId ≤ 1

theorem KeepsAccounts.heldOnce
    {before after : ResourceManager}
    (keeps : KeepsAccounts before after)
    (once : HeldOnce nodeId gpuId before) :
    HeldOnce nodeId gpuId after where
  accounted := keeps.accounted once.accounted
  registered := by
    intro node gpu found there
    obtain ⟨old, present, total, _⟩ := keeps.nodes nodeId node found
    rw [total] at there
    exact once.registered old gpu present there
  held := by
    rw [keeps.leases]
    exact once.held

/-- A release leaves a GPU with no more leases than before. -/
theorem releaseLease_heldOnce
    (once : HeldOnce nodeId gpuId manager)
    (leaseId : Option PyStr) :
    HeldOnce nodeId gpuId (manager.releaseLease leaseId) := by
  refine ⟨releaseLease_accounted once.accounted leaseId, ?_, ?_⟩
  · intro node gpu found
    obtain ⟨old, there, total, _⟩ :=
      (releaseLease_registrations leaseId manager).nodes nodeId node found
    rw [total]
    exact once.registered old gpu there
  · unfold releaseLease
    split
    · next lease leaseId found =>
      have count := Table.sumOf_erase found fun lease : Lease =>
        if lease.nodeId = nodeId ∧ lease.gpuId = some gpuId then 1 else 0
      have fewer : gpuLeaseCount (manager.activeLeases.erase leaseId) nodeId gpuId ≤
          gpuLeaseCount manager.activeLeases nodeId gpuId := by
        unfold gpuLeaseCount
        omega
      have held := fewer.trans once.held
      dsimp only
      split
      · split <;> exact held
      · exact held
    · exact once.held

theorem startWorker_heldOnce
    (once : HeldOnce nodeId gpuId manager)
    {registration : Registration}
    {rayNodes : Option (Table PyStr RayNode)}
    (one : RegistersOne nodeId gpuId (.startWorker registration rayNodes)) :
    HeldOnce nodeId gpuId (manager.startWorker registration rayNodes) := by
  have accounted := startWorker_accounted once.accounted registration rayNodes
  unfold startWorker at accounted ⊢
  split
  · exact once
  · next rayNodes =>
    split
    · exact once
    · next rayNode found =>
      split
      · next alive =>
        simp only [found, alive, if_true] at accounted
        dsimp only at accounted ⊢
        have cleared := (dropNodes_keeps
          (manager.staleNodeIds registration.nodeId
            (canonicalIp registration rayNode) rayNodes) manager).heldOnce once
        refine ⟨accounted, ?_, cleared.held⟩
        intro node gpu present there
        simp only [recomputeNodeAvailableResources, Table.get?_modify] at present
        split at present
        · next here =>
          -- the node that registers has the total that it reports, or had it
          obtain ⟨fresh, set_, rfl⟩ := Option.map_eq_some_iff.mp present
          split at set_
          · next old was =>
            rw [here, Table.get?_set, if_pos rfl, Option.some.injEq] at set_
            subst set_
            unfold updateRegistration at there
            dsimp only at there
            split at there
            · exact cleared.registered old gpu (here ▸ was) there
            · exact one here.symm gpu there
          · rw [here, Table.get?_set, if_pos rfl, Option.some.injEq] at set_
            subst set_
            exact one here.symm gpu there
        · next elsewhere =>
          apply cleared.registered node gpu _ there
          split at present <;> simpa [elsewhere] using present
      · exact once

theorem grant_heldOnce
    (once : HeldOnce nodeId gpuId manager)
    (fresh : manager.activeLeases.get? call.leaseId = none)
    (registered : manager.nodes.get? candidate.nodeId = some node)
    (fits :
      Fits call.request candidate.selectedGpuId node.availableResources) :
    HeldOnce nodeId gpuId (manager.grant call candidate) := by
  refine ⟨grant_accounted once.accounted fresh registered fits, ?_, ?_⟩
  · intro after gpu found there
    simp only [grant, Table.get?_modify] at found
    split at found
    · obtain ⟨old, present, rfl⟩ := Option.map_eq_some_iff.mp found
      exact once.registered old gpu present there
    · exact once.registered after gpu found there
  · have count : gpuLeaseCount (manager.grant call candidate).activeLeases nodeId
        gpuId = gpuLeaseCount manager.activeLeases nodeId gpuId +
          if candidate.nodeId = nodeId ∧ candidate.selectedGpuId = some gpuId then 1
          else 0 :=
      Table.sumOf_set fresh _ _
    rw [count]
    split
    · next here =>
      obtain ⟨rfl, chosen⟩ := here
      rw [chosen] at fits
      obtain ⟨_, left, there, _, _⟩ := fits.gpu
      rw [once.accounted.available _ node registered, availableFor,
        Table.get?_mapValues] at there
      obtain ⟨gpu, total, _⟩ := Option.map_eq_some_iff.mp there
      have room := gpuLeaseCount_lt_of_fits once.accounted registered fits total
      have none_ := room.trans (once.registered node gpu registered total)
      have free : gpuLeaseCount manager.activeLeases candidate.nodeId gpuId + 1 ≤ 1 :=
        by exact_mod_cast none_
      exact free
    · exact once.held

/-- A call that registers at most one of a GPU leaves it held at most once. -/
theorem step_heldOnce
    {manager after : ResourceManager}
    {action : Action}
    (once : HeldOnce nodeId gpuId manager)
    (one : RegistersOne nodeId gpuId action)
    (stepped : step? strings manager action = some after) :
    HeldOnce nodeId gpuId after := by
  cases action with
  | selectNode call =>
      simp only [step?, Option.ite_none_left_eq_some, Option.some.injEq] at stepped
      obtain ⟨unused, rfl⟩ := stepped
      have fresh : manager.activeLeases.get? call.leaseId = none := by
        simpa [Table.contains] using unused
      have refreshed :=
        (refreshHeadLocalModels_keeps call.localModels manager).heldOnce once
      by_cases granted :
          ∃ candidate, (manager.selectNode strings call).1 = .ok (some candidate)
      · obtain ⟨candidate, granted⟩ := granted
        obtain ⟨same, node, registered, fits⟩ := selectNode_granted granted
        rw [same]
        exact grant_heldOnce refreshed fresh registered fits
      · rcases selectNode_refused (not_exists.mp granted) with same | same
        · rw [same]
          exact once
        · rw [same]
          exact refreshed
  | releaseLease leaseId =>
      cases stepped
      exact releaseLease_heldOnce once leaseId
  | startWorker registration rayNodes =>
      cases stepped
      exact startWorker_heldOnce once one
  | checkDeadNode due rayNodes =>
      cases stepped
      exact (checkDeadNode_keeps due rayNodes manager).heldOnce once
  | stopWorker nodeId =>
      cases stepped
      exact (stopWorker_keeps nodeId manager).heldOnce once
  | setNodeDisabled nodeId disabled localModels =>
      cases stepped
      exact (setNodeDisabled_keeps nodeId disabled localModels manager).heldOnce once

/-! ## The accounts of every run -/

/-- What holds of the leases at a time, and of the calls that may come next. -/
structure LeasesSound
    (strings : Strings)
    (manager : ResourceManager) : Prop where
  accounted : Accounted manager
  granted :
    ∀ call candidate,
      (manager.selectNode strings call).1 = .ok (some candidate) →
        ∃ node, manager.nodes.get? candidate.nodeId = some node ∧
          Fits call.request candidate.selectedGpuId node.availableResources
  shared :
    ∀ call candidate gpuId node gpu,
      (manager.selectNode strings call).1 = .ok (some candidate) →
      candidate.selectedGpuId = some gpuId →
      manager.nodes.get? candidate.nodeId = some node →
      node.totalResources.gpuResource.get? gpuId = some gpu →
        (gpuLeaseCount manager.activeLeases candidate.nodeId gpuId : ℚ) + 1 ≤
          gpu.gpuNum
  releasedTwice :
    ∀ leaseId, (manager.releaseLease leaseId).releaseLease leaseId =
      manager.releaseLease leaseId
  refused :
    ∀ call,
      (∀ candidate, (manager.selectNode strings call).1 ≠ .ok (some candidate)) →
        (manager.selectNode strings call).2 = manager ∨
          (manager.selectNode strings call).2 =
            manager.refreshHeadLocalModels call.localModels

theorem Accounted.leasesSound
    (accounted : Accounted manager)
    (strings : Strings) :
    LeasesSound strings manager where
  accounted := accounted
  granted := fun _ _ => granted_fits
  shared := by
    intro call candidate gpuId node gpu granted chosen registered total
    obtain ⟨same, there, fits⟩ := granted_fits granted
    rw [registered, Option.some.injEq] at there
    subst there
    rw [chosen] at fits
    exact gpuLeaseCount_lt_of_fits accounted registered fits total
  releasedTwice := fun leaseId => releaseLease_twice leaseId manager
  refused := fun _ => selectNode_refused

/-- The head has at most one of the GPU, or is another node. -/
def HeadHasOne
    (head : HeadNode)
    (nodeId : PyStr)
    (gpuId : ℤ) : Prop :=
  nodeId = head.nodeId →
    ∀ gpu, head.resources.gpuResource.get? gpuId = some gpu → gpu.gpuNum ≤ 1

theorem initial_heldOnce
    {head : HeadNode}
    (one : HeadHasOne head nodeId gpuId)
    (schedulingPolicy : SchedulingPolicy) :
    HeldOnce nodeId gpuId (initial head schedulingPolicy) := by
  refine ⟨initial_accounted head schedulingPolicy, ?_, Nat.zero_le 1⟩
  intro node gpu found
  simp only [initial, Table.get?_set, Table.get?_empty] at found
  split at found
  · next here =>
    rw [Option.some.injEq] at found
    subst found
    exact one here gpu
  · cases found

/--
Whatever calls come, the accounts of the leases hold at every time. A GPU of
which no registration gives more than one is never held by two leases.
-/
theorem leases_accounted
    (strings : Strings)
    (head : HeadNode)
    (schedulingPolicy : SchedulingPolicy)
    (actions : List Action) :
    EveryState (step? strings) (LeasesSound strings) (initial head schedulingPolicy)
        actions ∧
      ∀ nodeId gpuId,
        HeadHasOne head nodeId gpuId →
        (∀ action ∈ actions, RegistersOne nodeId gpuId action) →
          EveryState (step? strings)
            (fun manager => gpuLeaseCount manager.activeLeases nodeId gpuId ≤ 1)
            (initial head schedulingPolicy) actions := by
  constructor
  · intro leading rest reached _ executed
    have accounted := run?_invariant
      (fun _ _ _ accounted stepped => step_accounted accounted stepped)
      (initial_accounted head schedulingPolicy) executed
    exact accounted.leasesSound strings
  · intro nodeId gpuId one registers leading rest reached split executed
    have met : ∀ action ∈ leading, RegistersOne nodeId gpuId action := by
      intro action inside
      exact registers action (split ▸ List.mem_append_left rest inside)
    clear split registers
    have once := initial_heldOnce one schedulingPolicy
    generalize initial head schedulingPolicy = manager at executed once
    induction leading generalizing manager with
    | nil =>
        cases executed
        exact once.held
    | cons action later inductionHypothesis =>
        rw [run?_cons, Option.bind_eq_some_iff] at executed
        obtain ⟨next, stepped, executed⟩ := executed
        obtain ⟨here, met⟩ := List.forall_mem_cons.mp met
        exact inductionHypothesis met next executed
          (step_heldOnce once here stepped)

/-! ### A worker with one GPU -/

/-- What a worker with the given number of its one GPU has. -/
def workerResources (gpuNum : ℚ) : NodeResources where
  cpu := 8
  cpuMem := 0
  gpuResource := Table.empty.set 0 ⟨gpuNum, 1000, some 1000⟩

/-- The registration of that worker. -/
def workerRegistration (gpuNum : ℚ) : Registration where
  nodeId := "worker"
  nodeIp := "10.0.0.2"
  resources := workerResources gpuNum
  capabilities := []

/-- The head, which has no GPU. -/
def plainHead : HeadNode where
  nodeId := "head"
  nodeIp := "10.0.0.1"
  resources := ⟨4, 0, Table.empty⟩
  localModels := .list []
  cpu_nonneg := by norm_num
  cpuMem_nonneg := le_refl _
  gpu_nonneg := fun _ _ impossible => by cases impossible

/-- Both nodes are alive. -/
def bothAlive : Table PyStr RayNode :=
  ((Table.empty : Table PyStr RayNode).set "head" ⟨true, none⟩).set "worker"
    ⟨true, none⟩

/-- A request for some memory of a GPU. -/
def gpuRequest : ResourceRequest where
  cpu := 1
  cpuMem := 0
  gpu := 1
  gpuMem := 100
  hints := []
  cpu_nonneg := zero_le_one
  cpuMem_nonneg := le_refl _
  gpuMem_nonneg := by norm_num
  gpu_le_one := le_refl _

/-- A selection for it. -/
def gpuCall (leaseId : PyStr) : SelectCall where
  request := gpuRequest
  reservationKind := .task
  modelAnchor := []
  workflowId := none
  localModels := .list []
  rayNodes := some bothAlive
  leaseId := leaseId

/-- Strings that stay as they are. -/
def plainStrings : Strings where
  str := fun _ => ""
  lower := id

/-- Two GPU tasks ask for the one GPU of a worker. -/
theorem one_gpu_held_once :
    EveryState (step? plainStrings)
      (fun manager => gpuLeaseCount manager.activeLeases "worker" 0 ≤ 1)
      (initial plainHead .default)
      [.startWorker (workerRegistration 1) (some bothAlive),
        .selectNode (gpuCall "first"), .selectNode (gpuCall "second")] := by
  apply (leases_accounted plainStrings plainHead .default _).2 "worker" 0
  · intro impossible
    exact absurd impossible (by decide)
  · intro action inside
    simp only [List.mem_cons, List.not_mem_nil, or_false] at inside
    rcases inside with rfl | rfl | rfl
    · intro _ gpu found
      simp only [workerRegistration, workerResources, Table.get?_set, if_true,
        Option.some.injEq] at found
      rw [← found]
    · trivial
    · trivial

/-- A worker whose GPU is registered for two leases, and then for one. -/
def shrinkingActions : List Action :=
  [.startWorker (workerRegistration 2) (some bothAlive),
    .selectNode (gpuCall "first"), .selectNode (gpuCall "second"),
    .startWorker (workerRegistration 1) (some bothAlive)]

/-- The GPU that is registered last, and its leases. -/
def workerGpu (manager : ResourceManager) : Option ℚ × ℕ :=
  ((manager.nodes.get? "worker").bind fun node =>
      (node.totalResources.gpuResource.get? 0).map GpuResource.gpuNum,
    gpuLeaseCount manager.activeLeases "worker" 0)

/-- The models of the head. -/
def headModels (manager : ResourceManager) : Option PyVal :=
  (manager.nodes.get? "head").map fun node => node.capabilities.get "local_models"

/-- Whether a selection has granted a lease. -/
def grants : Except PyErr (Option Candidate) → Bool
  | .ok (some _) => true
  | _ => false

/-- A selection of too much, while a model has come to the head. -/
def refusedCall : SelectCall :=
  { gpuCall "third" with localModels := .list [.str "model"] }

/--
A GPU whose number shrinks is held by two leases, and a refused selection changes
what the head is known to have.
-/
theorem shrunk_gpu_held_twice :
    (run? (step? plainStrings) (initial plainHead .default) shrinkingActions).map
        workerGpu = some (some 1, 2) ∧
      grants ((initial plainHead .default).selectNode plainStrings
        refusedCall).1 = false ∧
      headModels ((initial plainHead .default).selectNode plainStrings
          refusedCall).2 ≠
        headModels (initial plainHead .default) := by
  refine ⟨?_, ?_, ?_⟩ <;> decide +kernel

end Maze.Scheduler.ResourceManager
