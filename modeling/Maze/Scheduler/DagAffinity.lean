import Maze.Scheduler.ResourceAccounting

namespace Maze.Scheduler.DagAffinity

open Maze.Python
open Maze.Library
open Maze.Library.Transition
open ResourceManager

/-!
# The affinity of workflows to nodes

The first selection for a workflow makes the node its preferred one, and a counter
says how many contexts prefer a node. Every way in which a node goes away, and every
release of a workflow, takes the contexts out of the counter with them.
-/

/-! ## Calls -/

/-- A call of the resource manager, or the release of a workflow. -/
inductive Action where
  | call (action : ResourceManager.Action)
  | releaseDagContext (workflowId : Option PyStr)

/-- `release_dag_context`; without a workflow there is no context. -/
def releaseDagContext
    (workflowId : Option PyStr)
    (manager : ResourceManager) :
    ResourceManager :=
  match workflowId with
  | none => manager
  | some workflowId =>
      if workflowId.isEmpty then manager
      else { manager with dagContexts := manager.dagContexts.release workflowId }

/-- One call. -/
def step?
    (strings : Strings)
    (manager : ResourceManager) :
    Action → Option ResourceManager
  | .call action => ResourceManager.step? strings manager action
  | .releaseDagContext workflowId => some (releaseDagContext workflowId manager)

/-! ## What has to agree -/

/-- `node_context_load`. -/
def nodeContextLoad
    (contexts : DagContexts)
    (nodeId : PyStr) :
    ℤ :=
  (contexts.nodeLoads.get? nodeId).getD 0

/-- The number of contexts that prefer a node. -/
def contextCount
    (contexts : DagContexts)
    (nodeId : PyStr) :
    ℕ :=
  contexts.preferredNodes.sumOf fun preferred => if preferred = nodeId then 1 else 0

/-- The counters are those of the contexts. -/
def Counted (contexts : DagContexts) : Prop :=
  ∀ nodeId, nodeContextLoad contexts nodeId = contextCount contexts nodeId

/-- The counters are right, and every preferred node is registered. -/
structure AffinitySound (manager : ResourceManager) : Prop where
  counted : Counted manager.dagContexts
  registered : ∀ workflowId nodeId,
    manager.dagContexts.preferredNodes.get? workflowId = some nodeId →
      manager.nodes.contains nodeId = true

/-! ## Contexts -/

/-- A release takes the workflow out of the contexts, and nothing else. -/
theorem release_preferredNodes
    (contexts : DagContexts)
    (workflowId wanted : PyStr) :
    (contexts.release workflowId).preferredNodes.get? wanted =
      if wanted = workflowId then none else contexts.preferredNodes.get? wanted := by
  unfold DagContexts.release
  cases found : contexts.preferredNodes.get? workflowId with
  | none =>
      by_cases same : wanted = workflowId
      · rw [if_pos same, same]
        exact found
      · rw [if_neg same]
  | some nodeId =>
      exact Table.get?_erase _ _ _

/-- A release keeps the counters right. -/
theorem Counted.release
    {contexts : DagContexts}
    (counted : Counted contexts)
    (workflowId : PyStr) :
    Counted (contexts.release workflowId) := by
  unfold DagContexts.release
  cases found : contexts.preferredNodes.get? workflowId with
  | none =>
      exact counted
  | some preferred =>
      intro nodeId
      have before := counted nodeId
      have there := counted preferred
      simp only [contextCount, nodeContextLoad] at before there ⊢
      rw [Table.sumOf_erase found] at before there
      rw [if_pos rfl] at there
      cases load : contexts.nodeLoads.get? preferred with
      | none =>
          rw [load, Option.getD_none] at there
          omega
      | some number =>
          rw [load, Option.getD_some] at there
          by_cases same : preferred = nodeId
          · subst same
            rw [load, if_pos rfl, Option.getD_some] at before
            dsimp only
            split
            · rw [Table.get?_erase, if_pos rfl, Option.getD_none]
              omega
            · rw [Table.get?_set, if_pos rfl, Option.getD_some]
              omega
          · rw [if_neg same, Nat.add_zero] at before
            dsimp only
            split
            · rw [Table.get?_erase, if_neg (Ne.symm same)]
              exact before
            · rw [Table.get?_set, if_neg (Ne.symm same)]
              exact before

/-- Releases of several workflows keep the counters right. -/
theorem Counted.releases
    {contexts : DagContexts}
    (counted : Counted contexts)
    (entries : List (PyStr × PyStr)) :
    Counted (entries.foldl (fun contexts entry => contexts.release entry.1) contexts) := by
  induction entries generalizing contexts with
  | nil =>
      exact counted
  | cons entry rest inductionHypothesis =>
      exact inductionHypothesis (counted.release entry.1)

theorem releases_preferredNodes
    (contexts : DagContexts)
    (entries : List (PyStr × PyStr))
    (wanted : PyStr) :
    (entries.foldl (fun contexts entry => contexts.release entry.1)
        contexts).preferredNodes.get? wanted =
      if wanted ∈ entries.map Prod.fst then none
      else contexts.preferredNodes.get? wanted := by
  induction entries generalizing contexts with
  | nil =>
      simp
  | cons entry rest inductionHypothesis =>
      rw [List.foldl_cons, inductionHypothesis, release_preferredNodes]
      by_cases first : wanted = entry.1
      · simp [first]
      · have listed : wanted ∈ (entry :: rest).map Prod.fst ↔
            wanted ∈ rest.map Prod.fst :=
          List.mem_cons.trans (or_iff_right first)
        by_cases later : wanted ∈ rest.map Prod.fst
        · rw [if_pos later, if_pos (listed.mpr later)]
        · rw [if_neg later, if_neg first, if_neg (mt listed.mp later)]

/-- What is preferred after the contexts of a node are released was, and is another. -/
theorem releaseNode_preferredNodes
    {contexts : DagContexts}
    {nodeId workflowId preferred : PyStr}
    (found : (contexts.releaseNode nodeId).preferredNodes.get? workflowId =
      some preferred) :
    contexts.preferredNodes.get? workflowId = some preferred ∧ preferred ≠ nodeId := by
  rw [DagContexts.releaseNode, releases_preferredNodes] at found
  split at found
  · cases found
  · rename_i kept
    refine ⟨found, ?_⟩
    rintro rfl
    refine kept (List.mem_map.mpr ⟨(workflowId, preferred), ?_, rfl⟩)
    exact List.mem_filter.mpr
      ⟨(Table.get?_eq_some_iff _ _ _).mp found, by simp⟩

/-- A selection keeps the counters right. -/
theorem Counted.recordSelection
    {contexts : DagContexts}
    (counted : Counted contexts)
    (workflowId : Option PyStr)
    (selected : PyStr) :
    Counted (contexts.recordSelection workflowId selected) := by
  unfold DagContexts.recordSelection
  cases workflowId with
  | none => exact counted
  | some workflowId =>
      dsimp only
      split
      · exact counted
      · rename_i fresh
        simp only [Bool.or_eq_true, not_or, Bool.not_eq_true] at fresh
        have absent : contexts.preferredNodes.get? workflowId = none := by
          simpa [Table.contains] using fresh.2
        intro nodeId
        have before := counted nodeId
        simp only [nodeContextLoad, contextCount] at before ⊢
        rw [Table.sumOf_set absent, Table.get?_set]
        by_cases same : nodeId = selected
        · subst same
          rw [if_pos rfl, if_pos rfl, Option.getD_some, before]
          push_cast
          rfl
        · rw [if_neg same, if_neg (Ne.symm same), Nat.add_zero]
          exact before

/-- What a selection makes preferred is the node that it selects. -/
theorem recordSelection_preferredNodes
    {contexts : DagContexts}
    {workflowId : Option PyStr}
    {selected wanted preferred : PyStr}
    (found : (contexts.recordSelection workflowId selected).preferredNodes.get? wanted =
      some preferred) :
    contexts.preferredNodes.get? wanted = some preferred ∨ preferred = selected := by
  unfold DagContexts.recordSelection at found
  cases workflowId with
  | none => exact Or.inl found
  | some workflowId =>
      dsimp only at found
      split at found
      · exact Or.inl found
      · rw [Table.get?_set] at found
        split at found
        · cases found
          exact Or.inr rfl
        · exact Or.inl found

/-! ## Nodes that stay -/

/-- The contexts are the same, and every registered node is still registered. -/
structure KeepsNodes (before after : ResourceManager) : Prop where
  contexts : after.dagContexts = before.dagContexts
  nodes : ∀ nodeId, before.nodes.contains nodeId = true →
    after.nodes.contains nodeId = true

theorem KeepsNodes.refl (manager : ResourceManager) :
    KeepsNodes manager manager :=
  ⟨rfl, fun _ => id⟩

theorem KeepsNodes.trans
    {first second third : ResourceManager}
    (early : KeepsNodes first second)
    (late : KeepsNodes second third) :
    KeepsNodes first third :=
  ⟨late.contexts.trans early.contexts,
    fun nodeId there => late.nodes nodeId (early.nodes nodeId there)⟩

theorem KeepsNodes.sound
    {before after : ResourceManager}
    (keeps : KeepsNodes before after)
    (sound : AffinitySound before) :
    AffinitySound after where
  counted := by
    rw [keeps.contexts]
    exact sound.counted
  registered := by
    intro workflowId nodeId found
    rw [keeps.contexts] at found
    exact keeps.nodes nodeId (sound.registered workflowId nodeId found)

/-- Changing the entry of a node registers and forgets nothing. -/
theorem contains_modify
    (nodes : Table PyStr Node)
    (nodeId wanted : PyStr)
    (change : Node → Node) :
    (nodes.modify nodeId change).contains wanted = nodes.contains wanted := by
  simp only [Table.contains, Table.get?_modify]
  split <;> simp

theorem refreshHeadLocalModels_keepsNodes
    (localModels : PyVal)
    (manager : ResourceManager) :
    KeepsNodes manager (manager.refreshHeadLocalModels localModels) :=
  ⟨rfl, fun nodeId there => by
    rw [refreshHeadLocalModels, contains_modify]
    exact there⟩

theorem recompute_keepsNodes
    (manager : ResourceManager)
    (nodeId : PyStr) :
    KeepsNodes manager (manager.recomputeNodeAvailableResources nodeId) :=
  ⟨rfl, fun other there => by
    rw [recomputeNodeAvailableResources, contains_modify]
    exact there⟩

theorem releaseLease_keepsNodes
    (leaseId : Option PyStr)
    (manager : ResourceManager) :
    KeepsNodes manager (manager.releaseLease leaseId) := by
  have same : ∀ leases counts,
      KeepsNodes manager
        { manager with activeLeases := leases, runningTaskCounts := counts } :=
    fun _ _ => ⟨rfl, fun _ => id⟩
  unfold releaseLease
  split
  · dsimp only
    split
    · split
      · exact (same _ _).trans (recompute_keepsNodes _ _)
      · exact (same _ _).trans (recompute_keepsNodes _ _)
    · exact same _ _
  · exact KeepsNodes.refl manager

theorem setNodeDisabled_keepsNodes
    (nodeId : PyStr)
    (disabled : Bool)
    (localModels : PyVal)
    (manager : ResourceManager) :
    KeepsNodes manager (manager.setNodeDisabled nodeId disabled localModels) := by
  unfold setNodeDisabled
  split
  · exact KeepsNodes.refl manager
  · split
    · have marked (ids : List PyStr) :
          KeepsNodes manager { manager with disabledNodeIds := ids } :=
        ⟨rfl, fun _ => id⟩
      exact (marked _).trans (refreshHeadLocalModels_keepsNodes localModels _)
    · exact KeepsNodes.refl manager

/-! ## Steps -/

/-- A node that is forgotten takes its contexts with it. -/
theorem forgetNode_sound
    {manager : ResourceManager}
    (sound : AffinitySound manager)
    (nodeId : PyStr) :
    AffinitySound (manager.forgetNode nodeId) where
  counted := sound.counted.releases _
  registered := by
    intro workflowId preferred found
    obtain ⟨before, differ⟩ := releaseNode_preferredNodes found
    have there := sound.registered workflowId preferred before
    simp only [forgetNode, Table.contains, Table.get?_erase, if_neg differ] at there ⊢
    exact there

theorem dropNodes_sound
    {manager : ResourceManager}
    (sound : AffinitySound manager)
    (nodeIds : List PyStr) :
    AffinitySound (nodeIds.foldl dropNode manager) := by
  induction nodeIds generalizing manager with
  | nil =>
      exact sound
  | cons nodeId rest inductionHypothesis =>
      have forgotten := forgetNode_sound sound nodeId
      exact inductionHypothesis ⟨forgotten.counted, forgotten.registered⟩

/-- A selection prefers a node that is registered. -/
theorem selectNode_sound
    {manager : ResourceManager}
    (strings : Strings)
    (sound : AffinitySound manager)
    (call : SelectCall) :
    AffinitySound (manager.selectNode strings call).2 := by
  have refreshed := (refreshHeadLocalModels_keepsNodes call.localModels manager).sound
    sound
  rcases selectNode_cases strings manager call with
    ⟨_, same | same⟩ | ⟨_, _, found, candidate, _, _, listed, picked, selected⟩
  · rw [same]
    exact sound
  · rw [same]
    exact refreshed
  · rw [selected]
    obtain ⟨member, runnable⟩ := chosen_mem picked
    obtain ⟨_, nodeId, node, registered, _, made⟩ := mem_candidates listed member
    obtain ⟨same, _⟩ := candidate_fits made runnable
    refine ⟨refreshed.counted.recordSelection _ _, fun workflowId preferred here => ?_⟩
    simp only [grant]
    rw [contains_modify]
    rcases recordSelection_preferredNodes here with before | rfl
    · exact refreshed.registered workflowId preferred before
    · rw [same, Table.contains, registered]
      rfl

theorem startWorker_sound
    {manager : ResourceManager}
    (sound : AffinitySound manager)
    (registration : Registration)
    (rayNodes : Option (Table PyStr RayNode)) :
    AffinitySound (manager.startWorker registration rayNodes) := by
  unfold startWorker
  split
  · exact sound
  · split
    · exact sound
    · split
      · rename_i rayNodes _ rayNode _ _
        dsimp only
        have cleared := dropNodes_sound sound
          (manager.staleNodeIds registration.nodeId
            (canonicalIp registration rayNode) rayNodes)
        refine (recompute_keepsNodes _ _).sound ⟨cleared.counted, ?_⟩
        intro workflowId preferred found
        have there := cleared.registered workflowId preferred found
        dsimp only
        split
        all_goals
          simp only [Table.contains, Table.get?_set] at there ⊢
          split
          · rfl
          · exact there
      · exact sound

/-- Every call keeps the affinities sound. -/
theorem step_sound
    {strings : Strings}
    {manager next : ResourceManager}
    {action : Action}
    (sound : AffinitySound manager)
    (stepped : step? strings manager action = some next) :
    AffinitySound next := by
  cases action with
  | releaseDagContext workflowId =>
      simp only [step?, Option.some.injEq] at stepped
      subst stepped
      unfold releaseDagContext
      cases workflowId with
      | none => exact sound
      | some workflowId =>
          dsimp only
          split
          · exact sound
          · refine ⟨sound.counted.release workflowId, fun other nodeId found => ?_⟩
            dsimp only at found
            rw [release_preferredNodes] at found
            split at found
            · cases found
            · exact sound.registered other nodeId found
  | call action =>
      simp only [step?] at stepped
      cases action with
      | selectNode call =>
          simp only [ResourceManager.step?, Option.ite_none_left_eq_some,
            Option.some.injEq] at stepped
          obtain ⟨_, rfl⟩ := stepped
          exact selectNode_sound strings sound call
      | releaseLease leaseId =>
          simp only [ResourceManager.step?, Option.some.injEq] at stepped
          subst stepped
          exact (releaseLease_keepsNodes leaseId manager).sound sound
      | startWorker registration rayNodes =>
          simp only [ResourceManager.step?, Option.some.injEq] at stepped
          subst stepped
          exact startWorker_sound sound registration rayNodes
      | checkDeadNode due rayNodes =>
          simp only [ResourceManager.step?, Option.some.injEq] at stepped
          subst stepped
          unfold checkDeadNode
          split
          · exact sound
          · split
            · exact dropNodes_sound sound _
            · exact sound
      | stopWorker nodeId =>
          simp only [ResourceManager.step?, Option.some.injEq] at stepped
          subst stepped
          unfold stopWorker
          split
          · exact forgetNode_sound sound nodeId
          · exact sound
      | setNodeDisabled nodeId disabled localModels =>
          simp only [ResourceManager.step?, Option.some.injEq] at stepped
          subst stepped
          exact (setNodeDisabled_keepsNodes nodeId disabled localModels manager).sound
            sound

/--
In every state that any sequence of calls reaches, the load of a node is the number
of contexts that prefer it, and every node that a context prefers is registered.
-/
theorem affinities_sound
    (strings : Strings)
    (head : HeadNode)
    (schedulingPolicy : SchedulingPolicy)
    (actions : List Action) :
    EveryState (step? strings) AffinitySound (initial head schedulingPolicy)
      actions := by
  intro leading rest reached _ executed
  refine run?_invariant (fun _ _ _ sound stepped => step_sound sound stepped) ?_ executed
  exact ⟨fun _ => rfl, fun _ _ found => by cases found⟩

end Maze.Scheduler.DagAffinity
