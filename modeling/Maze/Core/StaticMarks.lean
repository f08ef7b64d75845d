import Maze.Core.StaticReadiness

namespace Maze.Core.StaticMarks

open Maze.Python

/-!
# The statuses of a static run and its tasks

The status of a run and the statuses of its tasks are kept by separate marks. A
run is regular where they agree. Every mark keeps a run regular, but for the one
of a failed task: it ends the run and leaves the other tasks as they are, so it
needs them to have succeeded already.
-/

/-! ## Regular runs -/

/-- The run has a node for every task of the workflow, with its neighbours. -/
structure Shaped (workflow : Workflow) (run : StaticRun) : Prop where
  ids : (run.taskNodes.map StaticTaskNode.taskId).Perm workflow.taskIds
  parents :
    ∀ node ∈ run.taskNodes, node.parents = workflow.predecessors node.taskId
  children :
    ∀ node ∈ run.taskNodes, node.children = workflow.successors node.taskId

/-- The status of a run and the statuses of its tasks agree. -/
structure Agrees (workflow : Workflow) (run : StaticRun) : Prop where
  quiet :
    run.isTerminal = true →
      ∀ node ∈ run.taskNodes, node.status.isActive = false
  succeeded :
    run.status = .succeeded ↔ ∀ node ∈ run.taskNodes, node.status = .succeeded
  pending :
    run.isTerminal = false →
      ∀ node ∈ run.taskNodes,
        (node.status = .pending ↔
          ∃ task ∈ workflow.predecessors node.taskId,
            run.hasSucceeded task = false)

/-- The statuses agree, and no task of a run that goes on has ended otherwise. -/
structure Regular (workflow : Workflow) (run : StaticRun) : Prop
    extends Shaped workflow run, Agrees workflow run where
  going :
    run.isTerminal = false →
      ∀ node ∈ run.taskNodes,
        node.status.isActive = true ∨ node.status = .succeeded

/-- Every task but the given one has succeeded. -/
def OthersSucceeded (run : StaticRun) (taskId : TaskId) : Prop :=
  ∀ node ∈ run.taskNodes, node.taskId ≠ taskId → node.status = .succeeded

variable
  {workflow : Workflow}
  {run : StaticRun}
  {taskId : TaskId}
  {change : StaticTaskNode → StaticTaskNode}
  {node : StaticTaskNode}

theorem Shaped.nodup
    (shaped : Shaped workflow run) :
    (run.taskNodes.map StaticTaskNode.taskId).Nodup :=
  shaped.ids.nodup_iff.mpr workflow.distinct

theorem find?_of_nodup
    {nodes : List StaticTaskNode}
    (distinct : (nodes.map StaticTaskNode.taskId).Nodup)
    (member : node ∈ nodes) :
    (nodes.find? fun other => other.taskId = node.taskId) = some node := by
  induction nodes with
  | nil =>
      exact absurd member List.not_mem_nil
  | cons first rest inductionHypothesis =>
      rw [List.map_cons, List.nodup_cons] at distinct
      obtain ⟨fresh, distinct⟩ := distinct
      rcases List.mem_cons.mp member with rfl | later
      · simp
      · have differ : first.taskId ≠ node.taskId := fun same =>
          fresh (same ▸ List.mem_map_of_mem later)
        rw [List.find?_cons_of_neg (by simpa using differ)]
        exact inductionHypothesis distinct later

/-- A node is the one that its id finds. -/
theorem Shaped.node?_of_mem
    (shaped : Shaped workflow run)
    (member : node ∈ run.taskNodes) :
    run.node? node.taskId = some node :=
  find?_of_nodup shaped.nodup member

/-- Every task of the workflow has a node. -/
theorem Shaped.exists_node
    (shaped : Shaped workflow run)
    (known : taskId ∈ workflow.taskIds) :
    ∃ node ∈ run.taskNodes, node.taskId = taskId :=
  List.mem_map.mp (shaped.ids.mem_iff.mpr known)

/-! ## Changes of the nodes -/

/-- A change of a node that keeps the task and its neighbours. -/
structure KeepsTask (change : StaticTaskNode → StaticTaskNode) : Prop where
  taskId : ∀ node, (change node).taskId = node.taskId
  parents : ∀ node, (change node).parents = node.parents
  children : ∀ node, (change node).children = node.children

theorem KeepsTask.shaped
    (keeps : KeepsTask change)
    (shaped : Shaped workflow run) :
    Shaped workflow (run.mapNodes change) where
  ids := by
    have same : (run.taskNodes.map change).map StaticTaskNode.taskId =
        run.taskNodes.map StaticTaskNode.taskId := by
      rw [List.map_map]
      exact List.map_congr_left fun node _ => keeps.taskId node
    exact same ▸ shaped.ids
  parents := fun node member => by
    obtain ⟨old, inside, rfl⟩ := List.mem_map.mp member
    rw [keeps.parents, keeps.taskId]
    exact shaped.parents old inside
  children := fun node member => by
    obtain ⟨old, inside, rfl⟩ := List.mem_map.mp member
    rw [keeps.children, keeps.taskId]
    exact shaped.children old inside

/-- The shape depends on the nodes alone. -/
theorem Shaped.of_nodes
    {before after : StaticRun}
    (shaped : Shaped workflow before)
    (nodes : after.taskNodes = before.taskNodes) :
    Shaped workflow after :=
  ⟨nodes ▸ shaped.ids, nodes ▸ shaped.parents, nodes ▸ shaped.children⟩

/-- A change of the node of one task. -/
theorem KeepsTask.one
    (keeps : KeepsTask change)
    (taskId : TaskId) :
    KeepsTask fun node => if node.taskId = taskId then change node else node where
  taskId := fun node => by
    split
    · exact keeps.taskId node
    · rfl
  parents := fun node => by
    split
    · exact keeps.parents node
    · rfl
  children := fun node => by
    split
    · exact keeps.children node
    · rfl

/-- A change of the nodes that have not ended. -/
theorem KeepsTask.active
    (keeps : KeepsTask change) :
    KeepsTask fun node =>
      if node.status.isActive then change node else node where
  taskId := fun node => by
    split
    · exact keeps.taskId node
    · rfl
  parents := fun node => by
    split
    · exact keeps.parents node
    · rfl
  children := fun node => by
    split
    · exact keeps.children node
    · rfl

/-! ## Runs that say the same -/

/-- What a node says beside its fields. -/
def outline (node : StaticTaskNode) :
    TaskId × NodeStatus × List TaskId × List TaskId :=
  (node.taskId, node.status, node.parents, node.children)

/-- The runs differ at most in what they note beside the statuses. -/
structure SameStatuses (before after : StaticRun) : Prop where
  status : after.status = before.status
  nodes : after.taskNodes.map outline = before.taskNodes.map outline

theorem SameStatuses.refl (run : StaticRun) : SameStatuses run run :=
  ⟨rfl, rfl⟩

theorem SameStatuses.trans
    {first second third : StaticRun}
    (early : SameStatuses first second)
    (late : SameStatuses second third) :
    SameStatuses first third :=
  ⟨late.status.trans early.status, late.nodes.trans early.nodes⟩

/-- Every node says what a node of the other run says. -/
theorem SameStatuses.mem
    {before after : StaticRun}
    (same : SameStatuses before after)
    (member : node ∈ after.taskNodes) :
    ∃ old ∈ before.taskNodes, outline old = outline node := by
  have listed : outline node ∈ after.taskNodes.map outline :=
    List.mem_map_of_mem member
  rw [same.nodes] at listed
  exact List.mem_map.mp listed

theorem SameStatuses.symm
    {before after : StaticRun}
    (same : SameStatuses before after) :
    SameStatuses after before :=
  ⟨same.status.symm, same.nodes.symm⟩

theorem hasSucceeded_eq_outline
    (run : StaticRun)
    (taskId : TaskId) :
    run.hasSucceeded taskId =
      ((run.taskNodes.map outline).find? fun entry =>
        entry.1 = taskId).any fun entry => entry.2.1 = .succeeded := by
  rw [List.find?_map, Option.any_map]
  rfl

theorem SameStatuses.hasSucceeded
    {before after : StaticRun}
    (same : SameStatuses before after)
    (taskId : TaskId) :
    after.hasSucceeded taskId = before.hasSucceeded taskId := by
  rw [hasSucceeded_eq_outline, hasSucceeded_eq_outline, same.nodes]

theorem SameStatuses.isTerminal
    {before after : StaticRun}
    (same : SameStatuses before after) :
    after.isTerminal = before.isTerminal := by
  simp [StaticRun.isTerminal, same.status]

/-- What a run notes beside its statuses leaves it regular. -/
theorem Regular.of_same
    {before after : StaticRun}
    (regular : Regular workflow before)
    (same : SameStatuses before after) :
    Regular workflow after where
  ids := by
    have named : ∀ run : StaticRun,
        run.taskNodes.map StaticTaskNode.taskId =
          (run.taskNodes.map outline).map Prod.fst := fun run => by
      rw [List.map_map]
      rfl
    rw [named, same.nodes, ← named]
    exact regular.ids
  parents := fun node member => by
    obtain ⟨old, inside, outlined⟩ := same.mem member
    simp only [outline, Prod.mk.injEq] at outlined
    rw [← outlined.1, ← outlined.2.2.1]
    exact regular.parents old inside
  children := fun node member => by
    obtain ⟨old, inside, outlined⟩ := same.mem member
    simp only [outline, Prod.mk.injEq] at outlined
    rw [← outlined.1, ← outlined.2.2.2]
    exact regular.children old inside
  quiet := fun terminal node member => by
    obtain ⟨old, inside, outlined⟩ := same.mem member
    simp only [outline, Prod.mk.injEq] at outlined
    rw [← outlined.2.1]
    exact regular.quiet (same.isTerminal.symm.trans terminal) old inside
  succeeded := by
    rw [same.status, regular.succeeded]
    constructor
    · intro all node member
      obtain ⟨old, inside, outlined⟩ := same.mem member
      simp only [outline, Prod.mk.injEq] at outlined
      exact outlined.2.1.symm.trans (all old inside)
    · intro all node member
      obtain ⟨new, inside, outlined⟩ := same.symm.mem member
      simp only [outline, Prod.mk.injEq] at outlined
      exact outlined.2.1.symm.trans (all new inside)
  pending := fun live node member => by
    obtain ⟨old, inside, outlined⟩ := same.mem member
    simp only [outline, Prod.mk.injEq] at outlined
    simp only [same.hasSucceeded]
    rw [← outlined.1, ← outlined.2.1]
    exact regular.pending (same.isTerminal.symm.trans live) old inside
  going := fun live node member => by
    obtain ⟨old, inside, outlined⟩ := same.mem member
    simp only [outline, Prod.mk.injEq] at outlined
    rw [← outlined.2.1]
    exact regular.going (same.isTerminal.symm.trans live) old inside

theorem OthersSucceeded.of_same
    {before after : StaticRun}
    (others : OthersSucceeded before taskId)
    (same : SameStatuses before after) :
    OthersSucceeded after taskId := by
  intro node member differs
  obtain ⟨old, inside, outlined⟩ := same.mem member
  simp only [outline, Prod.mk.injEq] at outlined
  exact outlined.2.1.symm.trans (others old inside (outlined.1 ▸ differs))

/-- A change of the fields of the nodes. -/
theorem sameStatuses_mapNodes
    (run : StaticRun)
    (outlined : ∀ node ∈ run.taskNodes, outline (change node) = outline node) :
    SameStatuses run (run.mapNodes change) where
  status := rfl
  nodes := by
    change (run.taskNodes.map change).map outline = _
    rw [List.map_map]
    exact List.map_congr_left outlined

theorem sameStatuses_updateNode
    (run : StaticRun)
    (taskId : TaskId)
    (outlined :
      ∀ node ∈ run.taskNodes, node.taskId = taskId →
        outline (change node) = outline node) :
    SameStatuses run (run.updateNode taskId change) := by
  refine sameStatuses_mapNodes run fun node member => ?_
  split
  · next same => exact outlined node member same
  · rfl

/-! ## Marks that let the run go on -/

/-- A run that goes on has a task that has not succeeded. -/
theorem Regular.unfinished
    (regular : Regular workflow run)
    (live : run.isTerminal = false) :
    ∃ node ∈ run.taskNodes, node.status ≠ .succeeded := by
  by_contra none
  have all : ∀ node ∈ run.taskNodes, node.status = .succeeded :=
    fun node member => by
      by_contra differs
      exact none ⟨node, member, differs⟩
  have succeeded := regular.succeeded.mpr all
  rw [StaticRun.isTerminal, succeeded] at live
  cases live

/-- No task is pending whose predecessors have all succeeded. -/
theorem Regular.not_pending
    (regular : Regular workflow run)
    (member : node ∈ run.taskNodes)
    (ready :
      ∀ task ∈ workflow.predecessors node.taskId,
        run.hasSucceeded task = true) :
    node.status ≠ .pending := by
  intro pending
  cases ended : run.isTerminal with
  | true =>
      have quiet := regular.quiet ended node member
      rw [pending] at quiet
      cases quiet
  | false =>
      obtain ⟨task, precedes, waiting⟩ :=
        (regular.pending ended node member).mp pending
      rw [ready task precedes] at waiting
      cases waiting

/-- Queueing a task whose predecessors have succeeded changes nothing. -/
theorem sameStatuses_markTaskQueued
    (regular : Regular workflow run)
    (ready :
      ∀ task ∈ workflow.predecessors taskId, run.hasSucceeded task = true) :
    SameStatuses run (run.markTaskQueued taskId) := by
  refine sameStatuses_updateNode run taskId fun node member same => ?_
  have waiting := regular.not_pending member (same ▸ ready)
  rw [if_neg waiting]

theorem sameStatuses_markTaskPending
    (data : PyDict)
    (regular : Regular workflow run)
    (ready :
      ∀ task ∈ workflow.predecessors taskId, run.hasSucceeded task = true) :
    SameStatuses run (run.markTaskPending taskId data) := by
  refine sameStatuses_updateNode run taskId fun node member same => ?_
  have waiting := regular.not_pending member (same ▸ ready)
  simp [outline, waiting]

/-- An unfinished task that can run takes another status in which it can run. -/
theorem Regular.changeStatus
    {run after : StaticRun}
    (regular : Regular workflow run)
    (live : run.isTerminal = false)
    (liveAfter : after.isTerminal = false)
    (nodes : after.taskNodes = (run.updateNode taskId change).taskNodes)
    (keeps : KeepsTask change)
    (status :
      ∀ node, (change node).status = .queued ∨ (change node).status = .running)
    (unfinished : run.hasSucceeded taskId = false)
    (ready :
      ∀ task ∈ workflow.predecessors taskId, run.hasSucceeded task = true) :
    Regular workflow after := by
  have shaped : Shaped workflow after :=
    ((keeps.one taskId).shaped regular.toShaped).of_nodes nodes
  have active : ∀ node,
      (change node).status.isActive = true ∧ (change node).status ≠ .pending ∧
        (change node).status ≠ .succeeded := fun node => by
    rcases status node with queued | running
    · rw [queued]
      exact ⟨rfl, by simp, by simp⟩
    · rw [running]
      exact ⟨rfl, by simp, by simp⟩
  have succeeded : ∀ other, after.hasSucceeded other = run.hasSucceeded other := by
    intro other
    have same := StaticRun.hasSucceeded_updateNode_of_unfinished run keeps.taskId
      (fun node => (active node).2.2) unfinished other
    rw [← same]
    simp only [StaticRun.hasSucceeded, StaticRun.node?, nodes]
  have member_cases : ∀ node ∈ after.taskNodes,
      ∃ old ∈ run.taskNodes, node.taskId = old.taskId ∧
        ((old.taskId = taskId ∧ node = change old) ∨ node = old) := by
    intro node member
    rw [nodes] at member
    obtain ⟨old, inside, rfl⟩ := List.mem_map.mp member
    refine ⟨old, inside, (keeps.one taskId).taskId old, ?_⟩
    split
    · next same => exact Or.inl ⟨same, rfl⟩
    · exact Or.inr rfl
  exact {
    toShaped := shaped
    quiet := fun ended => by
      rw [liveAfter] at ended
      cases ended
    succeeded := by
      refine iff_of_false (fun ended => ?_) fun all => ?_
      · rw [StaticRun.isTerminal, ended] at liveAfter
        cases liveAfter
      · obtain ⟨old, inside, waiting⟩ := regular.unfinished live
        have moved := (keeps.one taskId).taskId old
        have member : (if old.taskId = taskId then change old else old) ∈
            after.taskNodes := by
          rw [nodes]
          exact List.mem_map.mpr ⟨old, inside, rfl⟩
        have done := all _ member
        by_cases same : old.taskId = taskId
        · rw [if_pos same] at done
          exact (active old).2.2 done
        · rw [if_neg same] at done
          exact waiting done
    pending := fun _ node member => by
      obtain ⟨old, inside, named, ⟨same, rfl⟩ | rfl⟩ := member_cases node member
      · rw [named, same]
        refine iff_of_false (active old).2.1 ?_
        rintro ⟨task, precedes, waiting⟩
        rw [succeeded, ready task precedes] at waiting
        cases waiting
      · simp only [succeeded]
        exact regular.pending live node inside
    going := fun _ node member => by
      obtain ⟨old, inside, named, ⟨same, rfl⟩ | rfl⟩ := member_cases node member
      · exact Or.inl (active old).1
      · exact regular.going live node inside }

theorem regular_markTaskStarted
    (data : PyDict)
    (regular : Regular workflow run)
    (live : run.isTerminal = false)
    (unfinished : run.hasSucceeded taskId = false)
    (ready :
      ∀ task ∈ workflow.predecessors taskId, run.hasSucceeded task = true) :
    Regular workflow (run.markTaskStarted taskId data) := by
  have liveAfter : (run.markTaskStarted taskId data).isTerminal = false :=
    (StaticRun.sameProgress_markStarted run).terminal.trans live
  exact regular.changeStatus live liveAfter rfl
    ⟨fun _ => rfl, fun _ => rfl, fun _ => rfl⟩ (fun _ => Or.inr rfl) unfinished
    ready

theorem regular_markTaskRetry
    (error : PyVal)
    (data : PyDict)
    (regular : Regular workflow run)
    (live : run.isTerminal = false)
    (unfinished : run.hasSucceeded taskId = false)
    (ready :
      ∀ task ∈ workflow.predecessors taskId, run.hasSucceeded task = true) :
    Regular workflow (run.markTaskRetry taskId error data) :=
  regular.changeStatus live live rfl ⟨fun _ => rfl, fun _ => rfl, fun _ => rfl⟩
    (fun _ => Or.inl rfl) unfinished ready

/-! ## Marks that end the run -/

/-- A run that has ended without success, with a task that has not succeeded. -/
theorem Shaped.ended
    {workflow : Workflow}
    {run : StaticRun}
    (shaped : Shaped workflow run)
    (terminal : run.isTerminal = true)
    (failed : run.status ≠ .succeeded)
    (quiet : ∀ node ∈ run.taskNodes, node.status.isActive = false)
    (unfinished : ∃ node ∈ run.taskNodes, node.status ≠ .succeeded) :
    Regular workflow run where
  toShaped := shaped
  quiet := fun _ => quiet
  succeeded := by
    obtain ⟨node, member, waiting⟩ := unfinished
    exact iff_of_false failed fun all => waiting (all node member)
  pending := fun live => by
    rw [terminal] at live
    cases live
  going := fun live => by
    rw [terminal] at live
    cases live

/-- A mark that sweeps every task that has not ended. -/
theorem Regular.swept
    {run after : StaticRun}
    (regular : Regular workflow run)
    (live : run.isTerminal = false)
    (keeps : KeepsTask change)
    (quiet :
      ∀ node,
        (change node).status = .cancelled ∨ (change node).status = .timedOut)
    (nodes : after.taskNodes = (run.updateActive change).taskNodes)
    (terminal : after.isTerminal = true)
    (failed : after.status ≠ .succeeded) :
    Regular workflow after := by
  have shaped : Shaped workflow after :=
    (keeps.active.shaped regular.toShaped).of_nodes nodes
  have ended : ∀ node,
      (change node).status.isActive = false ∧
        (change node).status ≠ .succeeded := fun node => by
    rcases quiet node with cancelled | timedOut
    · rw [cancelled]
      exact ⟨rfl, by simp⟩
    · rw [timedOut]
      exact ⟨rfl, by simp⟩
  refine shaped.ended terminal failed ?_ ?_
  · intro node member
    rw [nodes] at member
    obtain ⟨old, _, rfl⟩ := List.mem_map.mp member
    split
    · exact (ended old).1
    · next inactive => simpa using inactive
  · obtain ⟨old, inside, waiting⟩ := regular.unfinished live
    refine ⟨if old.status.isActive then change old else old, ?_, ?_⟩
    · rw [nodes]
      exact List.mem_map.mpr ⟨old, inside, rfl⟩
    · split
      · exact (ended old).2
      · exact waiting

theorem regular_markCancelled
    (reason : PyVal)
    (regular : Regular workflow run) :
    Regular workflow (run.markCancelled reason) := by
  unfold StaticRun.markCancelled
  split
  · exact regular
  · next live =>
    let swept : StaticTaskNode → StaticTaskNode := fun node =>
      { node with status := .cancelled }
    have keeps : KeepsTask swept := ⟨fun _ => rfl, fun _ => rfl, fun _ => rfl⟩
    exact regular.swept (by simpa using live) keeps (fun _ => Or.inl rfl) rfl rfl
      (by simp)

theorem regular_markInterrupted
    (reason : PyVal)
    (regular : Regular workflow run) :
    Regular workflow (run.markInterrupted reason).1 := by
  unfold StaticRun.markInterrupted
  split
  · exact regular
  · next live =>
    let message :=
      reason.orElse (.str "Head process restarted before run completed")
    let swept : StaticTaskNode → StaticTaskNode := fun node =>
      { node with
        status := .cancelled
        fields := (node.fields.set "pending_reason" .null).set "error"
          (.dict [("error_type", .str "interrupted"), ("message", message)]) }
    have keeps : KeepsTask swept := ⟨fun _ => rfl, fun _ => rfl, fun _ => rfl⟩
    exact regular.swept (by simpa using live) keeps (fun _ => Or.inl rfl) rfl rfl
      (by simp)

theorem regular_markDispatchFailed
    (error : PyVal)
    (regular : Regular workflow run)
    (live : run.isTerminal = false) :
    Regular workflow (run.markDispatchFailed error) := by
  let swept : StaticTaskNode → StaticTaskNode := fun node =>
    { node with
      status := .cancelled
      fields := (node.fields.set "pending_reason" .null).set "error" error }
  have keeps : KeepsTask swept := ⟨fun _ => rfl, fun _ => rfl, fun _ => rfl⟩
  exact regular.swept live keeps (fun _ => Or.inl rfl) rfl rfl
    (by simp [StaticRun.markDispatchFailed])

theorem regular_markTimedOut
    (rendering : Rendering)
    (now : Time)
    (regular : Regular workflow run) :
    Regular workflow (run.markTimedOutIfNeeded rendering now).1 := by
  unfold StaticRun.markTimedOutIfNeeded
  split
  · next passed =>
    have live : run.isTerminal = false := by
      unfold StaticRun.deadlinePassed at passed
      split at passed
      · simp only [Bool.and_eq_true, Bool.not_eq_true'] at passed
        exact passed.1
      · cases passed
    let swept : StaticTaskNode → StaticTaskNode := fun node =>
      { node with
        status := .timedOut
        fields := (node.fields.set "pending_reason" .null).set "error"
          (.dict
            [("error_type", .str "timeout"),
              ("message", StaticRun.timeoutMessage rendering run)]) }
    have keeps : KeepsTask swept := ⟨fun _ => rfl, fun _ => rfl, fun _ => rfl⟩
    exact regular.swept live keeps (fun _ => Or.inr rfl) rfl rfl (by simp)
  · exact regular

/-- The exit of the scheduler leaves the tasks that have succeeded. -/
theorem sameSucceeded_markInterrupted
    (run : StaticRun)
    (reason : PyVal) :
    StaticRun.SameSucceeded run (run.markInterrupted reason).1 := by
  unfold StaticRun.markInterrupted
  split
  · exact StaticRun.SameSucceeded.refl run
  · let message :=
      reason.orElse (.str "Head process restarted before run completed")
    let swept : StaticTaskNode → StaticTaskNode := fun node =>
      { node with
        status := .cancelled
        fields := (node.fields.set "pending_reason" .null).set "error"
          (.dict [("error_type", .str "interrupted"), ("message", message)]) }
    have named : ∀ node, (swept node).taskId = node.taskId := fun _ => rfl
    have marked := StaticRun.sameSucceeded_updateActive run named fun _ => by
      simp [swept]
    exact ⟨marked.runId, marked.known, marked.succeeded⟩

theorem isTerminal_markInterrupted
    (run : StaticRun)
    (reason : PyVal) :
    (run.markInterrupted reason).1.isTerminal = true := by
  unfold StaticRun.markInterrupted
  split
  · next terminal => exact terminal
  · rfl

theorem continuation?_markInterrupted
    (run : StaticRun)
    (reason : PyVal)
    (taskId : TaskId) :
    (run.markInterrupted reason).1.continuation? taskId =
      run.continuation? taskId := by
  unfold StaticRun.markInterrupted
  split <;> rfl

theorem sameSucceeded_markDispatchFailed
    (run : StaticRun)
    (error : PyVal) :
    StaticRun.SameSucceeded run (run.markDispatchFailed error) := by
  let swept : StaticTaskNode → StaticTaskNode := fun node =>
    { node with
      status := .cancelled
      fields := (node.fields.set "pending_reason" .null).set "error" error }
  have named : ∀ node, (swept node).taskId = node.taskId := fun _ => rfl
  have marked := StaticRun.sameSucceeded_updateActive run named fun _ => by
    simp [swept]
  exact ⟨marked.runId, marked.known, marked.succeeded⟩

/-- The failure of a task ends the run well if the others have succeeded. -/
theorem regular_markTaskFailed
    (error : PyVal)
    (data : PyDict)
    (shaped : Shaped workflow run)
    (known : taskId ∈ workflow.taskIds)
    (others : OthersSucceeded run taskId) :
    Regular workflow (run.markTaskFailed taskId error data) ∧
      OthersSucceeded (run.markTaskFailed taskId error data) taskId := by
  let failed : StaticTaskNode → StaticTaskNode := fun node =>
    { node with
      status := if StaticRun.isTimeout error then .timedOut else .failed
      fields := StaticRun.withTrace
        (StaticRun.withAttempt
          ((node.fields.set "error" error).set "last_error" error) data)
        (data.get "fault_tolerance") }
  have keeps : KeepsTask failed := ⟨fun _ => rfl, fun _ => rfl, fun _ => rfl⟩
  have status : ∀ node, (failed node).status.isActive = false ∧
      (failed node).status ≠ .succeeded := fun node => by
    dsimp only [failed]
    split <;> exact ⟨rfl, by simp⟩
  have marked : Shaped workflow (run.markTaskFailed taskId error data) :=
    ((keeps.one taskId).shaped shaped).of_nodes rfl
  refine ⟨marked.ended (StaticRun.isTerminal_markTaskFailed run taskId error data)
    ?_ ?_ ?_, ?_⟩
  · simp only [StaticRun.markTaskFailed]
    split <;> simp
  · intro node member
    obtain ⟨old, inside, rfl⟩ := List.mem_map.mp member
    split
    · exact (status old).1
    · next differs => rw [others old inside differs]; rfl
  · obtain ⟨node, member, rfl⟩ := shaped.exists_node known
    refine ⟨failed node, ?_, (status node).2⟩
    exact List.mem_map.mpr ⟨node, member, if_pos rfl⟩
  · intro node member differs
    obtain ⟨old, inside, rfl⟩ := List.mem_map.mp member
    by_cases same : old.taskId = taskId
    · simp [same] at differs
    · rw [if_neg same]
      exact others old inside same

/-! ## Finished tasks -/

/-- The node that a finished task has. -/
def finishedNode
    (manifest : PyVal)
    (data : PyDict)
    (node : StaticTaskNode) :
    StaticTaskNode :=
  { node with
    status := .succeeded
    fields := StaticRun.finishedFields node.fields manifest data }

theorem finishedNode_keeps
    (manifest : PyVal)
    (data : PyDict) :
    KeepsTask (finishedNode manifest data) :=
  ⟨fun _ => rfl, fun _ => rfl, fun _ => rfl⟩

/-- Queue a child of a finished task if it can go. -/
def queuedChild
    (finished : StaticRun)
    (children : List TaskId)
    (node : StaticTaskNode) :
    StaticTaskNode :=
  if node.taskId ∈ children ∧ node.status = .pending ∧
      finished.parentsSucceeded node then
    { node with status := .queued }
  else
    node

theorem queuedChild_keeps
    (finished : StaticRun)
    (children : List TaskId) :
    KeepsTask (queuedChild finished children) := by
  refine ⟨fun node => ?_, fun node => ?_, fun node => ?_⟩
  · unfold queuedChild
    split <;> rfl
  · unfold queuedChild
    split <;> rfl
  · unfold queuedChild
    split <;> rfl

theorem finishNode_eq
    (run : StaticRun)
    (taskId : TaskId)
    (manifest : PyVal)
    (data : PyDict) :
    run.finishNode taskId manifest data =
      (run.updateNode taskId (finishedNode manifest data)).mapNodes
        (queuedChild (run.updateNode taskId (finishedNode manifest data))
          (((run.node? taskId).map StaticTaskNode.children).getD [])) :=
  rfl

/-- Queueing the children decides no task to have succeeded. -/
theorem queuedChild_succeeded
    (finished : StaticRun)
    (children : List TaskId)
    (node : StaticTaskNode) :
    (queuedChild finished children node).status = .succeeded ↔
      node.status = .succeeded := by
  unfold queuedChild
  split
  · next child => simp [child.2.1]
  · rfl

theorem finishNode_shaped
    (taskId : TaskId)
    (manifest : PyVal)
    (data : PyDict)
    (shaped : Shaped workflow run) :
    Shaped workflow (run.finishNode taskId manifest data) := by
  rw [finishNode_eq]
  exact (queuedChild_keeps _ _).shaped
    (((finishedNode_keeps manifest data).one taskId).shaped shaped)

/-- The nodes of a run in which a task has finished. -/
theorem mem_finishNode
    {manifest : PyVal}
    {data : PyDict}
    (member : node ∈ (run.finishNode taskId manifest data).taskNodes) :
    ∃ old ∈ run.taskNodes, node.taskId = old.taskId ∧
      ((old.taskId = taskId ∧ node.status = .succeeded) ∨
        (old.taskId ≠ taskId ∧
          node = queuedChild
            (run.updateNode taskId (finishedNode manifest data))
            (((run.node? taskId).map StaticTaskNode.children).getD []) old)) := by
  rw [finishNode_eq] at member
  obtain ⟨middle, inside, rfl⟩ := List.mem_map.mp member
  obtain ⟨old, origin, rfl⟩ := List.mem_map.mp inside
  have named := ((finishedNode_keeps manifest data).one taskId).taskId old
  refine ⟨old, origin, ((queuedChild_keeps _ _).taskId _).trans named, ?_⟩
  by_cases same : old.taskId = taskId
  · refine Or.inl ⟨same, (queuedChild_succeeded _ _ _).mpr ?_⟩
    rw [if_pos same]
    rfl
  · rw [if_neg same]
    exact Or.inr ⟨same, rfl⟩

/-- The others have succeeded where all have after a task has finished. -/
theorem others_of_allFinished
    {manifest : PyVal}
    {data : PyDict}
    (all : (run.finishNode taskId manifest data).allTasksFinished = true) :
    OthersSucceeded run taskId := by
  intro node member differs
  rw [StaticRun.allTasksFinished, List.all_eq_true] at all
  let finished := run.updateNode taskId (finishedNode manifest data)
  let children := ((run.node? taskId).map StaticTaskNode.children).getD []
  have inside : queuedChild finished children node ∈
      (run.finishNode taskId manifest data).taskNodes := by
    rw [finishNode_eq]
    refine List.mem_map.mpr ⟨node, ?_, rfl⟩
    exact List.mem_map.mpr ⟨node, member, if_neg differs⟩
  have done := all _ inside
  exact (queuedChild_succeeded finished children node).mp (by simpa using done)

/-- A run that goes on after a task has finished is regular. -/
theorem regular_finishNode
    (manifest : PyVal)
    (data : PyDict)
    (regular : Regular workflow run)
    (live : run.isTerminal = false)
    (known : taskId ∈ workflow.taskIds)
    (ready :
      ∀ task ∈ workflow.predecessors taskId, run.hasSucceeded task = true)
    (more : (run.finishNode taskId manifest data).allTasksFinished = false) :
    Regular workflow (run.finishNode taskId manifest data) := by
  let finished := run.updateNode taskId (finishedNode manifest data)
  obtain ⟨self, present, named⟩ := regular.exists_node known
  have found : run.node? taskId = some self :=
    named ▸ regular.node?_of_mem present
  have children : ((run.node? taskId).map StaticTaskNode.children).getD [] =
      workflow.successors taskId := by
    rw [found, Option.map_some, Option.getD_some, regular.children self present,
      named]
  have succeeded : ∀ other,
      (run.finishNode taskId manifest data).hasSucceeded other =
        (run.hasSucceeded other || decide (other = taskId)) := by
    intro other
    rw [StaticRun.hasSucceeded_finishNode, found]
    simp
  have finishedSame : ∀ other, finished.hasSucceeded other =
      (run.finishNode taskId manifest data).hasSucceeded other := by
    intro other
    rw [finishNode_eq]
    exact ((StaticRun.sameProgress_mapNodes finished
      (queuedChild_keeps finished _).taskId
      (queuedChild_succeeded finished _)).succeeded other).symm
  exact {
    toShaped := finishNode_shaped taskId manifest data regular.toShaped
    quiet := fun ended => by
      have same : run.isTerminal = true := ended
      rw [live] at same
      cases same
    succeeded := by
      refine iff_of_false (fun ended => ?_) fun all => ?_
      · have same : run.status = .succeeded := ended
        rw [StaticRun.isTerminal, same] at live
        cases live
      · rw [StaticRun.allTasksFinished, List.all_eq_false] at more
        obtain ⟨node, member, waiting⟩ := more
        simp [all node member] at waiting
    pending := fun _ node member => by
      obtain ⟨old, inside, same, ⟨here, done⟩ | ⟨differs, moved⟩⟩ :=
        mem_finishNode member
      · rw [done, same, here]
        refine iff_of_false (by simp) ?_
        rintro ⟨task, precedes, waiting⟩
        rw [succeeded, ready task precedes] at waiting
        cases waiting
      · have before := regular.pending live old inside
        rw [children] at moved
        rw [same]
        by_cases child : old.taskId ∈ workflow.successors taskId ∧
            old.status = .pending ∧ finished.parentsSucceeded old = true
        · -- the last predecessor has finished
          have queued : node.status = .queued := by
            rw [moved, queuedChild, if_pos child]
          rw [queued]
          refine iff_of_false (by simp) ?_
          rintro ⟨task, precedes, waiting⟩
          have parents := child.2.2
          rw [StaticRun.parentsSucceeded, regular.parents old inside,
            List.all_eq_true] at parents
          rw [← finishedSame, parents task precedes] at waiting
          cases waiting
        · have kept : node = old := by
            rw [moved, queuedChild, if_neg child]
          rw [kept, before]
          constructor
          · rintro ⟨task, precedes, waiting⟩
            have pending := before.mpr ⟨task, precedes, waiting⟩
            by_cases isChild : old.taskId ∈ workflow.successors taskId
            · have some_ : finished.parentsSucceeded old = false := by
                cases all : finished.parentsSucceeded old with
                | true => exact absurd ⟨isChild, pending, all⟩ child
                | false => rfl
              rw [StaticRun.parentsSucceeded, regular.parents old inside,
                List.all_eq_false] at some_
              obtain ⟨other, otherPrecedes, otherWaiting⟩ := some_
              refine ⟨other, otherPrecedes, ?_⟩
              rw [← finishedSame]
              simpa using otherWaiting
            · -- the finished task is none of its predecessors
              have other : task ≠ taskId := by
                rintro rfl
                exact isChild ((StaticCore.mem_successors_iff workflow task
                  old.taskId).mpr precedes)
              refine ⟨task, precedes, ?_⟩
              simp [succeeded, waiting, other]
          · rintro ⟨task, precedes, waiting⟩
            rw [succeeded, Bool.or_eq_false_iff] at waiting
            exact ⟨task, precedes, waiting.1⟩
    going := fun _ node member => by
      obtain ⟨old, inside, same, ⟨here, done⟩ | ⟨differs, moved⟩⟩ :=
        mem_finishNode member
      · exact Or.inr done
      · rw [moved, queuedChild]
        split
        · exact Or.inl rfl
        · exact regular.going live old inside }

/-- A finished task keeps the run regular, whether its outputs are found or not. -/
theorem regular_markTaskFinished
    (rendering : Rendering)
    (manifest : PyVal)
    (data : PyDict)
    (regular : Regular workflow run)
    (live : run.isTerminal = false)
    (known : taskId ∈ workflow.taskIds)
    (ready :
      ∀ task ∈ workflow.predecessors taskId, run.hasSucceeded task = true) :
    let marked := run.markTaskFinished rendering taskId manifest data
    Regular workflow marked.1 ∧
      (marked.2 ≠ none → OthersSucceeded marked.1 taskId) := by
  have waiting : run.status ≠ .succeeded := fun succeeded => by
    rw [StaticRun.isTerminal, succeeded] at live
    cases live
  unfold StaticRun.markTaskFinished
  split
  · exact ⟨regular, fun impossible => absurd rfl impossible⟩
  · split
    · exact ⟨regular, fun impossible => absurd rfl impossible⟩
    · dsimp only
      cases all : (run.finishNode taskId manifest data).allTasksFinished with
      | false =>
          exact ⟨regular_finishNode manifest data regular live known ready all,
            fun impossible => absurd rfl impossible⟩
      | true =>
          have others := others_of_allFinished all
          rw [if_pos rfl]
          cases marked : (run.finishNode taskId manifest data).markSucceeded with
          | error missing =>
              obtain ⟨failed, still⟩ := regular_markTaskFailed
                (finalOutputDetail rendering taskId missing) data
                regular.toShaped known others
              exact ⟨failed, fun _ => still⟩
          | ok succeeded =>
              refine ⟨?_, fun impossible => absurd rfl impossible⟩
              rw [StaticRun.allTasksFinished, List.all_eq_true] at all
              have every : ∀ node ∈
                  (run.finishNode taskId manifest data).taskNodes,
                  node.status = .succeeded :=
                fun node member => by simpa using all node member
              have result : succeeded.status = .succeeded ∧
                  succeeded.taskNodes =
                    (run.finishNode taskId manifest data).taskNodes := by
                unfold StaticRun.markSucceeded at marked
                split at marked
                · next impossible => exact absurd impossible waiting
                · split at marked
                  · cases marked
                    exact ⟨rfl, rfl⟩
                  · cases marked
              exact {
                toShaped := (finishNode_shaped taskId manifest data
                  regular.toShaped).of_nodes result.2
                quiet := fun _ node member => by
                  rw [result.2] at member
                  rw [every node member]
                  rfl
                succeeded := by
                  rw [result.2]
                  exact iff_of_true result.1 every
                pending := fun impossible => by
                  rw [StaticRun.isTerminal, result.1] at impossible
                  cases impossible
                going := fun impossible => by
                  rw [StaticRun.isTerminal, result.1] at impossible
                  cases impossible }

end Maze.Core.StaticMarks
