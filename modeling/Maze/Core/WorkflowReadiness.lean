import Maze.Core.DynamicDepths
import Maze.Core.WorkflowGraph

namespace Maze.Core.WorkflowGraph

open Maze.Library
open Maze.Library.Transition
open Maze.Python

/-!
# When the tasks of a workflow become ready

Whatever the order in which the tasks finish, each task that depends on others is
reported once, by the finish of the last of them, and the counters agree with the tasks
that have not completed.
-/

/-! ## Workflows as they are built -/

/-- A workflow none of whose tasks has completed. -/
structure Built (workflow : Workflow) : Prop where
  keys : workflow.tasks.map Prod.fst = workflow.graph.nodes
  own : ∀ entry ∈ workflow.tasks, entry.2.taskId = entry.1
  waiting : ∀ entry ∈ workflow.tasks, entry.2.completed = false
  counted : workflow.remainingTaskNum = workflow.tasks.length
  acyclic : Digraph.Acyclic workflow.graph.Edge

theorem built_new : Built .new where
  keys := rfl
  own := by simp [Workflow.new]
  waiting := by simp [Workflow.new]
  counted := rfl
  acyclic := by
    intro vertex path
    obtain ⟨next, step, _⟩ := Relation.TransGen.head'_iff.mp path
    cases step

theorem nodes_addEdge
    {graph : DiGraph}
    {source target : TaskId}
    (sourceKnown : source ∈ graph.nodes)
    (targetKnown : target ∈ graph.nodes) :
    (graph.addEdge source target).nodes = graph.nodes := by
  unfold DiGraph.addEdge
  split
  · rfl
  · simp only [DiGraph.nodes_addNode_of_mem sourceKnown, DiGraph.nodes_addNode_of_mem targetKnown]

/-- An edge that is taken back leaves the edges that were there before. -/
theorem edge_of_removeEdge
    {graph : DiGraph}
    {source target first second : TaskId}
    (step : ((graph.addEdge source target).removeEdge source target).Edge first second) :
    graph.Edge first second := by
  unfold DiGraph.Edge DiGraph.removeEdge at step
  obtain ⟨differ, member⟩ := (graph.addEdge source target).single.mem_erase_iff.mp step
  unfold DiGraph.addEdge at member
  split at member
  · exact member
  · rcases List.mem_append.mp member with old | new
    · exact old
    · exact absurd (List.mem_singleton.mp new) differ

variable
  {strategy : PyStr}
  {order : List TaskId}
  {nx : Networkx}
  {workflow : Workflow}
  {taskId : TaskId}

theorem addEdge_spec
    (correct : nx.Correct)
    (built : Built workflow)
    (source target : TaskId) :
    Built (workflow.addEdge nx source target).1 ∧
      (workflow.addEdge nx source target).1.graph.nodes = workflow.graph.nodes := by
  unfold Workflow.addEdge
  split
  · exact ⟨built, rfl⟩
  · next known =>
    obtain ⟨sourceKnown, targetKnown⟩ := not_or.mp known
    have same := nodes_addEdge (not_not.mp sourceKnown) (not_not.mp targetKnown)
    dsimp only
    split
    · next passed =>
      exact ⟨{ built with
        keys := built.keys.trans same.symm
        acyclic := (correct.acyclic _).mp passed }, same⟩
    · exact ⟨{ built with
        keys := built.keys.trans same.symm
        acyclic := built.acyclic.mono edge_of_removeEdge }, same⟩

theorem addTask_spec
    (built : Built workflow)
    (taskId : TaskId)
    (taskKind : Option TaskKind)
    (fresh : taskId ∉ workflow.graph.nodes) :
    ∃ added, workflow.addTask taskId ⟨taskId, taskKind, false⟩ = .ok added ∧
      Built added ∧ added.graph.nodes = workflow.graph.nodes ++ [taskId] := by
  have grown : (workflow.graph.addNode taskId).nodes = workflow.graph.nodes ++ [taskId] := by
    rw [DiGraph.addNode, dif_neg fresh]
  have tasks : Dict.set workflow.tasks taskId ⟨taskId, taskKind, false⟩ =
      workflow.tasks ++ [(taskId, ⟨taskId, taskKind, false⟩)] :=
    Dict.set_of_absent (built.keys ▸ fresh) _
  refine ⟨_, if_neg (not_not.mpr rfl), ?_, grown⟩
  constructor
  · rw [tasks, List.map_append, built.keys, grown]
    rfl
  · intro entry member
    rw [tasks] at member
    rcases List.mem_append.mp member with old | new
    · exact built.own entry old
    · rw [List.mem_singleton.mp new]
  · intro entry member
    rw [tasks] at member
    rcases List.mem_append.mp member with old | new
    · exact built.waiting entry old
    · rw [List.mem_singleton.mp new]
  · rw [tasks, List.length_append, List.length_singleton, built.counted]
    rfl
  · refine built.acyclic.mono fun step => ?_
    simpa [DiGraph.Edge] using step

/-- The calls build a workflow whose nodes are the tasks that were added. -/
theorem build_spec
    (correct : nx.Correct)
    {calls : List BuildCall}
    (once : AddedOnce calls) :
    Built (build nx calls) ∧
      (build nx calls).graph.nodes = calls.filterMap BuildCall.added? := by
  induction calls using List.reverseRecOn with
  | nil => exact ⟨built_new, rfl⟩
  | append_singleton calls last inductionHypothesis =>
      unfold AddedOnce at once
      rw [List.filterMap_append, List.nodup_append] at once
      obtain ⟨built, nodes⟩ := inductionHypothesis once.1
      have next : build nx (calls ++ [last]) = call nx (build nx calls) last :=
        List.foldl_concat ..
      rw [next, List.filterMap_append, ← nodes]
      cases last with
      | addEdge source target =>
          have spec := addEdge_spec correct built source target
          exact ⟨spec.1, spec.2.trans (by simp [BuildCall.added?])⟩
      | addTask taskId ownId taskKind =>
          by_cases same : taskId = ownId
          · subst same
            have fresh : taskId ∉ (build nx calls).graph.nodes := fun member =>
              once.2.2 taskId (nodes ▸ member) taskId (by simp [BuildCall.added?]) rfl
            obtain ⟨added, ran, addedBuilt, grown⟩ := addTask_spec built taskId taskKind fresh
            have called : call nx (build nx calls) (.addTask taskId taskId taskKind) = added := by
              rw [call, ran]
            rw [called]
            exact ⟨addedBuilt, grown.trans (by simp [BuildCall.added?])⟩
          · have called :
                call nx (build nx calls) (.addTask taskId ownId taskKind) = build nx calls := by
              rw [call, Workflow.addTask, if_pos same]
            rw [called]
            exact ⟨built, by simp [BuildCall.added?, same]⟩

/-! ## Workflows as they are prepared -/

theorem Built.distinct
    (built : Built workflow) :
    (workflow.tasks.map Prod.fst).Nodup :=
  built.keys ▸ workflow.graph.distinct

theorem Built.lookup
    (built : Built workflow)
    (known : taskId ∈ workflow.graph.nodes) :
    ∃ task, (taskId, task) ∈ workflow.tasks ∧ workflow.tasks.lookup taskId = some task := by
  rw [← built.keys] at known
  obtain ⟨⟨_, task⟩, member, rfl⟩ := List.mem_map.mp known
  exact ⟨task, member, (Dict.lookup_eq_some_iff built.distinct _ _).mpr member⟩

/-- The types of the tasks are noted, and those for a GPU counted. -/
theorem noteTaskTypes_spec
    (workflow : Workflow)
    {entries : List (TaskId × Task)}
    (distinct : (entries.map Prod.fst).Nodup)
    (known : ∀ entry ∈ entries, workflow.tasks.lookup entry.1 = some entry.2)
    (noted : List (TaskId × TaskKind) × Int) :
    ∃ taskTypes,
      (entries.map Prod.fst).foldlM workflow.noteTaskType noted =
        .ok (taskTypes, noted.2 + ((entries.map Prod.snd).countP usesGpu : ℕ)) ∧
      (∀ entry ∈ entries, taskTypes.lookup entry.1 = some entry.2.kind) ∧
      ∀ taskId ∉ entries.map Prod.fst, taskTypes.lookup taskId = noted.1.lookup taskId := by
  induction entries generalizing noted with
  | nil => exact ⟨noted.1, by simp; rfl, by simp, fun _ _ => rfl⟩
  | cons first rest inductionHypothesis =>
      obtain ⟨apart, restDistinct⟩ := List.nodup_cons.mp distinct
      obtain ⟨firstKnown, restKnown⟩ := List.forall_mem_cons.mp known
      have step : workflow.noteTaskType noted first.1 =
          .ok (Dict.set noted.1 first.1 first.2.kind,
            if first.2.kind = .gpu then noted.2 + 1 else noted.2) := by
        simp only [Workflow.noteTaskType, Workflow.getTaskType, Workflow.getTask, firstKnown]
        rfl
      obtain ⟨taskTypes, ran, inside, outside⟩ := inductionHypothesis restDistinct restKnown
        (Dict.set noted.1 first.1 first.2.kind,
          if first.2.kind = .gpu then noted.2 + 1 else noted.2)
      refine ⟨taskTypes, ?_, ?_, ?_⟩
      · rw [List.map_cons, List.foldlM_cons, step]
        refine ran.trans ?_
        rw [List.map_cons, List.countP_cons]
        by_cases gpu : first.2.kind = .gpu
        · simp only [gpu, usesGpu, if_true, decide_true, Nat.cast_add, Nat.cast_one,
            add_assoc, add_comm]
        · simp [gpu, usesGpu]
      · intro entry member
        rcases List.mem_cons.mp member with rfl | later
        · rw [outside _ apart, Dict.lookup_set, if_pos rfl]
        · exact inside entry later
      · intro taskId absent
        obtain ⟨differ, later⟩ := not_or.mp (List.mem_cons.not.mp absent)
        rw [outside taskId later, Dict.lookup_set, if_neg differ]

/-- A workflow that has been prepared for the runs of a strategy. -/
structure Prepared
    (workflow : Workflow)
    (strategy : PyStr)
    (prepared : Workflow) : Prop where
  built : Built prepared
  graph : prepared.graph = workflow.graph
  types : strategy = "HACS" → ∀ entry ∈ prepared.tasks,
    prepared.taskTypes.lookup entry.1 = some entry.2.kind
  gpus : strategy = "HACS" →
    prepared.remainingGpuTasks = ((prepared.tasks.map Prod.snd).countP usesGpu : ℕ)
  depths : strategy = "HACS" → ∀ taskId ∈ prepared.graph.nodes, Depths prepared taskId

theorem prepareForStrategy_spec
    (correct : nx.Correct)
    (built : Built workflow)
    (strategy : PyStr) :
    ∃ prepared, workflow.prepareForStrategy nx strategy = .ok prepared ∧
      Prepared workflow strategy prepared := by
  by_cases hacs : strategy = "HACS"
  · obtain ⟨taskTypes, noted, types, _⟩ := noteTaskTypes_spec workflow built.distinct
      (fun entry member => (Dict.lookup_eq_some_iff built.distinct _ _).mpr member)
      (workflow.taskTypes, 0)
    obtain ⟨order, sorts, perm, sorted⟩ := correct.sorted workflow.graph built.acyclic
    have distinct : order.Nodup := perm.nodup_iff.mpr workflow.graph.distinct
    have turned : Digraph.Sorted workflow.graph.successors order.reverse := by
      refine sorted.reverse distinct fun source _ target isSuccessor => ?_
      have step := (workflow.graph.mem_successors source target).mp isSuccessor
      exact ⟨perm.mem_iff.mpr (workflow.graph.ends _ step).2,
        (workflow.graph.mem_predecessors source target).mpr step⟩
    rw [built.keys] at noted
    refine ⟨workflow.withAttributes taskTypes ((workflow.tasks.map Prod.snd).countP usesGpu : ℕ)
      order, ?_, ?_⟩
    · rw [Workflow.prepareForStrategy, if_neg (not_not.mpr hacs), noted, zero_add]
      simp only [sorts]
      rfl
    · refine ⟨{ built with }, rfl, fun _ => types, fun _ => rfl, fun _ taskId known => ?_⟩
      constructor
      · exact Digraph.findLayers_isGreatest distinct sorted
          (fun source target => (workflow.graph.mem_predecessors source target).symm)
          workflow.nAnc (perm.mem_iff.mpr known)
      · rw [← Digraph.lengthsTo_flip]
        exact Digraph.findLayers_isGreatest (List.nodup_reverse.mpr distinct) turned
          (fun source target => (workflow.graph.mem_successors target source).symm)
          workflow.nDesc (List.mem_reverse.mpr (perm.mem_iff.mpr known))
  · exact ⟨workflow, if_pos hacs, built, rfl, fun same => absurd same hacs,
      fun same => absurd same hacs, fun same => absurd same hacs⟩

/-! ## One finish -/

/-- A workflow after the finishes of some tasks. -/
structure Running
    (prepared : Workflow)
    (strategy : PyStr)
    (order : List TaskId)
    (workflow : Workflow) : Prop where
  graph : workflow.graph = prepared.graph
  tasks : workflow.tasks = prepared.tasks.map fun entry =>
    (entry.1, { entry.2 with completed := decide (entry.1 ∈ order) })
  types : workflow.taskTypes = prepared.taskTypes
  counted : workflow.remainingTaskNum = (unfinished workflow).length
  valued : strategy = "HACS" →
    workflow.remainingGpuTasks = ((unfinished workflow).filter usesGpu).length
  nAnc : workflow.nAnc = prepared.nAnc
  nDesc : workflow.nDesc = prepared.nDesc

theorem Running.lookup
    {prepared workflow : Workflow}
    (running : Running prepared strategy order workflow)
    (taskId : TaskId) :
    workflow.tasks.lookup taskId = (prepared.tasks.lookup taskId).map fun task =>
      { task with completed := decide (taskId ∈ order) } := by
  rw [running.tasks]
  exact Dict.lookup_map prepared.tasks
    (fun taskId task => { task with completed := decide (taskId ∈ order) }) taskId

theorem Running.distinct
    {prepared workflow : Workflow}
    (built : Built prepared)
    (running : Running prepared strategy order workflow) :
    (workflow.tasks.map Prod.fst).Nodup := by
  rw [running.tasks, List.map_map]
  exact built.distinct

/-- The tasks of the nodes are there, with flags that tell which have finished. -/
theorem Running.getTask
    {prepared workflow : Workflow}
    (built : Built prepared)
    (running : Running prepared strategy order workflow)
    (known : taskId ∈ prepared.graph.nodes) :
    ∃ task, workflow.getTask taskId = .ok task ∧ task.taskId = taskId ∧
      (task.completed = true ↔ taskId ∈ order) := by
  obtain ⟨task, member, found⟩ := built.lookup known
  refine ⟨{ task with completed := decide (taskId ∈ order) }, ?_, built.own _ member, by simp⟩
  rw [Workflow.getTask, running.lookup, found]
  rfl

/-- The tasks that depend on nothing else any more are picked. -/
theorem Running.ready
    {prepared workflow : Workflow}
    (built : Built prepared)
    (running : Running prepared strategy order workflow)
    {successors : List TaskId}
    (known : ∀ successor ∈ successors, successor ∈ prepared.graph.nodes)
    (ready : List Task) :
    ∃ tasks, successors.foldlM workflow.noteReady ready = .ok tasks ∧
      tasks.map Task.taskId = ready.map Task.taskId ++ successors.filter fun successor =>
        ∀ source ∈ prepared.graph.predecessors successor, source ∈ order := by
  induction successors generalizing ready with
  | nil => exact ⟨ready, rfl, by simp⟩
  | cons first rest inductionHypothesis =>
      obtain ⟨firstKnown, restKnown⟩ := List.forall_mem_cons.mp known
      have found : ∀ source ∈ prepared.graph.predecessors first,
          ∃ task, workflow.getTask source = .ok task ∧ task.taskId = source ∧
            (task.completed = true ↔ source ∈ order) := by
        intro source isPredecessor
        have step := (prepared.graph.mem_predecessors source first).mp isPredecessor
        exact running.getTask built (prepared.graph.ends _ step).1
      obtain ⟨predTasks, got⟩ := mapM_of_forall fun source isPredecessor =>
        (found source isPredecessor).imp fun _ task => task.1
      have all : predTasks.all (·.completed) = true ↔
          ∀ source ∈ prepared.graph.predecessors first, source ∈ order := by
        rw [List.all_eq_true]
        constructor
        · intro completed source isPredecessor
          obtain ⟨task, there, gotTask⟩ := mem_mapM_of_mem got isPredecessor
          obtain ⟨other, gotOther, _, flag⟩ := found source isPredecessor
          rw [gotTask] at gotOther
          cases gotOther
          exact flag.mp (completed task there)
        · intro finished task there
          obtain ⟨source, isPredecessor, gotTask⟩ := mem_of_mapM got there
          obtain ⟨other, gotOther, _, flag⟩ := found source isPredecessor
          rw [gotTask] at gotOther
          cases gotOther
          exact flag.mpr (finished source isPredecessor)
      obtain ⟨task, gotTask, own, _⟩ := running.getTask built firstKnown
      rw [List.foldlM_cons]
      by_cases isReady : ∀ source ∈ prepared.graph.predecessors first, source ∈ order
      · obtain ⟨tasks, ran, ids⟩ := inductionHypothesis restKnown (ready ++ [task])
        have step : workflow.noteReady ready first = .ok (ready ++ [task]) := by
          simp only [Workflow.noteReady, running.graph, got, gotTask, bind, Except.bind,
            all.mpr isReady, if_true]
        refine ⟨tasks, ?_, ?_⟩
        · rw [step]
          exact ran
        · rw [ids, List.filter_cons, if_pos (by simpa using isReady)]
          simp [own]
      · obtain ⟨tasks, ran, ids⟩ := inductionHypothesis restKnown ready
        have step : workflow.noteReady ready first = .ok ready := by
          simp only [Workflow.noteReady, running.graph, got, bind, Except.bind,
            if_neg (all.not.mpr isReady)]
        refine ⟨tasks, ?_, ?_⟩
        · rw [step]
          exact ran
        · rw [ids, List.filter_cons, if_neg (by simpa using isReady)]

theorem unfinished_length (workflow : Workflow) :
    (unfinished workflow).length =
      (workflow.tasks.map Prod.snd).countP fun task => !task.completed :=
  List.countP_eq_length_filter.symm

theorem unfinished_usesGpu_length (workflow : Workflow) :
    ((unfinished workflow).filter usesGpu).length =
      (workflow.tasks.map Prod.snd).countP fun task => usesGpu task && !task.completed := by
  rw [unfinished, List.filter_filter, List.countP_eq_length_filter]

/-- A task that finishes is counted, and is not counted again. -/
theorem Running.complete
    {prepared workflow : Workflow}
    (built : Built prepared)
    (types : strategy = "HACS" → ∀ entry ∈ prepared.tasks,
      prepared.taskTypes.lookup entry.1 = some entry.2.kind)
    (running : Running prepared strategy order workflow)
    (known : taskId ∈ prepared.graph.nodes)
    (fresh : taskId ∉ order) :
    Running prepared strategy (order ++ [taskId]) (workflow.complete taskId strategy) := by
  obtain ⟨task, member, found⟩ := built.lookup known
  have waiting : workflow.tasks.lookup taskId = some { task with completed := false } := by
    rw [running.lookup, found, decide_eq_false fresh]
    rfl
  have tasks : (workflow.complete taskId strategy).tasks =
      Dict.modify workflow.tasks taskId fun task => { task with completed := true } := by
    unfold Workflow.complete
    dsimp only
    split <;> rfl
  have fewer : (unfinished (workflow.complete taskId strategy)).length + 1 =
      (unfinished workflow).length := by
    rw [unfinished_length, unfinished_length, tasks]
    simpa using Dict.countP_modify (running.distinct built) waiting
      (fun task => { task with completed := true }) fun task => !task.completed
  have fewerGpus :
      ((unfinished (workflow.complete taskId strategy)).filter usesGpu).length +
          (if usesGpu task then 1 else 0) =
        ((unfinished workflow).filter usesGpu).length := by
    rw [unfinished_usesGpu_length, unfinished_usesGpu_length, tasks]
    have counts := Dict.countP_modify (running.distinct built) waiting
      (fun task => { task with completed := true }) fun task => usesGpu task && !task.completed
    simp only [Bool.not_false, Bool.and_true, Bool.not_true, Bool.and_false, Bool.false_eq_true,
      if_false, add_zero] at counts
    exact counts
  constructor
  case graph =>
    rw [← running.graph, Workflow.complete]
    split <;> rfl
  case tasks =>
    rw [tasks, running.tasks, Dict.modify, List.map_map]
    refine List.map_congr_left fun entry _ => ?_
    by_cases same : entry.1 = taskId <;> simp [same]
  case types =>
    rw [← running.types, Workflow.complete]
    split <;> rfl
  case counted =>
    have lowered : (workflow.complete taskId strategy).remainingTaskNum =
        workflow.remainingTaskNum - 1 := by
      unfold Workflow.complete
      dsimp only
      split <;> rfl
    rw [lowered, running.counted]
    omega
  case valued =>
    intro hacs
    have typed : workflow.taskTypes.lookup taskId = some task.kind := by
      rw [running.types]
      exact types hacs _ member
    have before := running.valued hacs
    have remaining : (workflow.complete taskId strategy).remainingGpuTasks =
        if usesGpu task then Workflow.lowered workflow.remainingGpuTasks
        else workflow.remainingGpuTasks := by
      unfold Workflow.complete
      simp only [typed, hacs, true_and, Option.some_inj, usesGpu, decide_eq_true_eq]
      split <;> rfl
    rw [remaining]
    by_cases gpu : usesGpu task = true
    · rw [if_pos gpu] at fewerGpus ⊢
      rw [Workflow.lowered, if_pos (by omega)]
      omega
    · rw [if_neg gpu] at fewerGpus ⊢
      omega
  case nAnc =>
    rw [← running.nAnc, Workflow.complete]
    split <;> rfl
  case nDesc =>
    rw [← running.nDesc, Workflow.complete]
    split <;> rfl

theorem Running.finishTask
    {prepared workflow : Workflow}
    (built : Built prepared)
    (types : strategy = "HACS" → ∀ entry ∈ prepared.tasks,
      prepared.taskTypes.lookup entry.1 = some entry.2.kind)
    (running : Running prepared strategy order workflow)
    (known : taskId ∈ prepared.graph.nodes)
    (fresh : taskId ∉ order) :
    ∃ next ready, workflow.finishTask taskId strategy = .ok (next, ready) ∧
      Running prepared strategy (order ++ [taskId]) next ∧
      ready.map Task.taskId = (prepared.graph.successors taskId).filter fun successor =>
        ∀ source ∈ prepared.graph.predecessors successor, source ∈ order ++ [taskId] := by
  have next := running.complete built types known fresh
  obtain ⟨task, _, found⟩ := built.lookup known
  have there : ¬(workflow.tasks.lookup taskId).isNone := by
    rw [running.lookup, found]
    exact Bool.false_ne_true
  have successors : ∀ successor ∈ prepared.graph.successors taskId,
      successor ∈ prepared.graph.nodes := fun successor isSuccessor =>
    (prepared.graph.ends _ ((prepared.graph.mem_successors taskId successor).mp isSuccessor)).2
  obtain ⟨ready, ran, ids⟩ := next.ready built successors []
  refine ⟨_, ready, ?_, next, by simpa using ids⟩
  rw [Workflow.finishTask, if_neg there]
  simp only [next.graph, ran]
  rfl

/-! ## All finishes -/

theorem Prepared.running
    {workflow prepared : Workflow}
    (isPrepared : Prepared workflow strategy prepared) :
    Running prepared strategy [] prepared := by
  have waiting : unfinished prepared = prepared.tasks.map Prod.snd := by
    refine List.filter_eq_self.mpr fun task member => ?_
    obtain ⟨entry, inside, rfl⟩ := List.mem_map.mp member
    simpa using isPrepared.built.waiting entry inside
  constructor
  case graph => rfl
  case types => rfl
  case nAnc => rfl
  case nDesc => rfl
  case tasks =>
    conv_lhs => rw [← List.map_id prepared.tasks]
    refine List.map_congr_left fun entry member => ?_
    obtain ⟨taskId, ⟨ownId, taskKind, completed⟩⟩ := entry
    have waits : completed = false := isPrepared.built.waiting _ member
    simp [waits]
  case counted =>
    rw [waiting, isPrepared.built.counted, List.length_map]
  case valued =>
    intro hacs
    rw [isPrepared.gpus hacs, waiting, List.countP_eq_length_filter]

theorem reported_nil (graph : DiGraph) : Reported graph [] [] := by
  constructor
  case finishes => rfl
  case last =>
    intro earlier finished ready later split
    simp at split
  case once =>
    intro taskId
    rw [if_neg]
    · rfl
    · rintro ⟨some, all⟩
      obtain ⟨source, isPredecessor⟩ := List.exists_mem_of_ne_nil _ some
      cases all source isPredecessor

theorem Reported.concat
    {graph : DiGraph}
    {reports : List (TaskId × List TaskId)}
    (reported : Reported graph order reports)
    (fresh : taskId ∉ order) :
    Reported graph (order ++ [taskId])
      (reports ++ [(taskId, (graph.successors taskId).filter fun successor =>
        ∀ source ∈ graph.predecessors successor, source ∈ order ++ [taskId])]) := by
  constructor
  case finishes =>
    rw [List.map_append, reported.finishes]
    rfl
  case last =>
    intro earlier finished ready later split successor
    rcases List.eq_nil_or_concat later with rfl | ⟨between, final, rfl⟩
    · obtain ⟨rfl, same⟩ := List.append_inj' split rfl
      cases same
      simp only [List.mem_filter, graph.mem_successors, graph.mem_predecessors, decide_eq_true_eq,
        List.mem_append, List.mem_singleton, reported.finishes]
      refine and_congr_right fun _ => forall₂_congr fun source _ => or_comm
    · rw [List.concat_eq_append, ← List.cons_append, ← List.append_assoc] at split
      obtain ⟨rfl, _⟩ := List.append_inj' split rfl
      exact reported.last earlier finished ready between rfl successor
  case once =>
    intro successor
    have distinct := (graph.nodup_successors taskId).filter fun successor =>
      decide (∀ source ∈ graph.predecessors successor, source ∈ order ++ [taskId])
    rw [List.flatMap_append, List.count_append, reported.once, List.flatMap_singleton,
      distinct.count]
    by_cases depends : taskId ∈ graph.predecessors successor
    · -- the finished task was the last that was missing, or another still is
      have isSuccessor : successor ∈ graph.successors taskId :=
        (graph.mem_successors taskId successor).mpr
          ((graph.mem_predecessors taskId successor).mp depends)
      have missing : ¬∀ source ∈ graph.predecessors successor, source ∈ order :=
        fun all => fresh (all taskId depends)
      simp [isSuccessor, missing, List.ne_nil_of_mem depends]
    · have other : successor ∉ graph.successors taskId := fun isSuccessor =>
        depends ((graph.mem_predecessors taskId successor).mpr
          ((graph.mem_successors taskId successor).mp isSuccessor))
      have same : (∀ source ∈ graph.predecessors successor, source ∈ order ++ [taskId]) ↔
          ∀ source ∈ graph.predecessors successor, source ∈ order := by
        refine forall₂_congr fun source isPredecessor => ?_
        have differ : source ≠ taskId := fun same => depends (same ▸ isPredecessor)
        simp [differ]
      simp only [same, List.mem_filter, other, false_and, if_false, add_zero]

/-- The finishes all return, and keep the counters and the reports right. -/
theorem finishAll_spec
    {workflow prepared : Workflow}
    (isPrepared : Prepared workflow strategy prepared)
    (finishes : FinishOrder prepared.graph order) :
    ∃ reached reports, finishAll prepared strategy order = .ok (reached, reports) ∧
      Running prepared strategy order reached ∧ Reported prepared.graph order reports := by
  induction order using List.reverseRecOn with
  | nil => exact ⟨prepared, [], rfl, isPrepared.running, reported_nil prepared.graph⟩
  | append_singleton order last inductionHypothesis =>
      obtain ⟨once, known⟩ := finishes
      have apart := List.nodup_append.mp once
      have fresh : last ∉ order := fun member =>
        apart.2.2 last member last List.mem_cons_self rfl
      obtain ⟨reached, reports, ran, running, reported⟩ := inductionHypothesis
        ⟨apart.1, fun taskId member => known taskId (List.mem_append_left _ member)⟩
      obtain ⟨next, ready, finished, nextRunning, ids⟩ :=
        running.finishTask isPrepared.built isPrepared.types (known last (by simp)) fresh
      refine ⟨next, _, ?_, nextRunning, reported.concat fresh⟩
      rw [finishAll] at ran ⊢
      rw [List.foldlM_append, ran]
      change [last].foldlM (finishOne strategy) (reached, reports) = _
      rw [List.foldlM_cons, finishOne, finished]
      simp only [← ids]
      rfl

theorem Running.advanced
    {prepared reached : Workflow}
    {reports : List (TaskId × List TaskId)}
    (running : Running prepared strategy order reached)
    (reported : Reported prepared.graph order reports) :
    Advanced prepared strategy order reached reports where
  reported := reported
  completed := by
    intro taskId task there
    rw [running.lookup, Option.map_eq_some_iff] at there
    obtain ⟨_, _, rfl⟩ := there
    simp
  counted := running.counted
  valued := running.valued
  nAnc := running.nAnc
  nDesc := running.nDesc

/-! ## The graph of a dynamic run -/

/-- The tasks and parents of a dynamic run are those of a graph. -/
structure SameGraph
    (graph : DiGraph)
    (run : DynamicRun) : Prop where
  nodes : ∀ taskId, taskId ∈ graph.nodes ↔ taskId ∈ DynamicReadiness.taskIds run
  edges : ∀ parent child, graph.Edge parent child ↔
    parent ∈ DynamicReadiness.parentsOf run child

theorem edge_addEdge
    (graph : DiGraph)
    (source target first second : TaskId) :
    (graph.addEdge source target).Edge first second ↔
      graph.Edge first second ∨ (first, second) = (source, target) := by
  unfold DiGraph.addEdge DiGraph.Edge
  split
  · next there =>
    refine ⟨.inl, fun either => either.elim id fun same => ?_⟩
    rw [same]
    exact there
  · simp

/-- Edges that lie in a relation without cycles are all added. -/
theorem addEdges_spec
    (correct : nx.Correct)
    {edge : TaskId → TaskId → Prop}
    (acyclic : Digraph.Acyclic edge)
    {pairs : List (TaskId × TaskId)}
    (inside : ∀ {source target}, workflow.graph.Edge source target → edge source target)
    (pairsInside : ∀ pair ∈ pairs, edge pair.1 pair.2)
    (known : ∀ pair ∈ pairs, pair.1 ∈ workflow.graph.nodes ∧ pair.2 ∈ workflow.graph.nodes)
    (source target : TaskId) :
    ((pairs.map fun pair => .addEdge pair.1 pair.2).foldl (call nx) workflow).graph.Edge
        source target ↔
      workflow.graph.Edge source target ∨ (source, target) ∈ pairs := by
  induction pairs generalizing workflow with
  | nil => simp
  | cons first rest inductionHypothesis =>
      obtain ⟨firstInside, restInside⟩ := List.forall_mem_cons.mp pairsInside
      obtain ⟨firstKnown, restKnown⟩ := List.forall_mem_cons.mp known
      have grown : ∀ {source target},
          (workflow.graph.addEdge first.1 first.2).Edge source target → edge source target := by
        intro source target step
        rcases (edge_addEdge ..).mp step with old | same
        · exact inside old
        · cases same
          exact firstInside
      have called : call nx workflow (.addEdge first.1 first.2) =
          { workflow with graph := workflow.graph.addEdge first.1 first.2 } := by
        rw [call, Workflow.addEdge, if_neg (by simp [firstKnown])]
        simp only [(correct.acyclic _).mpr (acyclic.mono grown), if_true]
      have nodes := nodes_addEdge firstKnown.1 firstKnown.2
      rw [List.map_cons, List.foldl_cons, called,
        inductionHypothesis grown restInside (by simpa only [nodes] using restKnown),
        edge_addEdge, List.mem_cons, or_assoc]

/-- Tasks come without edges. -/
theorem edges_addTasks
    (nx : Networkx)
    (taskIds : List TaskId)
    (workflow : Workflow) :
    ((taskIds.map fun taskId => .addTask taskId taskId none).foldl (call nx) workflow).graph.edges =
      workflow.graph.edges := by
  induction taskIds generalizing workflow with
  | nil => rfl
  | cons first rest inductionHypothesis =>
      rw [List.map_cons, List.foldl_cons, inductionHypothesis, call, Workflow.addTask,
        if_neg (not_not.mpr rfl)]
      exact workflow.graph.edges_addNode first

/-- The parents of the tasks of a dynamic run, as edges. -/
def parentEdges (run : DynamicRun) : List (TaskId × TaskId) :=
  (DynamicReadiness.taskIds run).flatMap fun child =>
    (DynamicReadiness.parentsOf run child).map fun parent => (parent, child)

/-- The calls that build the graph of a dynamic run. -/
def staticCalls (run : DynamicRun) : List BuildCall :=
  (DynamicReadiness.taskIds run).map (fun taskId => .addTask taskId taskId none) ++
    (parentEdges run).map fun pair => .addEdge pair.1 pair.2

theorem mem_parentEdges
    (run : DynamicRun)
    (parent child : TaskId) :
    (parent, child) ∈ parentEdges run ↔
      child ∈ DynamicReadiness.taskIds run ∧ parent ∈ DynamicReadiness.parentsOf run child := by
  simp only [parentEdges, List.mem_flatMap, List.mem_map, Prod.mk.injEq]
  constructor
  · rintro ⟨_, known, _, isParent, rfl, rfl⟩
    exact ⟨known, isParent⟩
  · rintro ⟨known, isParent⟩
    exact ⟨child, known, parent, isParent, rfl, rfl⟩

/-- A dynamic run has the graph of a workflow. -/
theorem sameGraph_staticCalls
    (correct : nx.Correct)
    {state : DynamicDepths.State}
    (deep : DynamicDepths.Deep state) :
    AddedOnce (staticCalls state.process.run) ∧
      SameGraph (build nx (staticCalls state.process.run)).graph state.process.run := by
  obtain ⟨process, _⟩ := state
  let run := process.run
  let taskCalls : List BuildCall :=
    (DynamicReadiness.taskIds run).map fun taskId => .addTask taskId taskId none
  have tasksAdded : taskCalls.filterMap BuildCall.added? = DynamicReadiness.taskIds run := by
    simp [taskCalls, List.filterMap_map, Function.comp_def, BuildCall.added?]
  have added : (staticCalls run).filterMap BuildCall.added? = DynamicReadiness.taskIds run := by
    rw [staticCalls, List.filterMap_append]
    refine (congrArg₂ _ tasksAdded ?_).trans (List.append_nil _)
    simp [List.filterMap_map, Function.comp_def, BuildCall.added?]
  have tasksOnce : AddedOnce taskCalls := by
    rw [AddedOnce, tasksAdded]
    exact deep.parents.distinct
  have once : AddedOnce (staticCalls run) := by
    rw [AddedOnce, added]
    exact deep.parents.distinct
  have nodes := (build_spec correct tasksOnce).2.trans tasksAdded
  have edges : (build nx taskCalls).graph.edges = [] := edges_addTasks nx _ .new
  have earlier : ∀ {parent child}, child ∈ DynamicReadiness.taskIds run →
      parent ∈ DynamicReadiness.parentsOf run child →
        parent ∈ DynamicReadiness.taskIds run := by
    intro parent child known isParent
    obtain ⟨older, newer, split⟩ := List.append_of_mem known
    have before := deep.parents.earlier older child newer split parent isParent
    exact split ▸ List.mem_append_left _ before
  refine ⟨once, fun taskId => ?_, fun parent child => ?_⟩
  · rw [(build_spec correct once).2, added]
  · have all : (build nx (staticCalls run)).graph.Edge parent child ↔
        (build nx taskCalls).graph.Edge parent child ∨ (parent, child) ∈ parentEdges run := by
      rw [build, staticCalls, List.foldl_append]
      refine addEdges_spec correct (deep.parents.acyclic deep.unknown) ?_ ?_ ?_ parent child
      · intro source target step
        have none : (source, target) ∈ (build nx taskCalls).graph.edges := step
        rw [edges] at none
        cases none
      · exact fun pair member => ((mem_parentEdges run _ _).mp member).2
      · intro pair member
        obtain ⟨known, isParent⟩ := (mem_parentEdges run _ _).mp member
        change _ ∈ (build nx taskCalls).graph.nodes ∧ _ ∈ (build nx taskCalls).graph.nodes
        rw [nodes]
        exact ⟨earlier known isParent, known⟩
    rw [all, mem_parentEdges, DiGraph.Edge, edges]
    constructor
    · rintro (none | ⟨_, isParent⟩)
      · cases none
      · exact isParent
    · intro isParent
      refine .inr ⟨?_, isParent⟩
      by_contra absent
      rw [deep.unknown child absent] at isParent
      cases isParent

/-- The depth of a submitted task is the depth that the static workflow has. -/
theorem depth_eq_nAnc
    (correct : nx.Correct)
    {state : DynamicDepths.State}
    (deep : DynamicDepths.Deep state)
    {calls : List BuildCall}
    (once : AddedOnce calls)
    (same : SameGraph (build nx calls).graph state.process.run) :
    ∃ prepared, (build nx calls).prepareForStrategy nx "HACS" = .ok prepared ∧
      ∀ taskId depth, state.depths.lookup taskId = some depth →
        prepared.nAnc.lookup taskId = some depth := by
  obtain ⟨prepared, ran, isPrepared⟩ :=
    prepareForStrategy_spec correct (build_spec correct once).1 "HACS"
  refine ⟨prepared, ran, fun taskId depth computed => ?_⟩
  have known : taskId ∈ DynamicReadiness.taskIds state.process.run :=
    deep.told taskId (deep.submitted (Option.isSome_of_eq_some computed))
  obtain ⟨other, found, greatest⟩ :=
    (isPrepared.depths rfl taskId (isPrepared.graph ▸ (same.nodes taskId).mpr known)).ancestors
  have edges : prepared.graph.Edge =
      fun parent child => parent ∈ DynamicReadiness.parentsOf state.process.run child := by
    rw [isPrepared.graph]
    funext parent child
    exact propext (same.edges parent child)
  rw [edges] at greatest
  rw [found, greatest.unique (deep.isGreatest computed)]

/-! ## Every workflow and every run -/

/-- The tasks of a workflow become ready and are counted as they finish. -/
def StaticallyReady (nx : Networkx) : Prop :=
  ∀ calls, AddedOnce calls → ∀ strategy, ∃ prepared,
    (build nx calls).prepareForStrategy nx strategy = .ok prepared ∧
      prepared.graph = (build nx calls).graph ∧
      (strategy = "HACS" → ∀ taskId ∈ prepared.graph.nodes, Depths prepared taskId) ∧
      ∀ order, FinishOrder prepared.graph order → ∃ reached reports,
        finishAll prepared strategy order = .ok (reached, reports) ∧
          Advanced prepared strategy order reached reports

/-- The depths in a dynamic run are those of the workflows with the same graph. -/
def SameDepths
    (nx : Networkx)
    (state : DynamicDepths.State) : Prop :=
  (∃ calls, AddedOnce calls ∧ SameGraph (build nx calls).graph state.process.run) ∧
    ∀ calls, AddedOnce calls → SameGraph (build nx calls).graph state.process.run →
      ∃ prepared, (build nx calls).prepareForStrategy nx "HACS" = .ok prepared ∧
        ∀ taskId depth, state.depths.lookup taskId = some depth →
          prepared.nAnc.lookup taskId = some depth

/--
Where each task id is added once, the finishes report each task that depends on others
once, by the finish of the last of them, and keep the counters at the numbers of the
tasks that have not completed; the depths are the lengths of the longest paths, and a
dynamic run finds the same ones.
-/
theorem readiness
    (nx : Networkx)
    (correct : nx.Correct) :
    StaticallyReady nx ∧
      ∀ render runId maxTasks timeoutSeconds fileContext now actions,
        EveryState (DynamicDepths.step? render) (SameDepths nx)
          (DynamicDepths.created runId maxTasks timeoutSeconds fileContext now) actions := by
  constructor
  · intro calls once strategy
    obtain ⟨prepared, ran, isPrepared⟩ :=
      prepareForStrategy_spec correct (build_spec correct once).1 strategy
    refine ⟨prepared, ran, isPrepared.graph, isPrepared.depths, fun order finishes => ?_⟩
    obtain ⟨reached, reports, finished, running, reported⟩ := finishAll_spec isPrepared finishes
    exact ⟨reached, reports, finished, running.advanced reported⟩
  · intro render runId maxTasks timeoutSeconds fileContext now actions leading rest reached _ ran
    have deep : DynamicDepths.Deep reached :=
      run?_invariant (fun _ _ _ deep stepped => deep.step render stepped)
        (DynamicDepths.deep_created runId maxTasks timeoutSeconds fileContext now) ran
    exact ⟨⟨_, sameGraph_staticCalls correct deep⟩,
      fun calls once same => depth_eq_nAnc correct deep once same⟩

/-- A `networkx` that sorts the nodes one after the other. -/
def sorting : Networkx where
  isDirectedAcyclicGraph graph :=
    (Digraph.sort graph.predecessors graph.nodes).length = graph.nodes.length
  topologicalSort graph := .ok (Digraph.sort graph.predecessors graph.nodes)

theorem sorting_correct : sorting.Correct := by
  have sorts : ∀ graph : DiGraph,
      (Digraph.sort graph.predecessors graph.nodes).Perm graph.nodes ↔
        Digraph.Acyclic graph.Edge := by
    intro graph
    refine Digraph.sort_perm_iff graph.distinct (fun source target => ?_)
      fun source target step => (graph.ends _ step).1
    rw [graph.mem_predecessors]
    exact ⟨fun step => ⟨(graph.ends _ step).2, step⟩, And.right⟩
  constructor
  · intro graph
    obtain ⟨distinct, inside, _, _⟩ := Digraph.sort_spec graph.predecessors graph.nodes
    rw [← sorts, sorting, decide_eq_true_eq]
    exact ⟨fun all => (List.subperm_of_subset distinct inside).perm_of_length_le all.ge,
      List.Perm.length_eq⟩
  · intro graph acyclic
    exact ⟨_, rfl, (sorts graph).mpr acyclic, (Digraph.sort_spec _ _).2.2.1⟩

/-- Two tasks between a first and a last one; the last uses a GPU. -/
def diamond : List BuildCall :=
  [.addTask "a" "a" none, .addTask "b" "b" (some .io), .addTask "c" "c" none,
    .addTask "d" "d" (some .gpu), .addEdge "a" "b", .addEdge "a" "c", .addEdge "b" "d",
    .addEdge "c" "d", .addEdge "d" "a"]

/-- The last task of the diamond is reported by the second of those before it. -/
theorem diamond_ready :
    AddedOnce diamond ∧ StaticallyReady sorting ∧
      ((build sorting diamond).prepareForStrategy sorting "HACS").toOption.bind
          (fun prepared => (finishAll prepared "HACS" ["a", "c", "b"]).toOption.map
            fun finished => (finished.2, finished.1.remainingTaskNum,
              finished.1.remainingGpuTasks, finished.1.nAnc.lookup ("d" : PyStr))) =
        (some ([("a", ["b", "c"]), ("c", []), ("b", ["d"])], 1, 1, some 2) :
          Option (List (PyStr × List PyStr) × Int × Int × Option ℕ)) :=
  ⟨by unfold AddedOnce; decide, (readiness sorting sorting_correct).1, by decide⟩

/-- A task id that is added twice is counted twice, and is one task. -/
theorem added_twice :
    ¬∀ nx : Networkx, nx.Correct → ∀ calls strategy prepared,
      (build nx calls).prepareForStrategy nx strategy = .ok prepared →
        ∀ order, FinishOrder prepared.graph order → ∀ reached reports,
          finishAll prepared strategy order = .ok (reached, reports) →
            reached.remainingTaskNum = (unfinished reached).length := by
  intro claim
  have twice := claim sorting sorting_correct [.addTask "a" "a" none, .addTask "a" "a" none]
    "FCFS" _ rfl [] ⟨List.nodup_nil, by simp⟩ _ _ rfl
  revert twice
  decide

end Maze.Core.WorkflowGraph
