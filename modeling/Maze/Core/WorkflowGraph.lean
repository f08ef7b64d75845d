import Maze.Core.DynamicReadiness
import Maze.Core.Resources
import Maze.Library.Digraph

namespace Maze.Core.WorkflowGraph

open Maze.Library
open Maze.Library.Transition
open Maze.Python

/-!
# Workflows and their finishes

A `Workflow` keeps its tasks in a graph of their dependencies. Each finish derives the
tasks that have become ready from the flags of the tasks that have completed, and lowers
the counters. For the strategy HACS two passes over a topological order find how far each
task lies from the roots and from the leaves.

`networkx` tests for cycles and sorts; that it does both right is what the results about
it assume.
-/

/-! ## Graphs -/

/-- The directed graph of a workflow, nodes and edges in the order in which they came. -/
structure DiGraph where
  nodes : List TaskId
  edges : List (TaskId × TaskId)
  distinct : nodes.Nodup
  single : edges.Nodup
  ends : ∀ edge ∈ edges, edge.1 ∈ nodes ∧ edge.2 ∈ nodes

namespace DiGraph

def empty : DiGraph :=
  ⟨[], [], List.nodup_nil, List.nodup_nil, by simp⟩

/-- `add_node`: a node that is there stays where it is. -/
def addNode
    (graph : DiGraph)
    (node : TaskId) :
    DiGraph :=
  if there : node ∈ graph.nodes then
    graph
  else
    { nodes := graph.nodes ++ [node]
      edges := graph.edges
      distinct := graph.distinct.append (List.nodup_singleton node) (by simpa using there)
      single := graph.single
      ends := fun edge member =>
        (graph.ends edge member).imp (List.mem_append_left _) (List.mem_append_left _) }

theorem mem_addNode
    (graph : DiGraph)
    (node other : TaskId) :
    other ∈ (graph.addNode node).nodes ↔ other ∈ graph.nodes ∨ other = node := by
  unfold addNode
  split
  · next there => exact ⟨.inl, fun either => either.elim id fun same => same ▸ there⟩
  · simp

@[simp] theorem edges_addNode
    (graph : DiGraph)
    (node : TaskId) :
    (graph.addNode node).edges = graph.edges := by
  unfold addNode
  split <;> rfl

theorem nodes_addNode_of_mem
    {graph : DiGraph}
    {node : TaskId}
    (there : node ∈ graph.nodes) :
    graph.addNode node = graph :=
  dif_pos there

/-- `add_edge`: the ends that are missing come with it. -/
def addEdge
    (graph : DiGraph)
    (source target : TaskId) :
    DiGraph :=
  if there : (source, target) ∈ graph.edges then
    graph
  else
    let joined := (graph.addNode source).addNode target
    { joined with
      edges := graph.edges ++ [(source, target)]
      single := graph.single.append (List.nodup_singleton _) (by simpa using there)
      ends := by
        intro edge member
        rcases List.mem_append.mp member with old | new
        · have before := graph.ends edge old
          simp only [joined, mem_addNode]
          exact ⟨.inl (.inl before.1), .inl (.inl before.2)⟩
        · rw [List.mem_singleton.mp new]
          simp [joined, mem_addNode] }

/-- `remove_edge`. -/
def removeEdge
    (graph : DiGraph)
    (source target : TaskId) :
    DiGraph :=
  { graph with
    edges := graph.edges.erase (source, target)
    single := graph.single.erase _
    ends := fun edge member => graph.ends edge (List.mem_of_mem_erase member) }

/-- `predecessors`. -/
def predecessors
    (graph : DiGraph)
    (node : TaskId) :
    List TaskId :=
  (graph.edges.filter fun edge => edge.2 = node).map Prod.fst

/-- `successors`. -/
def successors
    (graph : DiGraph)
    (node : TaskId) :
    List TaskId :=
  (graph.edges.filter fun edge => edge.1 = node).map Prod.snd

/-- One task depends on the other. -/
def Edge
    (graph : DiGraph)
    (source target : TaskId) : Prop :=
  (source, target) ∈ graph.edges

theorem mem_predecessors
    (graph : DiGraph)
    (source target : TaskId) :
    source ∈ graph.predecessors target ↔ graph.Edge source target := by
  simp [predecessors, Edge]

theorem mem_successors
    (graph : DiGraph)
    (source target : TaskId) :
    target ∈ graph.successors source ↔ graph.Edge source target := by
  simp [successors, Edge]

theorem nodup_successors
    (graph : DiGraph)
    (node : TaskId) :
    (graph.successors node).Nodup := by
  refine List.Nodup.map_on ?_ (graph.single.filter _)
  rintro ⟨_, _⟩ first ⟨_, _⟩ second rfl
  have same := (List.mem_filter.mp first).2
  have other := (List.mem_filter.mp second).2
  simp_all

end DiGraph

/-- What `networkx` finds out about a graph. -/
structure Networkx where
  isDirectedAcyclicGraph : DiGraph → Bool
  topologicalSort : DiGraph → Except PyErr (List TaskId)

/-- A graph passes the test if it has no cycle, and is then sorted. -/
structure Networkx.Correct (nx : Networkx) : Prop where
  acyclic : ∀ graph, nx.isDirectedAcyclicGraph graph = true ↔ Digraph.Acyclic graph.Edge
  sorted : ∀ graph, Digraph.Acyclic graph.Edge →
    ∃ order, nx.topologicalSort graph = .ok order ∧
      order.Perm graph.nodes ∧ Digraph.Sorted graph.predecessors order

/-! ## Workflows -/

/-- The fields of `CodeTask` that a workflow uses. -/
structure Task where
  taskId : TaskId
  taskKind : Option TaskKind
  completed : Bool
  deriving DecidableEq

/-- `getattr(task, "task_kind", "cpu") or "cpu"`. -/
def Task.kind (task : Task) : TaskKind :=
  task.taskKind.getD .cpu

/-- `Workflow`, with the attributes of its graph and of the graph's nodes. -/
structure Workflow where
  graph : DiGraph
  tasks : List (TaskId × Task)
  remainingTaskNum : Int
  totalGpuTasks : Int
  remainingGpuTasks : Int
  totalValueTasks : Option Int
  remainingValueTasks : Option Int
  taskTypes : List (TaskId × TaskKind)
  nAnc : List (TaskId × ℕ)
  nDesc : List (TaskId × ℕ)

namespace Workflow

/-- `Workflow.__init__`. -/
def new : Workflow where
  graph := .empty
  tasks := []
  remainingTaskNum := 0
  totalGpuTasks := 0
  remainingGpuTasks := 0
  totalValueTasks := none
  remainingValueTasks := none
  taskTypes := []
  nAnc := []
  nDesc := []

def addTask
    (workflow : Workflow)
    (taskId : TaskId)
    (task : Task) :
    Except PyErr Workflow :=
  if taskId ≠ task.taskId then
    .error .valueError
  else
    .ok { workflow with
      tasks := Dict.set workflow.tasks taskId task
      graph := workflow.graph.addNode taskId
      remainingTaskNum := workflow.remainingTaskNum + 1 }

/-- An edge that would close a cycle is taken back. -/
def addEdge
    (nx : Networkx)
    (workflow : Workflow)
    (source target : TaskId) :
    Workflow × Except PyErr Unit :=
  if source ∉ workflow.graph.nodes ∨ target ∉ workflow.graph.nodes then
    (workflow, .error .valueError)
  else
    let graph := workflow.graph.addEdge source target
    if nx.isDirectedAcyclicGraph graph then
      ({ workflow with graph := graph }, .ok ())
    else
      ({ workflow with graph := graph.removeEdge source target }, .error .valueError)

/-- `self.tasks[task_id]`. -/
def getTask
    (workflow : Workflow)
    (taskId : TaskId) :
    Except PyErr Task :=
  match workflow.tasks.lookup taskId with
  | none => .error .keyError
  | some task => .ok task

/-- `_get_task_type`. -/
def getTaskType
    (workflow : Workflow)
    (taskId : TaskId) :
    Except PyErr TaskKind := do
  let task ← workflow.getTask taskId
  .ok task.kind

/-- The type of one node, and the number of GPU tasks so far. -/
def noteTaskType
    (workflow : Workflow)
    (noted : List (TaskId × TaskKind) × Int)
    (node : TaskId) :
    Except PyErr (List (TaskId × TaskKind) × Int) := do
  let taskType ← workflow.getTaskType node
  .ok (Dict.set noted.1 node taskType, if taskType = .gpu then noted.2 + 1 else noted.2)

/-- The attributes that the strategy HACS reads. -/
def withAttributes
    (workflow : Workflow)
    (taskTypes : List (TaskId × TaskKind))
    (total : Int)
    (topoOrder : List TaskId) :
    Workflow :=
  { workflow with
    taskTypes := taskTypes
    totalGpuTasks := total
    remainingGpuTasks := total
    totalValueTasks := some total
    remainingValueTasks := some total
    nAnc := Digraph.findLayers workflow.graph.predecessors topoOrder workflow.nAnc
    nDesc := Digraph.findLayers workflow.graph.successors topoOrder.reverse workflow.nDesc }

/-- `prepare_for_strategy`. -/
def prepareForStrategy
    (nx : Networkx)
    (workflow : Workflow)
    (strategy : PyStr) :
    Except PyErr Workflow :=
  if strategy ≠ "HACS" then
    .ok workflow
  else do
    let (taskTypes, total) ←
      workflow.graph.nodes.foldlM workflow.noteTaskType (workflow.taskTypes, 0)
    let topoOrder ← nx.topologicalSort workflow.graph
    .ok (workflow.withAttributes taskTypes total topoOrder)

/-- One less, but never below zero. -/
def lowered (remaining : Int) : Int :=
  if remaining > 0 then remaining - 1 else remaining

/-- The ready ones of the tasks that depend on a finished one. -/
def noteReady
    (workflow : Workflow)
    (ready : List Task)
    (successor : TaskId) :
    Except PyErr (List Task) := do
  let predTasks ← (workflow.graph.predecessors successor).mapM workflow.getTask
  if predTasks.all (·.completed) then
    let task ← workflow.getTask successor
    .ok (ready ++ [task])
  else
    .ok ready

/-- The workflow with one task completed and counted. -/
def complete
    (workflow : Workflow)
    (taskId : TaskId)
    (strategy : PyStr) :
    Workflow :=
  let counted :=
    { workflow with
      remainingTaskNum := workflow.remainingTaskNum - 1
      tasks := Dict.modify workflow.tasks taskId fun task => { task with completed := true } }
  if strategy = "HACS" ∧ workflow.taskTypes.lookup taskId = some .gpu then
    { counted with
      remainingGpuTasks := lowered workflow.remainingGpuTasks
      remainingValueTasks := workflow.remainingValueTasks.map lowered }
  else
    counted

/-- `finish_task`. -/
def finishTask
    (workflow : Workflow)
    (taskId : TaskId)
    (strategy : PyStr) :
    Except PyErr (Workflow × List Task) :=
  if (workflow.tasks.lookup taskId).isNone then
    .error .valueError
  else do
    let completed := workflow.complete taskId strategy
    let ready ← (completed.graph.successors taskId).foldlM completed.noteReady []
    .ok (completed, ready)

end Workflow

/-! ## Builds and runs -/

/-- A call that builds a workflow; the task of an `add_task` is new. -/
inductive BuildCall where
  | addTask (taskId ownId : TaskId) (taskKind : Option TaskKind)
  | addEdge (source target : TaskId)

/-- The workflow after a call; one that raises may have changed it too. -/
def call
    (nx : Networkx)
    (workflow : Workflow) :
    BuildCall → Workflow
  | .addTask taskId ownId taskKind =>
      match workflow.addTask taskId ⟨ownId, taskKind, false⟩ with
      | .ok added => added
      | .error _ => workflow
  | .addEdge source target => (workflow.addEdge nx source target).1

/-- The workflow that the calls build. -/
def build
    (nx : Networkx)
    (calls : List BuildCall) :
    Workflow :=
  calls.foldl (call nx) .new

/-- The id under which a call adds a task. -/
def BuildCall.added? : BuildCall → Option TaskId
  | .addTask taskId ownId _ => if taskId = ownId then some taskId else none
  | .addEdge _ _ => none

/-- Each task id is added once. -/
def AddedOnce (calls : List BuildCall) : Prop :=
  (calls.filterMap BuildCall.added?).Nodup

/-- One finish, and the ids of the tasks that it returns. -/
def finishOne
    (strategy : PyStr)
    (state : Workflow × List (TaskId × List TaskId))
    (taskId : TaskId) :
    Except PyErr (Workflow × List (TaskId × List TaskId)) := do
  let (workflow, ready) ← state.1.finishTask taskId strategy
  .ok (workflow, state.2 ++ [(taskId, ready.map Task.taskId)])

/-- The finishes of the tasks in an order. -/
def finishAll
    (workflow : Workflow)
    (strategy : PyStr)
    (order : List TaskId) :
    Except PyErr (Workflow × List (TaskId × List TaskId)) :=
  order.foldlM (finishOne strategy) (workflow, [])

/-- The tasks of a workflow finish once each. -/
structure FinishOrder
    (graph : DiGraph)
    (order : List TaskId) : Prop where
  once : order.Nodup
  known : ∀ taskId ∈ order, taskId ∈ graph.nodes

/-- The tasks that have not completed. -/
def unfinished (workflow : Workflow) : List Task :=
  (workflow.tasks.map Prod.snd).filter fun task => !task.completed

/-- Whether a task counts as one for a GPU. -/
def usesGpu (task : Task) : Bool :=
  task.kind = .gpu

/-- What the finishes of some tasks have reported. -/
structure Reported
    (graph : DiGraph)
    (order : List TaskId)
    (reports : List (TaskId × List TaskId)) : Prop where
  finishes : reports.map Prod.fst = order
  last : ∀ earlier finished ready later, reports = earlier ++ (finished, ready) :: later →
    ∀ taskId, taskId ∈ ready ↔
      graph.Edge finished taskId ∧
        ∀ source, graph.Edge source taskId → source = finished ∨ source ∈ earlier.map Prod.fst
  once : ∀ taskId, (reports.flatMap Prod.snd).count taskId =
    if graph.predecessors taskId ≠ [] ∧
        ∀ source ∈ graph.predecessors taskId, source ∈ order then
      1
    else
      0

/-- What the finishes of the tasks in an order report and count. -/
structure Advanced
    (prepared : Workflow)
    (strategy : PyStr)
    (order : List TaskId)
    (reached : Workflow)
    (reports : List (TaskId × List TaskId)) : Prop where
  reported : Reported prepared.graph order reports
  completed : ∀ taskId task, reached.tasks.lookup taskId = some task →
    (task.completed = true ↔ taskId ∈ order)
  counted : reached.remainingTaskNum = (unfinished reached).length
  valued : strategy = "HACS" →
    reached.remainingGpuTasks = ((unfinished reached).filter usesGpu).length
  nAnc : reached.nAnc = prepared.nAnc
  nDesc : reached.nDesc = prepared.nDesc

/-- The depths of a task are the lengths of the longest paths. -/
structure Depths
    (workflow : Workflow)
    (taskId : TaskId) : Prop where
  ancestors : ∃ depth, workflow.nAnc.lookup taskId = some depth ∧
    IsGreatest (Digraph.lengthsTo workflow.graph.Edge taskId) depth
  descendants : ∃ depth, workflow.nDesc.lookup taskId = some depth ∧
    IsGreatest (Digraph.lengthsFrom workflow.graph.Edge taskId) depth

end Maze.Core.WorkflowGraph
