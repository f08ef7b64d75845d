import Maze.Core.EventLog
import Maze.Core.StaticCore
import Maze.Library.Dict
import Maze.Python.Text

namespace Maze.Core

open Maze.Python
open Maze.Library

/-!
# The DAG compiler

`dag_spec_from_payload` reads the nodes and edges of a submitted DAG, in all the
spellings that it takes, and `build_dag_workflow` merges the edges into the
inputs of the nodes and makes the graph of the workflow.

Of a node the module reads its id, its code, its inputs and its outputs; the
other fields and the rest of the payload do not meet inputs and edges. What they
can do is raise, so that every payload that the program accepts is accepted here.
-/

/-- `input_schema`. -/
inductive InputSchema where
  | fromRun
  | fromTask
  | fromUser
  deriving DecidableEq

/-- A normalized input of a node. -/
structure DagInput where
  key : PyStr
  inputSchema : InputSchema
  value : PyVal
  dataType : PyStr
  hasValue : Bool

/-- A normalized output of a node. -/
structure DagOutput where
  name : PyStr
  dataType : PyStr

/-- A normalized node. -/
structure DagNode where
  nodeId : PyStr
  inputs : List (PyStr × DagInput)
  outputs : List DagOutput

/-- A normalized edge. -/
structure DagEdge where
  sourceTaskId : PyStr
  sourceOutput : PyStr
  targetTaskId : PyStr
  targetInput : PyStr

/-- A normalized DAG. -/
structure DagSpec where
  nodes : List DagNode
  edges : List DagEdge

/-- What the compiler gives to a task. -/
structure CompiledTask where
  inputParams : List (PyStr × DagInput)
  outputParams : List DagOutput

/-- The workflow that is built: its tasks and the edges of its graph. -/
structure CompiledWorkflow where
  tasks : List (TaskId × CompiledTask)
  edges : List (TaskId × TaskId)

namespace DagSpec

/-- The separator of a reference. -/
def dot : CodePoint := Fin.ofNat 0x110000 0x2E

/-- `f"{task_id}.output.{output}"`. -/
def reference (taskId output : PyStr) : PyStr :=
  taskId ++ ⟨[dot]⟩ ++ (PyStr.ofString "output" ++ ⟨[dot]⟩ ++ output)

/-- `f"{task_id}.{output}"`, which is taken beside an edge. -/
def shortReference (taskId output : PyStr) : PyStr :=
  taskId ++ ⟨[dot]⟩ ++ output

/-! ## Run inputs -/

/-- A dictionary with the marker of a run input must be a whole reference. -/
def isRunInputRef (entries : PyDict) : Bool :=
  entries.all (fun entry =>
      entry.1 = PyStr.ofString "__maze_run_input__" ||
        entry.1 = PyStr.ofString "key") &&
    entries.get "__maze_run_input__" = .bool true &&
    (match entries.get "key" with
      | .str key => !key.isEmpty
      | _ => false)

mutual

/-- `_validate_run_input_refs`. -/
def validateRunInputRefs : PyVal → Except PyErr Nat
  | .list items => validateItems items
  | .dict entries =>
      if (PyDict.get? entries "__maze_run_input__").isSome then
        if isRunInputRef entries then .ok 1 else .error .valueError
      else
        validateEntries entries
  | _ => .ok 0

/-- The sum over the items of a list. -/
def validateItems : List PyVal → Except PyErr Nat
  | [] => .ok 0
  | item :: rest => do
      let here ← validateRunInputRefs item
      let later ← validateItems rest
      return here + later

/-- The sum over the values of a dictionary. -/
def validateEntries : List (PyStr × PyVal) → Except PyErr Nat
  | [] => .ok 0
  | (_, value) :: rest => do
      let here ← validateRunInputRefs value
      let later ← validateEntries rest
      return here + later

end

/-! ## Nodes -/

section Normalizing

variable (str : PyVal → PyStr)

/-- The key is in the dictionary. -/
def hasKey (entries : PyDict) (key : PyStr) : Bool :=
  (PyDict.get? entries key).isSome

/-- The dictionary spells out how the input is bound. -/
def isBinding (entries : PyDict) : Bool :=
  hasKey entries "from" || hasKey entries "value" || hasKey entries "data_type"

/-- An input that spells out how it is bound. -/
def normalizeBinding
    (name : PyStr)
    (entries : PyDict) :
    Except PyErr DagInput := do
  let dataType := ((entries.get "data_type").orElse (.str "any")).text str
  let inputSchema := entries.get "input_schema"
  if inputSchema = .str "from_run" then
    let count ← validateRunInputRefs (entries.get "value")
    if count = 0 then
      throw .valueError
    else
      return ⟨name, .fromRun, entries.get "value", dataType, false⟩
  else if inputSchema = .str "from_task" then
    let value :=
      (entries.get "value").orElse ((entries.get "from").orElse (.str ""))
    return ⟨name, .fromTask, .str (value.text str), dataType,
      ((entries.get? "has_value").getD (.bool true)).truthy⟩
  else if inputSchema = .str "from_user" then
    return ⟨name, .fromUser, entries.get "value", dataType,
      ((entries.get? "has_value").getD
        (.bool (hasKey entries "value"))).truthy⟩
  else if hasKey entries "from" then
    return ⟨name, .fromTask, .str ((entries.get "from").text str), dataType, true⟩
  else
    return ⟨name, .fromUser, entries.get "value", dataType,
      hasKey entries "value"⟩

/-- One input of a node. -/
def normalizeInput
    (name : PyStr)
    (value : PyVal) :
    Except PyErr DagInput :=
  match value with
  | .dict entries =>
      if isBinding entries then
        normalizeBinding str name entries
      else
        .ok ⟨name, .fromUser, value, "any", true⟩
  | _ => .ok ⟨name, .fromUser, value, "any", true⟩

/-- `_normalize_inputs`. -/
def normalizeInputs : PyVal → Except PyErr (List (PyStr × DagInput))
  | .dict entries =>
      entries.mapM fun entry => do
        let normalized ← normalizeInput str entry.1 entry.2
        return (entry.1, normalized)
  | _ => .error .valueError

/-- One entry of the outputs of a node. -/
def normalizeOutput : PyVal → Except PyErr DagOutput
  | .str name => .ok ⟨name, "any"⟩
  | .dict entries =>
      .ok
        ⟨((PyDict.get entries "name").orElse
            ((PyDict.get entries "key").orElse (.str ""))).text str,
          ((PyDict.get entries "data_type").orElse (.str "any")).text str⟩
  | _ => .error .valueError

/-- `_normalize_outputs`. -/
def normalizeOutputs : PyVal → Except PyErr (List DagOutput)
  | .list items => do
      let outputs ← items.mapM (normalizeOutput str)
      if outputs.isEmpty || outputs.any (fun output => output.name.isEmpty) ||
          !decide (outputs.map DagOutput.name).Nodup then
        throw .valueError
      else
        return outputs
  | _ => .error .valueError

/-- `[A-Za-z_]`. -/
def startsNodeId (char : CodePoint) : Bool :=
  (0x41 ≤ char.val && char.val ≤ 0x5A) || (0x61 ≤ char.val && char.val ≤ 0x7A) ||
    char.val = 0x5F

/-- `[A-Za-z0-9_-]`. -/
def continuesNodeId (char : CodePoint) : Bool :=
  startsNodeId char || (0x30 ≤ char.val && char.val ≤ 0x39) || char.val = 0x2D

/-- `NODE_ID_RE`. -/
def isNodeId (text : PyStr) : Bool :=
  match text.chars with
  | [] => false
  | first :: rest =>
      startsNodeId first && rest.all continuesNodeId && rest.length ≤ 127

/-- The id of a node. -/
def nodeIdOf (node : PyDict) : PyStr :=
  ⟨EventLog.strip (((node.get "id").orElse (.str "")).text str).chars⟩

/-- `_normalize_node`. -/
def normalizeNode : PyVal → Except PyErr DagNode
  | .dict node => do
      let nodeId := nodeIdOf str node
      let nodeType := ((PyDict.get node "type").orElse (.str "code")).text str
      let codeStr := (PyDict.get? node "code_str").getD (PyDict.get node "code")
      if !isNodeId nodeId ||
          nodeType ∉ [PyStr.ofString "code", "python_task", "task"] ||
          (!codeStr.truthy && !(PyDict.get node "code_ser").truthy) then
        throw .valueError
      else
        let outputs ← normalizeOutputs str (PyDict.get node "outputs")
        let inputs ← normalizeInputs str
          ((PyDict.get node "inputs").orElse (.dict []))
        return ⟨nodeId, inputs, outputs⟩
  | _ => .error .valueError

/-! ## Edges -/

/-- `_split_endpoint`. -/
def splitEndpoint (value : PyStr) : Except PyErr (PyStr × PyStr) :=
  match value.split dot with
  | [taskId, port] =>
      if taskId.isEmpty || port.isEmpty then .error .valueError
      else .ok (taskId, port)
  | _ => .error .valueError

/-- The two ends of an edge, in either notation. -/
def edgeEnds (edge : PyDict) : Except PyErr DagEdge :=
  let either (first second : PyStr) : PyStr :=
    ((edge.get first).orElse ((edge.get second).orElse (.str ""))).text str
  if hasKey edge "from" && hasKey edge "to" then do
    let source ← splitEndpoint ((edge.get "from").text str)
    let target ← splitEndpoint ((edge.get "to").text str)
    return ⟨source.1, source.2, target.1, target.2⟩
  else
    return ⟨either "source" "source_task_id", either "source_output" "output",
      either "target" "target_task_id", either "target_input" "input"⟩

/-- `_normalize_edge`. -/
def normalizeEdge
    (nodes : List DagNode) :
    PyVal → Except PyErr DagEdge
  | .dict entries => do
      let edge ← edgeEnds str entries
      match nodes.find? fun node => node.nodeId = edge.sourceTaskId with
      | none => throw .valueError
      | some source =>
          if edge.targetTaskId ∉ nodes.map DagNode.nodeId ||
              edge.sourceOutput.isEmpty || edge.targetInput.isEmpty ||
              edge.sourceOutput ∉ source.outputs.map DagOutput.name then
            throw .valueError
          else
            return edge
  | _ => .error .valueError

/-- What is left after the nodes without a predecessor are taken away. -/
def peel (edges : List (PyStr × PyStr)) : Nat → List PyStr → List PyStr
  | 0, nodeIds => nodeIds
  | rounds + 1, nodeIds =>
      peel edges rounds (nodeIds.filter fun nodeId =>
        edges.any fun edge => edge.2 = nodeId && edge.1 ∈ nodeIds)

/-- `nx.is_directed_acyclic_graph`. -/
def isAcyclic
    (nodeIds : List PyStr)
    (edges : List (PyStr × PyStr)) :
    Bool :=
  (peel edges nodeIds.length nodeIds).isEmpty

/-- The tasks that an edge connects. -/
def endpoints (edge : DagEdge) : PyStr × PyStr :=
  (edge.sourceTaskId, edge.targetTaskId)

/-- `dag_spec_from_payload`. -/
def dagSpecFromPayload : PyVal → Except PyErr DagSpec
  | .dict payload =>
      match PyDict.get payload "nodes",
          (PyDict.get payload "edges").orElse (.list []) with
      | .list rawNodes, .list rawEdges => do
          let nodes ← rawNodes.mapM (normalizeNode str)
          let nodeIds := nodes.map DagNode.nodeId
          if nodes.isEmpty || !decide nodeIds.Nodup then
            throw .valueError
          else
            let edges ← rawEdges.mapM (normalizeEdge str nodes)
            if isAcyclic nodeIds (edges.map endpoints) then
              return ⟨nodes, edges⟩
            else
              throw .valueError
      | _, _ => .error .valueError
  | _ => .error .valueError

end Normalizing

/-! ## The workflow -/

/-- The input that an edge makes of what the input was. -/
def mergeEdge
    (existing : Option DagInput)
    (edge : DagEdge) :
    Except PyErr DagInput :=
  let value := reference edge.sourceTaskId edge.sourceOutput
  let bound (dataType : PyStr) : DagInput :=
    ⟨edge.targetInput, .fromTask, .str value, dataType, true⟩
  match existing with
  | none => .ok (bound "any")
  | some existing =>
      match existing.inputSchema with
      | .fromUser =>
          if existing.hasValue then .error .valueError
          else .ok (bound existing.dataType)
      | .fromTask =>
          if existing.value = .str value ∨ existing.value =
              .str (shortReference edge.sourceTaskId edge.sourceOutput) then
            .ok { existing with value := .str value, hasValue := true }
          else
            .error .valueError
      | .fromRun => .ok (bound existing.dataType)

/-- The inputs of all nodes, while the edges are merged into them. -/
abbrev InputMaps := List (PyStr × List (PyStr × DagInput))

/-- One round of the loop over the edges. -/
def bindEdge
    (inputMaps : InputMaps)
    (edge : DagEdge) :
    Except PyErr InputMaps :=
  match inputMaps.lookup edge.targetTaskId with
  | none => .error .keyError
  | some targetInputs => do
      let merged ← mergeEdge (targetInputs.lookup edge.targetInput) edge
      return Dict.set inputMaps edge.targetTaskId
        (Dict.set targetInputs edge.targetInput merged)

/-- `_build_task_inputs`. -/
def buildTaskInputs (spec : DagSpec) : Except PyErr InputMaps :=
  spec.edges.foldlM bindEdge
    (spec.nodes.map fun node => (node.nodeId, node.inputs))

/-- `workflow.add_edge`; an edge that is there is not added again. -/
def addEdge
    (edges : List (TaskId × TaskId))
    (edge : DagEdge) :
    List (TaskId × TaskId) :=
  if endpoints edge ∈ edges then edges else edges ++ [endpoints edge]

/-- `build_dag_workflow`. -/
def buildDagWorkflow
    (str : PyVal → PyStr)
    (payload : PyVal) :
    Except PyErr CompiledWorkflow := do
  let spec ← dagSpecFromPayload str payload
  let taskInputs ← buildTaskInputs spec
  return {
    tasks := spec.nodes.map fun node =>
      (node.nodeId, ⟨(taskInputs.lookup node.nodeId).getD [], node.outputs⟩)
    edges := spec.edges.foldl addEdge [] }

/-! ## What an accepted payload says -/

/-- What the compiler has read of a payload that it accepts. -/
structure Accepts
    (str : PyVal → PyStr)
    (payload : PyVal)
    (spec : DagSpec) where
  entries : PyDict
  isDict : payload = .dict entries
  rawNodes : List PyVal
  rawEdges : List PyVal
  nodesFound : PyDict.get entries "nodes" = .list rawNodes
  edgesFound : (PyDict.get entries "edges").orElse (.list []) = .list rawEdges
  nodes : rawNodes.mapM (normalizeNode str) = .ok spec.nodes
  edges : rawEdges.mapM (normalizeEdge str spec.nodes) = .ok spec.edges
  distinct : (spec.nodes.map DagNode.nodeId).Nodup

theorem accepts_of_returned
    {str : PyVal → PyStr}
    {payload : PyVal}
    {spec : DagSpec}
    (returned : dagSpecFromPayload str payload = .ok spec) :
    Nonempty (Accepts str payload spec) := by
  unfold dagSpecFromPayload at returned
  split at returned
  · next entries =>
    split at returned
    · next rawNodes rawEdges nodesFound edgesFound =>
      obtain ⟨nodes, nodesRead, returned⟩ := bind_eq_ok.mp returned
      dsimp only at returned
      split at returned
      · cases returned
      · next orderly =>
        obtain ⟨edges, edgesRead, returned⟩ := bind_eq_ok.mp returned
        split at returned
        · cases returned
          simp only [Bool.or_eq_true, Bool.not_eq_true', not_or,
            Bool.not_eq_false, decide_eq_true_eq] at orderly
          exact ⟨entries, rfl, rawNodes, rawEdges, nodesFound, edgesFound,
            nodesRead, edgesRead, orderly.2⟩
        · cases returned
    · cases returned
  · cases returned

/-- What the compiler has checked of a node. -/
theorem normalizeNode_returned
    {str : PyVal → PyStr}
    {raw : PyVal}
    {node : DagNode}
    (returned : normalizeNode str raw = .ok node) :
    ∃ entries, raw = .dict entries ∧ node.nodeId = nodeIdOf str entries ∧
      isNodeId node.nodeId = true ∧
      normalizeInputs str ((PyDict.get entries "inputs").orElse (.dict [])) =
        .ok node.inputs ∧
      normalizeOutputs str (PyDict.get entries "outputs") = .ok node.outputs := by
  unfold normalizeNode at returned
  split at returned
  · next entries =>
    dsimp only at returned
    split at returned
    · cases returned
    · next valid =>
      simp only [Bool.or_eq_true, Bool.not_eq_true', not_or,
        Bool.not_eq_false] at valid
      obtain ⟨outputs, named, returned⟩ := bind_eq_ok.mp returned
      obtain ⟨inputs, read, same⟩ := bind_eq_ok.mp returned
      cases same
      exact ⟨entries, rfl, rfl, valid.1.1, read, named⟩
  · cases returned

/-- What the compiler has checked of an edge. -/
theorem normalizeEdge_returned
    {str : PyVal → PyStr}
    {nodes : List DagNode}
    {raw : PyVal}
    {edge : DagEdge}
    (returned : normalizeEdge str nodes raw = .ok edge) :
    ∃ entries, raw = .dict entries ∧ edgeEnds str entries = .ok edge ∧
      ∃ source ∈ nodes, source.nodeId = edge.sourceTaskId ∧
        edge.sourceOutput ∈ source.outputs.map DagOutput.name := by
  unfold normalizeEdge at returned
  split at returned
  · next entries =>
    obtain ⟨read, ends, returned⟩ := bind_eq_ok.mp returned
    split at returned
    · cases returned
    · next source found =>
      split at returned
      · cases returned
      · next valid =>
        cases returned
        simp only [Bool.or_eq_true, decide_eq_true_eq, not_or, not_not] at valid
        exact ⟨entries, rfl, ends, source, List.mem_of_find?_eq_some found,
          by simpa using List.find?_some found, valid.2⟩
  · cases returned

end DagSpec

end Maze.Core
