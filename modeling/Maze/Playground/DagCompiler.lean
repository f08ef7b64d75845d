import Maze.Core.StoredSpec
import Maze.Playground.JsValue

namespace Maze.Playground

open Maze.Core (DagEdge DagInput DagOutput InputSchema)
open Maze.Python

/-!
# The compiler of the Playground

`compileWorkflowToDagSpec` makes a specification of a workflow on the canvas: an edge for
each input that is bound to the output of a task, a value for each other input. The
connections that are drawn add nothing; they are checked against the inputs.

A function is `none` where it throws. `String(value)` and `value > 0`, of what is no string
and no number, are those of the language.
-/

/-- Conversions of the language; they can throw. -/
structure Conversions where
  string : JsVal → Option PyStr
  positive : JsVal → Option Bool

namespace Conversions

/-- `String(value)`. -/
def stringOf (js : Conversions) : JsVal → Option PyStr
  | .str value => some value
  | value => js.string value

/-- `value > 0`. -/
def isPositive (js : Conversions) : JsVal → Option Bool
  | .number .nan => some false
  | .number (.infinity negative) => some !negative
  | .number (.finite negative magnitude) => some (!negative && magnitude.mantissa ≠ 0)
  | value => js.positive value

end Conversions

/-! ## What is compiled -/

/-- An input in the specification; a value that is `undefined` is not there. -/
structure SpecInput where
  key : PyStr
  inputSchema : InputSchema
  value : Option JsVal
  dataType : PyStr
  hasValue : Bool

structure SpecResources where
  cpuNum : JsVal
  gpuMem : JsVal
  ioNum : JsVal

structure SpecNode where
  nodeId : PyStr
  taskName : PyStr
  inputs : List (PyStr × SpecInput)
  outputs : List DagOutput
  resources : SpecResources
  taskKind : PyStr
  modelAnchor : JsVal
  fileContext : JsVal
  maxRetries : JsVal
  retryBackoffSeconds : JsVal
  retryOn : JsVal
  timeoutSeconds : JsVal
  metadata : List (PyStr × JsVal)
  codeStr : Option PyStr
  codeSer : Option PyStr

structure SpecRun where
  workspaceDir : JsVal
  artifactMode : JsVal
  fileContext : JsVal
  timeoutSeconds : JsVal
  tags : List PyStr
  metadata : List (PyStr × JsVal)

/-- What `compileWorkflowToDagSpec` returns. -/
structure Spec where
  name : PyStr
  description : JsVal
  nodes : List SpecNode
  edges : List DagEdge
  run : SpecRun
  metadata : List (PyStr × JsVal)

section Compiler

variable (js : Conversions)

/-! ## Tasks -/

/-- The parts between two colons. -/
def cutColons : List CodePoint → List (List CodePoint)
  | first :: second :: rest =>
      if first = Json.point ':' ∧ second = Json.point ':' then [] :: cutColons rest
      else
        match cutColons (second :: rest) with
        | part :: others => (first :: part) :: others
        | [] => [[first]]
  | chars => [chars]

/-- `text.split('::')`. -/
def splitColons (text : PyStr) : List PyStr :=
  (cutColons text.chars).map PyStr.mk

/-- `BUILTIN_TASK_ALIASES[key]`, as far as it is a string. -/
def builtinTaskAlias (key : PyStr) : Option PyStr :=
  if key = "distributedSmoke.distributed_gpu_probe" then
    some "tasks/distributed_gpu_probe.py"
  else none

/-- The alias of `data.taskRef`, as far as it is a string; the key of `undefined` has none. -/
def aliasOf (data : JsVal) : Option PyStr :=
  ((data.prop? "taskRef").bind js.stringOf).bind builtinTaskAlias

/-- A character of a task path. -/
def isPathChar (char : CodePoint) : Bool :=
  Core.DagSpec.continuesNodeId char || char = Json.point '.' || char = Json.point '/'

/-- `isCanonicalTaskPath`. -/
def isCanonicalTaskPath (path : PyStr) : Bool :=
  let chars := path.chars
  (Json.chars "tasks/").isPrefixOf chars && (Json.chars ".py").isSuffixOf chars &&
    9 < chars.length && (chars.drop 6).all isPathChar &&
    PyStr.ofString ".." ∉ path.split (Json.point '/')

/-- The path and the function that `data.sourceKey` names. -/
def sourceOf (data : JsVal) : Option PyStr × Option PyStr :=
  match (text (data.prop? "sourceKey")).map splitColons with
  | some (path :: function :: _) => (some path, some function)
  | some [path] => (some path, none)
  | _ => (none, none)

/-- The last part of `data.taskRef`. -/
def taskRefFunction (data : JsVal) : Option PyStr :=
  (text (data.prop? "taskRef")).bind fun taskRef => (taskRef.split (Json.point '.')).getLast?

/-- `text(data.functionName) ?? sourceFunction`, and the one of a builtin task. -/
def functionNameOf (data : JsVal) : Option PyStr :=
  ((text (data.prop? "functionName")).or (sourceOf data).2).or
    (if isText (data.prop? "category") "builtin" then taskRefFunction data else none)

/-- `text(data.taskPath) ?? sourcePath`. -/
def givenTaskPath (data : JsVal) : Option PyStr :=
  (text (data.prop? "taskPath")).or (sourceOf data).1

/-- A text that is not empty. -/
def nonempty (text : Option PyStr) : Option PyStr :=
  text.filter fun found => !found.isEmpty

/-- The path of the task, without a conflict between its sources. -/
def resolveTaskPath (data : JsVal) : Option PyStr :=
  if isText (data.prop? "category") "builtin" then
    (aliasOf js data).bind fun aliasPath =>
      if (nonempty (givenTaskPath data)).all fun given => given = aliasPath then some aliasPath
      else none
  else
    givenTaskPath data

/-- `getDefinition`; the definitions are a `Map`. -/
def getDefinition
    (definitions : PyStr → Option JsVal)
    (key : PyStr) :
    Option JsVal :=
  (definitions key).filter JsVal.isObject

/-- `resolveDefinition`. -/
def resolveDefinition
    (definitions : PyStr → Option JsVal)
    (data : JsVal)
    (nodeId : PyStr) :
    Option JsVal :=
  if isText (data.prop? "category") "custom" then
    getDefinition definitions ("custom:" ++ nodeId)
  else do
    let sourceKey := text (data.prop? "sourceKey")
    guard (sourceKey.all fun key => (splitColons key).length ≤ 2)
    let taskPath ← resolveTaskPath js data
    guard (isCanonicalTaskPath taskPath)
    let ofFunction := (nonempty (functionNameOf data)).map fun functionName =>
      taskPath ++ "::" ++ functionName
    (sourceKey.toList ++ ofFunction.toList ++ [taskPath]).findSome? (getDefinition definitions)

/-- `normalizeResources`; only `undefined` is replaced by an empty object. -/
def normalizeResources (resources : Option JsVal) : Option SpecResources :=
  match resources with
  | some .null => none
  | _ =>
      some
        { cpuNum := (nullish (optional resources "cpu_num") none).getD
            (.number (.finite false ⟨1, 0, Decimal.one_shortest⟩))
          gpuMem := (nullish (optional resources "gpu_mem") none).getD
            (.number (.finite false ⟨0, 0, Decimal.zero_shortest⟩))
          ioNum := (nullish (optional resources "io_num") none).getD
            (.number (.finite false ⟨0, 0, Decimal.zero_shortest⟩)) }

/-- The model that the task is anchored to. -/
def modelAnchorOf (data definition : JsVal) : JsVal :=
  match (data.prop? "modelAnchor").filter JsVal.truthy with
  | some anchor => .object (spread anchor)
  | none =>
      match (data.prop? "localModel").filter JsVal.truthy with
      | some localModel =>
          .object
            [("local_model", localModel), ("model_scope", .str "head"),
              ("backend", .str "transformers")]
      | none => (definition.prop? "modelAnchor").getD .null

/-- The kind of the task. -/
def taskKindOf
    (data definition modelAnchor : JsVal)
    (resources : SpecResources) :
    Option PyStr := do
  let given := nullish (data.prop? "task_kind") (nullish (definition.prop? "taskKind") none)
  let kind ←
    match given with
    | some kind => some kind
    | none => do
        let needsMemory ← js.isPositive resources.gpuMem
        some (.str
          (if needsMemory || (modelAnchor.prop? "local_model").any JsVal.truthy then "gpu"
          else "cpu"))
  match kind with
  | .str kind => if kind ∈ [PyStr.ofString "cpu", "gpu", "io"] then some kind else none
  | _ => none

/-- `metadata` of a node. -/
def nodeMetadata (data definition : JsVal) : List (PyStr × JsVal) :=
  let given := assign (spreadOptional (definition.prop? "metadata"))
    (spreadOptional (data.prop? "metadata"))
  let optionalText (key : PyStr) (value : Option PyStr) : List (PyStr × JsVal) :=
    value.toList.map fun found => (key, JsVal.str found)
  let taskPath :=
    if isText (data.prop? "category") "builtin" then aliasOf js data else givenTaskPath data
  assign given
    ([(PyStr.ofString "playground_category", (data.prop? "category").getD .null)] ++
      optionalText "playground_task_ref" (text (data.prop? "taskRef")) ++
      optionalText "playground_task_path" (nonempty taskPath) ++
      optionalText "playground_function_name" (nonempty (functionNameOf data)))

/-! ## Outputs and inputs -/

/-- One output. -/
def compileOutput (output : JsVal) : Option DagOutput := do
  let name ← text (output.prop? "name")
  let dataType ← js.stringOf ((nullish (output.prop? "dataType") none).getD (.str "any"))
  some ⟨name, dataType⟩

/-- `compileOutputs`. -/
def compileOutputs : Option JsVal → Option (List DagOutput)
  | some (.array outputs) => do
      guard (!outputs.isEmpty)
      let compiled ← outputs.mapM (compileOutput js)
      guard (compiled.map DagOutput.name).Nodup
      some compiled
  | _ => none

/--
`compiled[name] = input`, where `compiled` is an object literal: an input of the name
`__proto__` becomes its prototype, and is no property of it.
-/
def assignInput
    (compiled : List (PyStr × SpecInput))
    (name : PyStr)
    (input : SpecInput) :
    List (PyStr × SpecInput) :=
  if name = "__proto__" then compiled else put compiled name input

/-- What is known of a node when the inputs are compiled. -/
structure NodeEntry where
  data : JsVal
  compiled : SpecNode

/-- The inputs of one node and the edges so far. -/
abbrev InputState := List (PyStr × SpecInput) × List DagEdge

/-- One input. -/
def compileInput
    (nodeMap : List NodeEntry)
    (nodeId : PyStr)
    (state : InputState)
    (input : JsVal) :
    Option InputState := do
  let name ← text (input.prop? "name")
  guard (name ∉ state.1.map Prod.fst)
  let dataType ← js.stringOf ((nullish (input.prop? "dataType") none).getD (.str "any"))
  if isText (input.prop? "source") "user" then
    let value := input.prop? "value"
    some (assignInput state.1 name ⟨name, .fromUser, value, dataType, value.isSome⟩, state.2)
  else do
    guard (isText (input.prop? "source") "task")
    let sourceId ← text (optional (input.prop? "taskSource") "taskId")
    let outputKey ← text (optional (input.prop? "taskSource") "outputKey")
    let source ← nodeMap.find? fun entry => entry.compiled.nodeId = sourceId
    guard (outputKey ∈ source.compiled.outputs.map DagOutput.name)
    let value := JsVal.str (Core.DagSpec.reference sourceId outputKey)
    some (assignInput state.1 name ⟨name, .fromTask, some value, dataType, true⟩,
      state.2 ++ [⟨sourceId, outputKey, nodeId, name⟩])

/-- `compileInputs`. -/
def compileInputs
    (nodeMap : List NodeEntry)
    (nodeId : PyStr)
    (edges : List DagEdge) :
    Option JsVal → Option InputState
  | some (.array inputs) => inputs.foldlM (compileInput js nodeMap nodeId) ([], edges)
  | _ => none

/-- The inputs of all nodes, one node after the other. -/
def compileNodeInputs
    (nodeMap : List NodeEntry) :
    List NodeEntry → List DagEdge → Option (List SpecNode × List DagEdge)
  | [], edges => some ([], edges)
  | entry :: rest, edges => do
      let (inputs, more) ←
        compileInputs js nodeMap entry.compiled.nodeId edges (entry.data.prop? "inputs")
      let (nodes, all) ← compileNodeInputs nodeMap rest more
      some ({ entry.compiled with inputs := inputs } :: nodes, all)

/-! ## Connections -/

/-- `matches`. -/
def matchesEdge
    (binding : DagEdge)
    (edge : JsVal) :
    Bool :=
  let handle (key output : PyStr) : Bool :=
    !(edge.prop? key).any JsVal.truthy || isText (edge.prop? key) output
  isText (edge.prop? "source") binding.sourceTaskId &&
    isText (edge.prop? "target") binding.targetTaskId &&
    handle "sourceHandle" binding.sourceOutput && handle "targetHandle" binding.targetInput

/-- `validateReactFlowEdges`. -/
def validateReactFlowEdges
    (reactFlowEdges : List JsVal)
    (nodeIds : List PyStr)
    (bindings : List DagEdge) :
    Option Unit := do
  let isNode (end_ : Option JsVal) : Bool := nodeIds.any fun nodeId => isText end_ nodeId
  guard (reactFlowEdges.all fun edge =>
    isNode (edge.prop? "source") && isNode (edge.prop? "target") &&
      bindings.any fun binding => matchesEdge binding edge)
  guard (bindings.all fun binding => reactFlowEdges.any fun edge => matchesEdge binding edge)

/-! ## Nodes and the whole -/

/-- The id of a node, which is of the same pattern as in the DAG compiler. -/
def nodeIdOf (node : JsVal) : Option PyStr :=
  match node.prop? "id" with
  | some (.str nodeId) => if Core.DagSpec.isNodeId nodeId then some nodeId else none
  | _ => none

/-- One node without its inputs. -/
def compileNode
    (definitions : PyStr → Option JsVal)
    (node : JsVal) :
    Option NodeEntry := do
  let nodeId ← nodeIdOf node
  let data ← node.prop? "data"
  match data.prop? "configured", data.prop? "category" with
  | some (.bool true), some (.str category) => do
      guard (category ∈ [PyStr.ofString "builtin", "custom", "workspace"])
      let outputs ← compileOutputs js (data.prop? "outputs")
      let definition ← resolveDefinition js definitions data nodeId
      let codeStr := (text (definition.prop? "codeStr")).or (text (definition.prop? "code"))
      let codeSer := text (definition.prop? "codeSer")
      guard (codeStr.isSome || codeSer.isSome)
      let resources ←
        normalizeResources (nullish (data.prop? "resources") (definition.prop? "resources"))
      let modelAnchor := modelAnchorOf data definition
      let taskKind ← taskKindOf js data definition modelAnchor resources
      let taskName ← js.stringOf
        ((either (data.prop? "label") (either (definition.prop? "displayName")
          (either (definition.prop? "functionName") (some (.str nodeId))))).getD (.str nodeId))
      let setting (key definitionKey : PyStr) : Option JsVal :=
        nullish (data.prop? key) (nullish (definition.prop? definitionKey) none)
      let compiled : SpecNode :=
        { nodeId := nodeId
          taskName := taskName
          inputs := []
          outputs := outputs
          resources := resources
          taskKind := taskKind
          modelAnchor := modelAnchor
          fileContext := (setting "fileContext" "fileContext").getD .null
          maxRetries := (setting "maxRetries" "maxRetries").getD .null
          retryBackoffSeconds := (setting "retryBackoffSeconds" "retryBackoffSeconds").getD
            (.number (.finite false ⟨0, 0, Decimal.zero_shortest⟩))
          retryOn := (setting "retryOn" "retryOn").getD .null
          timeoutSeconds := (setting "taskTimeout" "timeoutSeconds").getD .null
          metadata := nodeMetadata js data definition
          codeStr := codeStr
          codeSer := codeSer }
      some ⟨data, compiled⟩
  | _, _ => none

/-- `tags.map(String)`. -/
def tagsOf (context workflow : JsVal) : Option (List PyStr) :=
  match (nullish (context.prop? "tags") (nullish (workflow.prop? "tags") none)).getD
      (.array []) with
  | .array tags => tags.mapM js.stringOf
  | _ => none

/-- `run`. -/
def compileRun
    (context : JsVal)
    (tags : List PyStr) :
    SpecRun :=
  let setting (key : PyStr) : Option JsVal := nullish (context.prop? key) none
  let given (key : PyStr) (value : Option JsVal) : List (PyStr × JsVal) :=
    value.toList.map fun found => (key, found)
  { workspaceDir := (setting "workspaceDir").getD .null
    artifactMode := (setting "artifactMode").getD (.bool true)
    fileContext := (setting "fileContext").getD .null
    timeoutSeconds := (setting "timeoutSeconds").getD .null
    tags := tags
    metadata := assign (spreadOptional (context.prop? "metadata"))
      (given "workspace_id" (context.prop? "workspaceId") ++
        given "workspace_manifest_version" (context.prop? "workspaceManifestVersion")) }

/-- `compileWorkflowToDagSpec`. -/
def compileWorkflowToDagSpec
    (workflow context : JsVal)
    (definitions : PyStr → Option JsVal) :
    Option Spec :=
  match workflow.prop? "nodes", workflow.prop? "edges" with
  | some (.array rawNodes), some (.array reactFlowEdges) => do
      guard (!rawNodes.isEmpty)
      let nodeMap ← rawNodes.mapM (compileNode js definitions)
      let nodeIds := nodeMap.map fun entry => entry.compiled.nodeId
      guard nodeIds.Nodup
      let (nodes, edges) ← compileNodeInputs js nodeMap nodeMap []
      validateReactFlowEdges reactFlowEdges nodeIds edges
      let tags ← tagsOf js context workflow
      let name ← js.stringOf
        ((either (workflow.prop? "name") (either (workflow.prop? "id")
          (some (.str "workflow")))).getD (.str "workflow"))
      some
        { name := name
          description := (nullish (workflow.prop? "description") none).getD .null
          nodes := nodes
          edges := edges
          run := compileRun context tags
          metadata := spreadOptional (workflow.prop? "metadata") }
  | _, _ => none

end Compiler

/-! ## As JSON -/

def SpecInput.toJson (input : SpecInput) : PyVal :=
  .dict
    ([(PyStr.ofString "key", .str input.key),
        ("input_schema", .str (Core.StoredSpec.inputSchemaText input.inputSchema))] ++
      (input.value.toList.map fun value => (PyStr.ofString "value", value.toJson)) ++
      [(PyStr.ofString "data_type", .str input.dataType), ("has_value", .bool input.hasValue)])

def outputToJson (output : DagOutput) : PyVal :=
  .dict [("name", .str output.name), ("data_type", .str output.dataType)]

def edgeToJson (edge : DagEdge) : PyVal :=
  .dict
    [("source_task_id", .str edge.sourceTaskId), ("source_output", .str edge.sourceOutput),
      ("target_task_id", .str edge.targetTaskId), ("target_input", .str edge.targetInput)]

def SpecResources.toJson (resources : SpecResources) : PyDict :=
  [("cpu_num", resources.cpuNum.toJson), ("gpu_mem", resources.gpuMem.toJson),
    ("io_num", resources.ioNum.toJson)]

def SpecNode.toJson (node : SpecNode) : PyVal :=
  let optionalText (key : PyStr) (value : Option PyStr) : PyDict :=
    value.toList.map fun found => (key, .str found)
  .dict
    ([(PyStr.ofString "id", .str node.nodeId), ("type", .str "code"),
        ("task_name", .str node.taskName),
        ("inputs", .dict (node.inputs.map fun input => (input.1, input.2.toJson))),
        ("outputs", .list (node.outputs.map outputToJson)),
        ("resources", .dict node.resources.toJson), ("task_kind", .str node.taskKind),
        ("model_anchor", node.modelAnchor.toJson), ("file_context", node.fileContext.toJson),
        ("max_retries", node.maxRetries.toJson),
        ("retry_backoff_seconds", node.retryBackoffSeconds.toJson),
        ("retry_on", node.retryOn.toJson), ("timeout_seconds", node.timeoutSeconds.toJson),
        ("metadata", .dict (JsVal.propertiesToJson node.metadata))] ++
      optionalText "code_str" node.codeStr ++ optionalText "code_ser" node.codeSer)

def SpecRun.toJson (run : SpecRun) : PyVal :=
  .dict
    [("workspace_dir", run.workspaceDir.toJson), ("artifact_mode", run.artifactMode.toJson),
      ("file_context", run.fileContext.toJson), ("timeout_seconds", run.timeoutSeconds.toJson),
      ("tags", .list (run.tags.map .str)),
      ("metadata", .dict (JsVal.propertiesToJson run.metadata))]

/-- The body that is sent to Core, as Python reads it. -/
def Spec.toJson (spec : Spec) : PyVal :=
  .dict
    [("schema", .str "maze.workflow/v1"), ("name", .str spec.name),
      ("description", spec.description.toJson), ("nodes", .list (spec.nodes.map SpecNode.toJson)),
      ("edges", .list (spec.edges.map edgeToJson)), ("run", spec.run.toJson),
      ("tags", .list (spec.run.tags.map .str)),
      ("metadata", .dict (JsVal.propertiesToJson spec.metadata))]

end Maze.Playground
