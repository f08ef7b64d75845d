import Maze.Core.DagSpec
import Maze.Core.ResourceHistory
import Maze.Core.TaskSemantics

namespace Maze.Core.StoredSpec

open Maze.Core.Resources (normalizeResources)
open Maze.Core.ResourceHistory (pairOf dictOf)
open Maze.Core.TaskSemantics (normalizeTaskSemantics)
open Maze.Python

/-!
# The specification that is stored for a DAG

`dag_spec_from_payload` takes a submission and returns a specification with every field
spelled out, which is a payload itself: `create_dag_workflow` gives it to
`build_dag_workflow`, which normalizes it once more, and the part of it that is stored can
be submitted again.

Inputs, outputs, edges and the graph are read as the DAG compiler reads them.
-/

/-! ## Payloads -/

/--
A Python object in a payload: JSON, a `float` that was read, or the lists and dictionaries
of a specification. A dictionary that `dict` made of pairs can have any scalar as a key.
-/
inductive Obj where
  | json (value : PyVal)
  | float (value : Double)
  | list (items : List Obj)
  | dict (entries : List (PyVal × Obj))

/-- The entries of a dictionary. -/
abbrev Mapping := List (PyVal × Obj)

namespace Obj

/-- A dictionary whose keys are texts. -/
def object (fields : List (PyStr × Obj)) : Obj :=
  .dict (fields.map fun field => (.str field.1, field.2))

/-- The value of a key, if there is one. -/
def get? : Obj → PyStr → Option Obj
  | .json (.dict entries), key => (PyDict.get? entries key).map .json
  | .dict entries, key => entries.lookup (.str key)
  | _, _ => none

/-- `payload.get(key)`, where a payload has only JSON. -/
def get
    (payload : Obj)
    (key : PyStr) :
    PyVal :=
  match payload.get? key with
  | some (.json value) => value
  | _ => .null

/-- `key in payload`. -/
def has
    (payload : Obj)
    (key : PyStr) :
    Bool :=
  (payload.get? key).isSome

def truthy : Obj → Bool
  | .json value => value.truthy
  | .float value => value ≠ .finite 0
  | .list items => !items.isEmpty
  | .dict entries => !entries.isEmpty

/-- `payload.get(key) or {}`. -/
def orEmpty
    (payload : Obj)
    (key : PyStr) :
    Obj :=
  match payload.get? key with
  | some value => if value.truthy then value else .dict []
  | none => .dict []

/-- `_ensure_mapping`. -/
def ensureMapping : Obj → Except PyErr Obj
  | .json (.dict entries) => .ok (.json (.dict entries))
  | .dict entries => .ok (.dict entries)
  | _ => .error .valueError

/-- `mapping[key] = value`; keys that are equal numbers are one key. -/
def setKey :
    Mapping → PyVal → Obj → Mapping
  | [], key, value => [(key, value)]
  | (other, old) :: rest, key, value =>
      if key.pyEq other then (other, value) :: rest
      else (other, old) :: setKey rest key value

/-- `dict(value)`. -/
def toMapping : Obj → Except PyErr Mapping
  | .json (.dict entries) => .ok (entries.map fun entry => (.str entry.1, .json entry.2))
  | .json (.str text) => if text.isEmpty then .ok [] else .error .valueError
  | .json (.list items) =>
      items.foldlM
        (fun mapping item => do
          let (key, value) ← pairOf item
          if key.hashable then .ok (setKey mapping key (.json value)) else .error .typeError)
        []
  | .dict entries => .ok entries
  | .list items => if items.isEmpty then .ok [] else .error .valueError
  | _ => .error .typeError

/-- The JSON entries whose keys are texts. -/
def named (mapping : Mapping) : PyDict :=
  mapping.filterMap fun entry =>
    match entry with
    | (.str key, .json value) => some (key, value)
    | _ => none

end Obj

/-! ## Optional fields -/

section Reading

variable (str : PyVal → PyStr)

/-- `_optional_float`. -/
def optionalFloat : Option Obj → Except PyErr (Option Double)
  | none | some (.json .null) => .ok none
  | some (.json value) => do
      let number ← Number.float value
      .ok (some number)
  | some (.float number) => .ok (some number)
  | some _ => .error .typeError

/-- `float(value or 0)`. -/
def floatOrZero : Option Obj → Except PyErr Double
  | none => .ok (.finite 0)
  | some (.json value) => Number.float (value.orElse (.int 0))
  | some (.float number) => .ok number
  | some value => if value.truthy then .error .typeError else .ok (.finite 0)

/-- `max(0.0, number)`. -/
def atLeastZero : Double → Double
  | .finite value => .finite (max 0 value)
  | .infinity false => .infinity false
  | _ => .finite 0

/-- `_optional_int`. -/
def optionalInt : PyVal → Except PyErr (Option ℤ)
  | .null => .ok none
  | value => do
      let number ← Number.int value
      .ok (some (max 0 number))

/-- `_optional_str_list`. -/
def optionalStrList : PyVal → Except PyErr (Option (List PyStr))
  | .null => .ok none
  | .list items => .ok (some (items.map (PyVal.text str)))
  | _ => .error .valueError

/-- `[str(item) for item in value or []]`. -/
def strItems (value : PyVal) : Except PyErr (List PyStr) :=
  match value.orElse (.list []) with
  | .list items => .ok (items.map (PyVal.text str))
  | .str text => .ok (text.chars.map fun char => ⟨[char]⟩)
  | .dict entries => .ok (entries.map Prod.fst)
  | _ => .error .typeError

/-- `_optional_workflow_id`. -/
def optionalWorkflowId : PyVal → Except PyErr (Option PyStr)
  | .null => .ok none
  | .str text =>
      if text.isEmpty || text ≠ ⟨EventLog.strip text.chars⟩ then .error .valueError
      else .ok (some text)
  | _ => .error .valueError

/-! ## Nodes -/

/-- A normalized node; `model_anchor` is `None` if it is empty. -/
structure Node extends DagNode where
  taskName : PyStr
  taskKind : TaskKind
  resources : PyDict
  codeStr : PyVal
  codeSer : PyVal
  fileContext : PyVal
  modelAnchor : Mapping
  maxRetries : Option ℤ
  retryBackoffSeconds : Double
  retryOn : Option (List PyStr)
  timeoutSeconds : Option Double
  metadata : Mapping

/-- `node.get("code_str", node.get("code"))`. -/
def codeStrOf (node : Obj) : PyVal :=
  if node.has "code_str" then node.get "code_str" else node.get "code"

/-- The id, the type and the code of a node. -/
def requireNode
    (node : Obj)
    (nodeId : PyStr) :
    Except PyErr Unit :=
  if !DagSpec.isNodeId nodeId ||
      ((node.get "type").orElse (.str "code")).text str ∉
        [PyStr.ofString "code", "python_task", "task"] ||
      (!(codeStrOf node).truthy && !(node.get "code_ser").truthy) then
    .error .valueError
  else
    .ok ()

/-- `_normalize_node`. -/
def normalizeNode (raw : Obj) : Except PyErr Node := do
  let node ← raw.ensureMapping
  let nodeId : PyStr := ⟨EventLog.strip (((node.get "id").orElse (.str "")).text str).chars⟩
  requireNode str node nodeId
  let outputs ← DagSpec.normalizeOutputs str (node.get "outputs")
  let modelAnchor ← (node.orEmpty "model_anchor").toMapping
  let declared ← dictOf ((node.get "resources").orElse (.dict []))
  let semantics ←
    normalizeTaskSemantics str (node.get "task_kind") declared (Obj.named modelAnchor)
  let inputs ← DagSpec.normalizeInputs str ((node.get "inputs").orElse (.dict []))
  let maxRetries ← optionalInt (node.get "max_retries")
  let retryBackoffSeconds ← floatOrZero (node.get? "retry_backoff_seconds")
  let retryOn ← optionalStrList str (node.get "retry_on")
  let timeoutSeconds ← optionalFloat (node.get? "timeout_seconds")
  let metadata ← (node.orEmpty "metadata").toMapping
  .ok
    { nodeId := nodeId
      inputs := inputs
      outputs := outputs
      taskName := ((node.get "task_name").orElse
        ((node.get "name").orElse (.str nodeId))).text str
      taskKind := semantics.1
      resources := semantics.2
      codeStr := codeStrOf node
      codeSer := node.get "code_ser"
      fileContext := node.get "file_context"
      modelAnchor := modelAnchor
      maxRetries := maxRetries
      retryBackoffSeconds := atLeastZero retryBackoffSeconds
      retryOn := retryOn
      timeoutSeconds := timeoutSeconds
      metadata := metadata }

/-! ## The run section and the input contract -/

/-- A normalized `run`; `inputs` and `run_id` are kept only if they are given. -/
structure Run where
  workspaceDir : PyVal
  artifactMode : Bool
  fileContext : PyVal
  timeoutSeconds : Option Double
  tags : List PyStr
  metadata : Mapping
  inputs : Option PyVal
  runId : Option PyStr

/-- The inputs of a run are an object or `None`. -/
def runInputs (run : Obj) : Except PyErr (Option PyVal) :=
  if run.has "inputs" then
    match run.get "inputs" with
    | .null => .ok (some .null)
    | .dict entries => .ok (some (.dict entries))
    | _ => .error .valueError
  else
    .ok none

/-- `-`. -/
def dash : CodePoint := Fin.ofNat 0x110000 0x2D

/-- `[0-9a-f]`. -/
def isHexDigit (char : CodePoint) : Bool :=
  (0x30 ≤ char.val && char.val ≤ 0x39) || (0x61 ≤ char.val && char.val ≤ 0x66)

/-- The texts that `str` makes of a UUID. -/
def isCanonicalUuid (text : PyStr) : Bool :=
  (text.split dash).map (fun part => part.chars.length) = [8, 4, 4, 4, 12] &&
    (text.split dash).all fun part => part.chars.all isHexDigit

/-- The id of a run is the text of a UUID. -/
def runIdOf (run : Obj) : Except PyErr (Option PyStr) :=
  if run.has "run_id" then
    match run.get "run_id" with
    | .str text => if isCanonicalUuid text then .ok (some text) else .error .valueError
    | _ => .error .valueError
  else
    .ok none

/-- What names a run twice is refused. -/
def refuseIdempotencyKeys (run : Obj) : Except PyErr Unit :=
  if run.has "idempotency_key" || run.has "idempotency_fingerprint" then .error .valueError
  else .ok ()

/-- `_normalize_run`. -/
def normalizeRun (raw : Obj) : Except PyErr Run := do
  let run ← raw.ensureMapping
  let timeoutSeconds ← optionalFloat (run.get? "timeout_seconds")
  let tags ← strItems str (run.get "tags")
  let metadata ← (run.orEmpty "metadata").toMapping
  let inputs ← runInputs run
  let runId ← runIdOf run
  refuseIdempotencyKeys run
  .ok
    { workspaceDir := (run.get "workspace_dir").orElse (run.get "workspace")
      artifactMode := if run.has "artifact_mode" then (run.get "artifact_mode").truthy else true
      fileContext := run.get "file_context"
      timeoutSeconds := timeoutSeconds
      tags := tags
      metadata := metadata
      inputs := inputs
      runId := runId }

/-- `_stored_run_config`. -/
def storedRunConfig (run : Run) : Run :=
  { run with inputs := none, runId := none }

/-- A normalized `input_contract`. -/
structure InputContract where
  constants : List PyStr
  runtime : PyDict

/-- The names of the constants. -/
def namesOf : PyVal → Except PyErr (List PyStr)
  | .list items =>
      items.mapM fun item =>
        match item with
        | .str name => .ok name
        | _ => .error .valueError
  | _ => .error .valueError

/-- A runtime input is required, or it has a default. -/
def isRuntimeInput : PyVal → Bool
  | .dict spec =>
      match PyDict.get? spec "required" with
      | some (.bool required) =>
          let expected : List PyStr := if required then ["required"] else ["required", "default"]
          spec.all (fun entry => entry.1 ∈ expected) &&
            expected.all fun key => key ∈ spec.map Prod.fst
      | _ => false
  | _ => false

/-- `sorted(names)`. -/
def sortNames (names : List PyStr) : List PyStr :=
  names.insertionSort fun first second => first.chars ≤ second.chars

/-- `_normalize_input_contract`. -/
def normalizeInputContract : PyVal → Except PyErr (Option InputContract)
  | .null => .ok none
  | .dict contract => do
      let constants ← namesOf (PyDict.get contract "constants")
      match PyDict.get contract "runtime" with
      | .dict runtime =>
          if constants.Nodup ∧ (∀ entry ∈ runtime, entry.1 ∉ constants) ∧
              runtime.all fun entry => isRuntimeInput entry.2 then
            .ok (some ⟨sortNames constants, runtime⟩)
          else
            .error .valueError
      | _ => .error .valueError
  | _ => .error .valueError

/-! ## The specification -/

/-- What `dag_spec_from_payload` returns. -/
structure Spec where
  schema : PyVal
  workflowId : Option PyStr
  name : PyStr
  description : PyVal
  nodes : List Node
  edges : List DagEdge
  run : Run
  tags : List PyStr
  metadata : Mapping
  inputContract : Option InputContract
  finalOutputRefs : Option PyVal

/-! ### As a payload -/

def optionalText (text : Option PyStr) : Obj :=
  .json (text.elim .null .str)

def optionalNumber (number : Option Double) : Obj :=
  number.elim (.json .null) .float

def texts (items : List PyStr) : PyVal :=
  .list (items.map .str)

def inputSchemaText : InputSchema → PyStr
  | .fromRun => "from_run"
  | .fromTask => "from_task"
  | .fromUser => "from_user"

def inputValue (input : DagInput) : PyVal :=
  .dict
    [("key", .str input.key), ("input_schema", .str (inputSchemaText input.inputSchema)),
      ("value", input.value), ("data_type", .str input.dataType),
      ("has_value", .bool input.hasValue)]

def outputValue (output : DagOutput) : PyVal :=
  .dict [("name", .str output.name), ("data_type", .str output.dataType)]

def edgeValue (edge : DagEdge) : PyVal :=
  .dict
    [("source_task_id", .str edge.sourceTaskId), ("source_output", .str edge.sourceOutput),
      ("target_task_id", .str edge.targetTaskId), ("target_input", .str edge.targetInput)]

/-- An empty dictionary is stored as `None`. -/
def orNone (mapping : Mapping) : Obj :=
  if mapping.isEmpty then .json .null else .dict mapping

def Node.toObj (node : Node) : Obj :=
  .object
    [("id", .json (.str node.nodeId)), ("type", .json (.str "code")),
      ("task_name", .json (.str node.taskName)),
      ("inputs", .json (.dict (node.inputs.map fun input => (input.1, inputValue input.2)))),
      ("outputs", .json (.list (node.outputs.map outputValue))),
      ("task_kind", .json (.str node.taskKind.text)), ("resources", .json (.dict node.resources)),
      ("code_str", .json node.codeStr), ("code_ser", .json node.codeSer),
      ("file_context", .json node.fileContext), ("model_anchor", orNone node.modelAnchor),
      ("max_retries", .json (node.maxRetries.elim .null .int)),
      ("retry_backoff_seconds", .float node.retryBackoffSeconds),
      ("retry_on", .json (node.retryOn.elim .null texts)),
      ("timeout_seconds", optionalNumber node.timeoutSeconds),
      ("metadata", .dict node.metadata)]

def Run.toObj (run : Run) : Obj :=
  .object
    ([(PyStr.ofString "workspace_dir", .json run.workspaceDir),
        ("artifact_mode", .json (.bool run.artifactMode)),
        ("file_context", .json run.fileContext),
        ("timeout_seconds", optionalNumber run.timeoutSeconds),
        ("tags", .json (texts run.tags)), ("metadata", .dict run.metadata)] ++
      (run.inputs.toList.map fun inputs => (PyStr.ofString "inputs", .json inputs)) ++
      run.runId.toList.map fun runId => (PyStr.ofString "run_id", .json (.str runId)))

def InputContract.value (contract : InputContract) : PyVal :=
  .dict [("constants", texts contract.constants), ("runtime", .dict contract.runtime)]

/-- The entries that are left out where there is nothing. -/
def optionalEntries
    (inputContract : Option InputContract)
    (finalOutputRefs : Option PyVal) :
    List (PyStr × Obj) :=
  (inputContract.toList.map fun contract =>
      (PyStr.ofString "input_contract", .json contract.value)) ++
    finalOutputRefs.toList.map fun refs => (PyStr.ofString "final_output_refs", .json refs)

/-- The specification as the program passes it on. -/
def Spec.toObj (spec : Spec) : Obj :=
  .object
    ([(PyStr.ofString "schema", .json spec.schema), ("workflow_id", optionalText spec.workflowId),
        ("name", .json (.str spec.name)), ("description", .json spec.description),
        ("nodes", .list (spec.nodes.map Node.toObj)),
        ("edges", .json (.list (spec.edges.map edgeValue))), ("run", spec.run.toObj),
        ("tags", .json (texts spec.tags)), ("metadata", .dict spec.metadata)] ++
      optionalEntries spec.inputContract spec.finalOutputRefs)

/-- `stored_spec`, which has the name as it was given. -/
def storedSpec
    (name : PyVal)
    (spec : Spec) :
    Obj :=
  .object
    ([(PyStr.ofString "schema", .json spec.schema), ("workflow_id", optionalText spec.workflowId),
        ("name", .json name), ("description", .json spec.description),
        ("nodes", .list (spec.nodes.map Node.toObj)),
        ("edges", .json (.list (spec.edges.map edgeValue))),
        ("run", (storedRunConfig spec.run).toObj)] ++
      optionalEntries spec.inputContract spec.finalOutputRefs)

/-! ### From a payload -/

/-- The nodes of a payload, in a list that is not empty. -/
def nodesOf (payload : Obj) : Except PyErr (List Obj) :=
  match payload.get? "nodes" with
  | some (.json (.list (first :: rest))) => .ok ((first :: rest).map .json)
  | some (.list (first :: rest)) => .ok (first :: rest)
  | _ => .error .valueError

def edgesOf (payload : Obj) : Except PyErr (List PyVal) :=
  match (payload.get "edges").orElse (.list []) with
  | .list items => .ok items
  | _ => .error .valueError

/-- No id is given twice. -/
def requireDistinct (nodeIds : List PyStr) : Except PyErr Unit :=
  if nodeIds.Nodup then .ok () else .error .valueError

/-- `_validate_graph`. -/
def validateGraph
    (nodeIds : List PyStr)
    (edges : List DagEdge) :
    Except PyErr Unit :=
  if DagSpec.isAcyclic nodeIds (edges.map DagSpec.endpoints) then .ok () else .error .valueError

/-- `metadata.setdefault(key, value)`. -/
def setDefault
    (metadata : Mapping)
    (key : PyStr)
    (value : PyVal) :
    Mapping :=
  if (metadata.lookup (.str key)).isSome then metadata
  else Obj.setKey metadata (.str key) (.json value)

/-- `dag_spec_from_payload`. -/
def dagSpecFromPayload (raw : Obj) : Except PyErr Spec := do
  let payload ← raw.ensureMapping
  let rawNodes ← nodesOf payload
  let rawEdges ← edgesOf payload
  let nodes ← rawNodes.mapM (normalizeNode str)
  let nodeIds := nodes.map fun node => node.nodeId
  requireDistinct nodeIds
  let edges ← rawEdges.mapM (DagSpec.normalizeEdge str (nodes.map Node.toDagNode))
  validateGraph nodeIds edges
  let run ← normalizeRun str (payload.orEmpty "run")
  let inputContract ← normalizeInputContract (payload.get "input_contract")
  let given ← (payload.orEmpty "metadata").toMapping
  let name := (payload.get "name").orElse (.str "dag-workflow")
  let workflowId ← optionalWorkflowId (payload.get "workflow_id")
  let tags ← strItems str (payload.get "tags")
  let spec : Spec :=
    { schema := (payload.get "schema").orElse (.str "maze.workflow/v1")
      workflowId := workflowId
      name := name.text str
      description := payload.get "description"
      nodes := nodes
      edges := edges
      run := run
      tags := tags
      metadata := setDefault (setDefault given "workflow_name" name) "run_kind" (.str "dag")
      inputContract := inputContract
      finalOutputRefs :=
        if payload.has "final_output_refs" then some (payload.get "final_output_refs")
        else none }
  .ok { spec with metadata := Obj.setKey spec.metadata (.str "dag_spec") (storedSpec name spec) }

/-! ## What it is used for -/

/-- What a workflow id is bound to. -/
structure Definition where
  schema : PyVal
  nodes : List Node
  edges : List DagEdge
  inputContract : Option InputContract

/-- `dag_definition_from_spec`. -/
def dagDefinitionFromSpec (spec : Spec) : Definition where
  schema := spec.schema
  nodes := spec.nodes
  edges := spec.edges
  inputContract := spec.inputContract

/-- A `CodeTask` of the workflow. -/
structure Task where
  taskId : TaskId
  taskName : PyStr
  taskInput : List (PyStr × DagInput)
  taskOutput : List DagOutput
  codeStr : PyVal
  codeSer : PyVal
  declaredResources : PyDict
  taskKind : TaskKind
  resources : PyDict
  fileContext : PyVal
  modelAnchor : Mapping
  maxRetries : Option ℤ
  retryBackoffSeconds : Double
  retryOn : Option (List PyStr)
  timeoutSeconds : Option Double

/-- `save_task`. -/
def saveTask
    (taskInput : List (PyStr × DagInput))
    (node : Node) :
    Except PyErr Task := do
  let declaredResources ← normalizeResources node.resources
  let semantics ← normalizeTaskSemantics str (.str node.taskKind.text) node.resources
    (Obj.named node.modelAnchor)
  .ok
    { taskId := node.nodeId
      taskName := node.taskName
      taskInput := taskInput
      taskOutput := node.outputs
      codeStr := node.codeStr
      codeSer := node.codeSer
      declaredResources := declaredResources
      taskKind := semantics.1
      resources := semantics.2
      fileContext := node.fileContext
      modelAnchor := node.modelAnchor
      maxRetries := node.maxRetries
      retryBackoffSeconds := node.retryBackoffSeconds
      retryOn := node.retryOn
      timeoutSeconds := node.timeoutSeconds }

/-- The workflow that is built. -/
structure BuiltWorkflow where
  tasks : List Task
  edges : List (TaskId × TaskId)
  inputContract : Option InputContract
  definition : Definition

/-- `build_dag_workflow`. -/
def buildDagWorkflow (payload : Obj) : Except PyErr BuiltWorkflow := do
  let spec ← dagSpecFromPayload str payload
  let taskInputs ← DagSpec.buildTaskInputs ⟨spec.nodes.map Node.toDagNode, spec.edges⟩
  let tasks ← spec.nodes.mapM fun node =>
    saveTask str ((taskInputs.lookup node.nodeId).getD []) node
  .ok
    { tasks := tasks
      edges := spec.edges.foldl DagSpec.addEdge []
      inputContract := spec.inputContract
      definition := dagDefinitionFromSpec spec }

end Reading

end Maze.Core.StoredSpec
