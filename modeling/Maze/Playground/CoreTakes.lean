import Maze.Core.DagBindings
import Maze.Core.StoredSpecKept
import Maze.Library.Digraph
import Maze.Playground.CanvasInputs

namespace Maze.Playground

open Maze.Core (DagEdge DagInput DagNode DagOutput)
open Maze.Core.DagSpec (InputMaps bindEdge mergeEdge mergeEdges reference)
open Maze.Core.StoredSpec
open Maze.Library
open Maze.Library.Calls (exists_of_forall₂ mapM_map mapM_of_back)
open Maze.Python

/-!
# What Core makes of a specification

Core takes every part of a specification of the Playground but for the settings of a task,
which it checks by rules of its own, and for a cycle. The inputs of a node stay as they are.
-/

section Taking

variable (str : PyVal → PyStr)

/-- Core takes the kind, the resources, the model, the retries and the time limit of a task. -/
structure SettingsAccepted (node : SpecNode) : Prop where
  semantics : ∃ anchor settled,
    (if (Obj.json node.modelAnchor.toJson).truthy then Obj.json node.modelAnchor.toJson
      else .dict []).toMapping = .ok anchor ∧
    Core.TaskSemantics.normalizeTaskSemantics str (.str node.taskKind) node.resources.toJson
      (Obj.named anchor) = .ok settled
  maxRetries : ∃ count, optionalInt node.maxRetries.toJson = .ok count
  retryBackoffSeconds : ∃ seconds,
    floatOrZero (some (.json node.retryBackoffSeconds.toJson)) = .ok seconds
  retryOn : ∃ kinds, optionalStrList str node.retryOn.toJson = .ok kinds
  timeoutSeconds : ∃ seconds,
    optionalFloat (some (.json node.timeoutSeconds.toJson)) = .ok seconds

/-- Core takes the settings of all tasks and the time limit of the run. -/
def AllSettingsAccepted (spec : Spec) : Prop :=
  (∀ node ∈ spec.nodes, SettingsAccepted str node) ∧
    ∃ seconds, optionalFloat (some (.json spec.run.timeoutSeconds.toJson)) = .ok seconds

/-- The type of an input as Core reads it. -/
def coreType (dataType : PyStr) : PyStr :=
  if dataType.isEmpty then "any" else dataType

/-- An input as Core reads it. -/
def coreInput (input : SpecInput) : DagInput :=
  ⟨input.key, input.inputSchema, (input.value.map JsVal.toJson).getD .null,
    coreType input.dataType, input.hasValue⟩

/-- What Core has of a node that it takes. -/
structure Taken
    (node : SpecNode)
    (made : Node) : Prop where
  nodeId : made.nodeId = node.nodeId
  inputs : made.inputs = node.inputs.map fun entry => (entry.1, coreInput entry.2)
  outputs : made.outputs.map DagOutput.name = node.outputs.map DagOutput.name
  saved : ∀ taskInput, ∃ task, saveTask str taskInput made = .ok task

variable {str}

/-! ## Inputs and outputs -/

theorem dataType_any (dataType : PyStr) :
    ((PyVal.str dataType).orElse (.str "any")).text str = coreType dataType := by
  unfold coreType
  cases empty : dataType.isEmpty with
  | false =>
      rw [orElse_of_text empty]
      rfl
  | true =>
      rw [PyVal.orElse, PyVal.truthy, empty]
      rfl

theorem reference_given (taskId output : PyStr) : (reference taskId output).isEmpty = false := by
  obtain ⟨chars⟩ := taskId
  cases chars <;> rfl

theorem normalizeInput_specInput
    (input : CanvasInput)
    (dataType : PyStr) :
    Core.DagSpec.normalizeInput str input.name (specInput input dataType).toJson =
      .ok (coreInput (specInput input dataType)) := by
  obtain ⟨name, source⟩ := input
  have typed := @dataType_any str dataType
  cases source with
  | user value =>
      cases value <;>
        simp [specInput, SpecInput.toJson, Core.DagSpec.normalizeInput, Core.DagSpec.isBinding,
          Core.DagSpec.hasKey, Core.DagSpec.normalizeBinding, PyDict.get, inputSchemaText, typed,
          PyVal.truthy, coreInput, pure, Except.pure]
  | task taskId output =>
      have given (other : PyVal) : ((PyVal.str (reference taskId output)).orElse other).text str =
          reference taskId output := by
        rw [orElse_of_text (reference_given taskId output)]
        rfl
      simp [specInput, SpecInput.toJson, Core.DagSpec.normalizeInput, Core.DagSpec.isBinding,
        Core.DagSpec.hasKey, Core.DagSpec.normalizeBinding, PyDict.get, inputSchemaText, typed,
        PyVal.truthy, coreInput, JsVal.toJson, given, pure, Except.pure]

/-- Every entry is made of an input of the canvas. -/
theorem Compiled.made
    {nodeMap : List NodeEntry}
    {nodeId : PyStr}
    {inputs : List CanvasInput}
    {compiled : List (PyStr × SpecInput)}
    (made : Compiled nodeMap nodeId inputs compiled)
    {key : PyStr}
    {entry : SpecInput}
    (member : (key, entry) ∈ compiled) :
    ∃ input ∈ inputs, ∃ dataType, key = input.name ∧ entry = specInput input dataType := by
  have found := (Dict.lookup_eq_some_iff made.distinct key entry).mpr member
  obtain ⟨named, input, inside, rfl⟩ := made.origin key entry found
  obtain ⟨dataType, given⟩ := made.entry input inside named
  exact ⟨input, inside, dataType, rfl, Option.some.inj (found.symm.trans given)⟩

theorem normalizeInputs_taken
    {nodeMap : List NodeEntry}
    {nodeId : PyStr}
    {inputs : List CanvasInput}
    {compiled : List (PyStr × SpecInput)}
    (made : Compiled nodeMap nodeId inputs compiled) :
    Core.DagSpec.normalizeInputs str
        (.dict (compiled.map fun entry => (entry.1, entry.2.toJson))) =
      .ok (compiled.map fun entry => (entry.1, coreInput entry.2)) := by
  refine mapM_map fun entry member => ?_
  obtain ⟨key, value⟩ := entry
  obtain ⟨input, _, dataType, rfl, rfl⟩ := made.made member
  rw [normalizeInput_specInput]
  rfl

theorem normalizeOutputs_taken
    {node : SpecNode}
    (wellFormed : WellFormed node) :
    Core.DagSpec.normalizeOutputs str (.list (node.outputs.map outputToJson)) =
      .ok (node.outputs.map fun output => ⟨output.name, coreType output.dataType⟩) := by
  have read : (node.outputs.map outputToJson).mapM (Core.DagSpec.normalizeOutput str) =
      .ok (node.outputs.map fun output => ⟨output.name, coreType output.dataType⟩) := by
    refine mapM_map fun output member => ?_
    have named := wellFormed.named output member
    have text : (PyVal.str output.name).text str = output.name := rfl
    simp [outputToJson, Core.DagSpec.normalizeOutput, PyDict.get, orElse_of_text named,
      dataType_any, text]
  have names : (node.outputs.map fun output =>
      (⟨output.name, coreType output.dataType⟩ : DagOutput)).map DagOutput.name =
        node.outputs.map DagOutput.name := by
    rw [List.map_map]
    rfl
  have named : (node.outputs.map fun output =>
      (⟨output.name, coreType output.dataType⟩ : DagOutput)).any
        (fun output => output.name.isEmpty) = false := by
    rw [List.any_map]
    exact List.any_eq_false.mpr fun output member => by simp [wellFormed.named output member]
  have given : (node.outputs.map fun output =>
      (⟨output.name, coreType output.dataType⟩ : DagOutput)).isEmpty = false := by
    simpa using wellFormed.outputs
  rw [Core.DagSpec.normalizeOutputs, read]
  simp only [bind, Except.bind, named, given, names, wellFormed.distinct, decide_true,
    Bool.not_true, Bool.or_false, Bool.false_eq_true, if_false]
  rfl

/-! ## Nodes -/

theorem get?_append
    (first second : PyDict)
    (key : PyStr) :
    PyDict.get? (first ++ second) key = (PyDict.get? first key).or (PyDict.get? second key) := by
  induction first with
  | nil => rfl
  | cons entry rest inductionHypothesis =>
      obtain ⟨other, value⟩ := entry
      rw [List.cons_append, PyDict.get?_cons, PyDict.get?_cons, inductionHypothesis]
      split <;> rfl

/-- The fields that a node always has. -/
def nodeFields (node : SpecNode) : PyDict :=
  [("id", .str node.nodeId), ("type", .str "code"), ("task_name", .str node.taskName),
    ("inputs", .dict (node.inputs.map fun input => (input.1, input.2.toJson))),
    ("outputs", .list (node.outputs.map outputToJson)),
    ("resources", .dict node.resources.toJson), ("task_kind", .str node.taskKind),
    ("model_anchor", node.modelAnchor.toJson), ("file_context", node.fileContext.toJson),
    ("max_retries", node.maxRetries.toJson),
    ("retry_backoff_seconds", node.retryBackoffSeconds.toJson),
    ("retry_on", node.retryOn.toJson), ("timeout_seconds", node.timeoutSeconds.toJson),
    ("metadata", .dict (JsVal.propertiesToJson node.metadata))]

/-- The fields of its code. -/
def codeFields (node : SpecNode) : PyDict :=
  (node.codeStr.toList.map fun code => (PyStr.ofString "code_str", PyVal.str code)) ++
    node.codeSer.toList.map fun code => (PyStr.ofString "code_ser", PyVal.str code)

theorem SpecNode.toJson_eq (node : SpecNode) :
    node.toJson = .dict (nodeFields node ++ codeFields node) := by
  rw [SpecNode.toJson, List.append_assoc]
  rfl

theorem get?_node
    {node : SpecNode}
    {key : PyStr}
    {value : PyVal}
    (found : PyDict.get? (nodeFields node) key = some value) :
    (Obj.json node.toJson).get? key = some (.json value) := by
  rw [SpecNode.toJson_eq]
  change (PyDict.get? (nodeFields node ++ codeFields node) key).map Obj.json = _
  rw [get?_append, found]
  rfl

theorem get_node
    {node : SpecNode}
    {key : PyStr}
    {value : PyVal}
    (found : PyDict.get? (nodeFields node) key = some value) :
    (Obj.json node.toJson).get key = value := by
  rw [Obj.get, get?_node found]

theorem get?_code
    {node : SpecNode}
    {key : PyStr}
    (absent : PyDict.get? (nodeFields node) key = none) :
    (Obj.json node.toJson).get? key = (PyDict.get? (codeFields node) key).map .json := by
  rw [SpecNode.toJson_eq]
  change (PyDict.get? (nodeFields node ++ codeFields node) key).map Obj.json = _
  rw [get?_append, absent]
  rfl

theorem requireNode_taken
    {node : SpecNode}
    (wellFormed : WellFormed node) :
    requireNode str (.json node.toJson) node.nodeId = .ok () := by
  have kind : (Obj.json node.toJson).get "type" = .str "code" :=
    get_node (by simp [nodeFields])
  have type : ((PyVal.str "code").orElse (.str "code")).text str = PyStr.ofString "code" := rfl
  have codeStr : (Obj.json node.toJson).get? "code_str" =
      (PyDict.get? (codeFields node) "code_str").map .json :=
    get?_code (by simp [nodeFields])
  have codeSer : (Obj.json node.toJson).get? "code_ser" =
      (PyDict.get? (codeFields node) "code_ser").map .json :=
    get?_code (by simp [nodeFields])
  have given : ((codeStrOf (.json node.toJson)).truthy ||
      ((Obj.json node.toJson).get "code_ser").truthy) = true := by
    simp only [codeStrOf, Obj.has, Obj.get, codeStr, codeSer]
    cases isStr : node.codeStr with
    | some code =>
        have solid := wellFormed.codeStr code isStr
        simp [codeFields, isStr, PyVal.truthy, solid]
    | none =>
        cases isSer : node.codeSer with
        | some code =>
            have solid := wellFormed.codeSer code isSer
            simp [codeFields, isStr, isSer, PyVal.truthy, solid]
        | none => exact absurd wellFormed.code (by simp [isStr, isSer])
  rw [requireNode, kind, type, wellFormed.nodeId, if_neg]
  rw [Bool.or_eq_true] at given
  rcases given with given | given <;> simp [given]

/-- What is settled of a node is settled again when its task is saved. -/
theorem saveTask_taken
    {taskKind : PyVal}
    {declared form : PyDict}
    {anchor : Mapping}
    {kind : Core.TaskKind}
    (settled : Core.TaskSemantics.normalizeTaskSemantics str taskKind declared
      (Obj.named anchor) = .ok (kind, form))
    {node : Node}
    (isAnchor : node.modelAnchor = anchor)
    (isKind : node.taskKind = kind)
    (isForm : node.resources = form)
    (taskInput : List (PyStr × DagInput)) :
    ∃ task, saveTask str taskInput node = .ok task := by
  have again := semantics_again settled
  obtain ⟨_, applied, _⟩ := bind_eq_ok.mp again
  obtain ⟨normal, normalized, _⟩ := bind_eq_ok.mp applied
  rw [saveTask, isAnchor, isKind, isForm, normalized]
  simp only [bind, Except.bind, again]
  exact ⟨_, rfl⟩

/-- Core takes a node if it accepts its settings. -/
theorem normalizeNode_taken
    {nodeMap : List NodeEntry}
    {inputs : List CanvasInput}
    {node : SpecNode}
    (wellFormed : WellFormed node)
    (made : Compiled nodeMap node.nodeId inputs node.inputs)
    (settings : SettingsAccepted str node) :
    ∃ core, normalizeNode str (.json node.toJson) = .ok core ∧ Taken str node core := by
  obtain ⟨⟨anchor, ⟨kind, form⟩, isAnchor, settled⟩, ⟨maxRetries, isMaxRetries⟩,
    ⟨backoff, isBackoff⟩, ⟨retryOn, isRetryOn⟩, timeout, isTimeout⟩ := settings
  have nodeId : (Obj.json node.toJson).get "id" = .str node.nodeId :=
    get_node (by simp [nodeFields])
  have nodeIdIs : (⟨Core.EventLog.strip
      ((((Obj.json node.toJson).get "id").orElse (.str "")).text str).chars⟩ : PyStr) =
        node.nodeId := by
    rw [nodeId, orElse_empty, PyVal.text, strip_of_isNodeId wellFormed.nodeId]
  have inputsField : (Obj.json node.toJson).get "inputs" =
      .dict (node.inputs.map fun input => (input.1, input.2.toJson)) :=
    get_node (by simp [nodeFields])
  have inputsRead : Core.DagSpec.normalizeInputs str
      (((Obj.json node.toJson).get "inputs").orElse (.dict [])) =
        .ok (node.inputs.map fun entry => (entry.1, coreInput entry.2)) := by
    rw [inputsField, orElse_dict, normalizeInputs_taken made]
  have outputsField : (Obj.json node.toJson).get "outputs" =
      .list (node.outputs.map outputToJson) :=
    get_node (by simp [nodeFields])
  have outputsRead : Core.DagSpec.normalizeOutputs str ((Obj.json node.toJson).get "outputs") =
      .ok (node.outputs.map fun output => ⟨output.name, coreType output.dataType⟩) := by
    rw [outputsField, normalizeOutputs_taken wellFormed]
  have taskKind : (Obj.json node.toJson).get "task_kind" = .str node.taskKind :=
    get_node (by simp [nodeFields])
  have resources : (Obj.json node.toJson).get "resources" = .dict node.resources.toJson :=
    get_node (by simp [nodeFields])
  have declared : Core.ResourceHistory.dictOf
      (((Obj.json node.toJson).get "resources").orElse (.dict [])) = .ok node.resources.toJson := by
    rw [resources, orElse_dict]
    rfl
  have anchorField : (Obj.json node.toJson).get? "model_anchor" =
      some (.json node.modelAnchor.toJson) :=
    get?_node (by simp [nodeFields])
  have anchorRead : ((Obj.json node.toJson).orEmpty "model_anchor").toMapping = .ok anchor := by
    rw [Obj.orEmpty, anchorField]
    exact isAnchor
  have retries : (Obj.json node.toJson).get "max_retries" = node.maxRetries.toJson :=
    get_node (by simp [nodeFields])
  have backoffField : (Obj.json node.toJson).get? "retry_backoff_seconds" =
      some (.json node.retryBackoffSeconds.toJson) :=
    get?_node (by simp [nodeFields])
  have retryOnField : (Obj.json node.toJson).get "retry_on" = node.retryOn.toJson :=
    get_node (by simp [nodeFields])
  have timeoutField : (Obj.json node.toJson).get? "timeout_seconds" =
      some (.json node.timeoutSeconds.toJson) :=
    get?_node (by simp [nodeFields])
  have metadataField : (Obj.json node.toJson).get? "metadata" =
      some (.json (.dict (JsVal.propertiesToJson node.metadata))) :=
    get?_node (by simp [nodeFields])
  have metadata : ((Obj.json node.toJson).orEmpty "metadata").toMapping =
      .ok ((JsVal.propertiesToJson node.metadata).map
        fun entry => (PyVal.str entry.1, Obj.json entry.2)) := by
    rw [Obj.orEmpty, metadataField]
    cases JsVal.propertiesToJson node.metadata <;> rfl
  have ensured : (Obj.json node.toJson).ensureMapping = .ok (.json node.toJson) := by
    rw [SpecNode.toJson_eq]
    rfl
  simp only [normalizeNode, ensured, bind, Except.bind, nodeIdIs, requireNode_taken wellFormed,
    outputsRead, anchorRead, declared, taskKind, settled, inputsRead, retries, isMaxRetries,
    backoffField, isBackoff, retryOnField, isRetryOn, timeoutField, isTimeout, metadata]
  refine ⟨_, rfl, ?_⟩
  constructor
  · rfl
  · rfl
  · rw [List.map_map]
    rfl
  · exact fun taskInput => saveTask_taken settled rfl rfl rfl taskInput

/-- What is between a node that is compiled and one that Core has. -/
def TakenNode
    (str : PyVal → PyStr)
    (nodeMap : List NodeEntry)
    (entry : NodeEntry)
    (core : Node) : Prop :=
  ∃ node, CompiledNode nodeMap entry node ∧ Taken str node core

theorem TakenNode.nodeId
    {nodeMap : List NodeEntry}
    {entry : NodeEntry}
    {core : Node}
    (taken : TakenNode str nodeMap entry core) :
    core.nodeId = entry.compiled.nodeId := by
  obtain ⟨node, ⟨isNode, _⟩, taken⟩ := taken
  rw [taken.nodeId, isNode]

theorem TakenNode.outputs
    {nodeMap : List NodeEntry}
    {entry : NodeEntry}
    {core : Node}
    (taken : TakenNode str nodeMap entry core) :
    core.outputs.map DagOutput.name = entry.compiled.outputs.map DagOutput.name := by
  obtain ⟨node, ⟨isNode, _⟩, taken⟩ := taken
  rw [taken.outputs, isNode]

theorem normalizeNodes_taken
    {nodeMap entries : List NodeEntry}
    {nodes : List SpecNode}
    (compiled : List.Forall₂ (CompiledNode nodeMap) entries nodes)
    (wellFormed : ∀ entry ∈ entries, WellFormed entry.compiled)
    (settings : ∀ node ∈ nodes, SettingsAccepted str node) :
    ∃ cores,
      (nodes.map fun node => Obj.json node.toJson).mapM (normalizeNode str) = .ok cores ∧
        List.Forall₂ (TakenNode str nodeMap) entries cores := by
  induction compiled with
  | nil => exact ⟨[], rfl, .nil⟩
  | @cons entry node entries nodes here _ inductionHypothesis =>
      obtain ⟨formed, formedLater⟩ := List.forall_mem_cons.mp wellFormed
      obtain ⟨accepted, acceptedLater⟩ := List.forall_mem_cons.mp settings
      obtain ⟨cores, read, taken⟩ := inductionHypothesis formedLater acceptedLater
      have isNode := here.1
      have nodeFormed : WellFormed node := by
        rw [isNode]
        exact ⟨formed.nodeId, formed.outputs, formed.named, formed.distinct, formed.codeStr,
          formed.codeSer, formed.code⟩
      have nodeId : node.nodeId = entry.compiled.nodeId := by rw [isNode]
      obtain ⟨core, readHere, takenHere⟩ :=
        normalizeNode_taken nodeFormed (nodeId ▸ here.2) accepted
      refine ⟨core :: cores, ?_, .cons ⟨node, here, takenHere⟩ taken⟩
      rw [List.map_cons, List.mapM_cons, readHere, read]
      rfl

/-! ## Edges -/

theorem nodeIds_taken
    {nodeMap entries : List NodeEntry}
    {cores : List Node}
    (taken : List.Forall₂ (TakenNode str nodeMap) entries cores) :
    (cores.map fun core => core.nodeId) = entries.map fun entry => entry.compiled.nodeId := by
  induction taken with
  | nil => rfl
  | cons here _ inductionHypothesis =>
      rw [List.map_cons, List.map_cons, here.nodeId, inductionHypothesis]

theorem find_taken
    {nodeMap entries : List NodeEntry}
    {cores : List Node}
    (taken : List.Forall₂ (TakenNode str nodeMap) entries cores)
    {nodeId : PyStr}
    {entry : NodeEntry}
    (found : entries.find? (fun entry => entry.compiled.nodeId = nodeId) = some entry) :
    ∃ core,
      (cores.map Node.toDagNode).find? (fun node => node.nodeId = nodeId) =
        some core.toDagNode ∧ TakenNode str nodeMap entry core := by
  induction taken with
  | nil => cases found
  | @cons first core entries cores here _ inductionHypothesis =>
      have same := here.nodeId
      rw [List.find?_cons] at found
      rw [List.map_cons, List.find?_cons, same]
      split at found
      · cases found
        exact ⟨core, rfl, here⟩
      · exact inductionHypothesis found

/-- Core takes the edge of an input that is bound to an output. -/
theorem normalEdge_taken
    {nodeMap : List NodeEntry}
    {cores : List Node}
    (taken : List.Forall₂ (TakenNode str nodeMap) nodeMap cores)
    {edge : DagEdge}
    (target : edge.targetTaskId ∈ nodeMap.map fun entry => entry.compiled.nodeId)
    (known : Known nodeMap edge) :
    NormalEdge (cores.map Node.toDagNode) edge := by
  obtain ⟨input, output, entry, found, offered⟩ := known
  obtain ⟨core, foundCore, takenCore⟩ := find_taken taken found
  refine ⟨⟨?_, output, input⟩, core.toDagNode, foundCore, ?_⟩
  · rw [List.map_map]
    rw [← nodeIds_taken taken] at target
    exact target
  · exact takenCore.outputs ▸ offered

/-- A node has no edge that leads into it from the nodes that are left, unless none is left. -/
theorem peel_acyclic
    {edges : List (PyStr × PyStr)}
    (acyclic : Digraph.Acyclic fun source target => (source, target) ∈ edges)
    {rounds : ℕ}
    {nodeIds : List PyStr}
    (enough : nodeIds.length ≤ rounds) :
    Core.DagSpec.peel edges rounds nodeIds = [] := by
  induction rounds generalizing nodeIds with
  | zero => exact List.length_eq_zero_iff.mp (Nat.le_zero.mp enough)
  | succ rounds inductionHypothesis =>
      unfold Core.DagSpec.peel
      apply inductionHypothesis
      by_cases nothing : nodeIds = []
      · simp [nothing]
      · obtain ⟨first, member, root⟩ := acyclic.exists_first nothing
        refine Nat.le_of_lt_succ (lt_of_lt_of_le (List.length_filter_lt_length_iff_exists.mpr
          ⟨first, member, ?_⟩) enough)
        rw [Bool.not_eq_true, List.any_eq_false]
        intro edge inside
        rw [Bool.and_eq_true, decide_eq_true_eq, decide_eq_true_eq]
        rintro ⟨rfl, left⟩
        exact root edge.1 left inside

/-- The bindings of the canvas have no cycle. -/
def AcyclicBindings (workflow : JsVal) : Prop :=
  Digraph.Acyclic fun source target =>
    ∃ edge ∈ bindings (canvasNodes workflow), Core.DagSpec.endpoints edge = (source, target)

/-! ## The specification -/

theorem normalizeRun_taken
    (run : SpecRun)
    (timeout : ∃ seconds, optionalFloat (some (.json run.timeoutSeconds.toJson)) = .ok seconds) :
    ∃ core, normalizeRun str (.json run.toJson) = .ok core := by
  obtain ⟨seconds, isTimeout⟩ := timeout
  have timeoutField : (Obj.json run.toJson).get? "timeout_seconds" =
      some (.json run.timeoutSeconds.toJson) := by
    simp [SpecRun.toJson, Obj.get?]
  have tags : strItems str ((Obj.json run.toJson).get "tags") = .ok run.tags := by
    have field : (Obj.json run.toJson).get "tags" = texts run.tags := by
      simp [SpecRun.toJson, Obj.get, Obj.get?, texts]
    rw [field, strItems_again]
  have metadata : ((Obj.json run.toJson).orEmpty "metadata").toMapping =
      .ok ((JsVal.propertiesToJson run.metadata).map
        fun entry => (PyVal.str entry.1, Obj.json entry.2)) := by
    have field : (Obj.json run.toJson).get? "metadata" =
        some (.json (.dict (JsVal.propertiesToJson run.metadata))) := by
      simp [SpecRun.toJson, Obj.get?]
    rw [Obj.orEmpty, field]
    cases JsVal.propertiesToJson run.metadata <;> rfl
  have absent (key : PyStr) (apart : key = "inputs" ∨ key = "run_id" ∨
      key = "idempotency_key" ∨ key = "idempotency_fingerprint") :
      (Obj.json run.toJson).has key = false := by
    rcases apart with rfl | rfl | rfl | rfl <;> simp [SpecRun.toJson, Obj.has, Obj.get?]
  have inputs : runInputs (.json run.toJson) = .ok none := by
    rw [runInputs, absent _ (.inl rfl)]
    rfl
  have runId : runIdOf (.json run.toJson) = .ok none := by
    rw [runIdOf, absent _ (.inr (.inl rfl))]
    rfl
  have keys : refuseIdempotencyKeys (.json run.toJson) = .ok () := by
    rw [refuseIdempotencyKeys, absent _ (.inr (.inr (.inl rfl))),
      absent _ (.inr (.inr (.inr rfl)))]
    rfl
  have ensured : (Obj.json run.toJson).ensureMapping = .ok (.json run.toJson) := rfl
  simp only [normalizeRun, ensured, bind, Except.bind, timeoutField, isTimeout, tags, metadata,
    inputs, runId, keys]
  exact ⟨_, rfl⟩

theorem edgeOf_target
    {nodeId : PyStr}
    {input : CanvasInput}
    {edge : DagEdge}
    (isEdge : edgeOf nodeId input = some edge) :
    edge.targetTaskId = nodeId := by
  unfold edgeOf at isEdge
  split at isEdge
  · cases isEdge
  · cases isEdge
    rfl

/-- Every edge is that of an input of a node. -/
theorem CompiledSpec.binding
    {workflow : JsVal}
    {spec : Spec}
    {nodeMap : List NodeEntry}
    (compiled : CompiledSpec workflow spec nodeMap)
    {edge : DagEdge}
    (member : edge ∈ bindings (canvasNodes workflow)) :
    ∃ (entry : NodeEntry) (node : SpecNode), entry ∈ nodeMap ∧
      Compiled nodeMap entry.compiled.nodeId (canvasInputs (some entry.data)) node.inputs ∧
        edge ∈ (canvasInputs (some entry.data)).filterMap (edgeOf entry.compiled.nodeId) := by
  rw [compiled.canvas, bindings, List.mem_flatMap] at member
  obtain ⟨canvasNode, inCanvas, member⟩ := member
  obtain ⟨entry, inEntry, rfl⟩ := List.mem_map.mp inCanvas
  obtain ⟨node, _, _, made⟩ := exists_of_forall₂ compiled.nodes.flip inEntry
  exact ⟨entry, node, inEntry, made, member⟩

/-- Core reads the nodes and edges that were compiled. -/
theorem dagSpec_taken
    {workflow : JsVal}
    {spec : Spec}
    {nodeMap : List NodeEntry}
    (compiled : CompiledSpec workflow spec nodeMap)
    (acyclic : AcyclicBindings workflow)
    (settings : AllSettingsAccepted str spec) :
    ∃ core, dagSpecFromPayload str (.json spec.toJson) = .ok core ∧
      List.Forall₂ (TakenNode str nodeMap) nodeMap core.nodes ∧ core.edges = spec.edges := by
  obtain ⟨cores, nodesRead, taken⟩ :=
    normalizeNodes_taken compiled.nodes compiled.wellFormed settings.1
  obtain ⟨run, runRead⟩ := normalizeRun_taken spec.run settings.2
  have nodeIds := nodeIds_taken taken
  have nodes : nodesOf (.json spec.toJson) =
      .ok (spec.nodes.map fun node => Obj.json node.toJson) := by
    have field : (Obj.json spec.toJson).get? "nodes" =
        some (.json (.list (spec.nodes.map SpecNode.toJson))) := by
      simp [Spec.toJson, Obj.get?]
    rw [nodesOf, field]
    cases isNodes : spec.nodes with
    | nil =>
        have related := compiled.nodes
        rw [isNodes] at related
        exact absurd (List.forall₂_nil_right_iff.mp related) compiled.given
    | cons first rest =>
        rw [List.map_cons, List.map_cons]
        dsimp only
        rw [List.map_cons, List.map_map]
        rfl
  have edges : edgesOf (.json spec.toJson) = .ok (spec.edges.map edgeToJson) := by
    have field : (Obj.json spec.toJson).get "edges" = .list (spec.edges.map edgeToJson) := by
      simp [Spec.toJson, Obj.get, Obj.get?]
    rw [edgesOf, field, orElse_list]
  have edgesRead : (spec.edges.map edgeToJson).mapM
      (Core.DagSpec.normalizeEdge str (cores.map Node.toDagNode)) = .ok spec.edges := by
    refine mapM_of_back fun edge member => normalizeEdge_again ?_
    rw [compiled.edges] at member
    obtain ⟨entry, node, inEntry, inputs, member⟩ := compiled.binding member
    refine normalEdge_taken taken ?_ (inputs.known edge member)
    obtain ⟨input, _, isEdge⟩ := List.mem_filterMap.mp member
    rw [edgeOf_target isEdge]
    exact List.mem_map_of_mem inEntry
  have distinct : requireDistinct (cores.map fun core => core.nodeId) = .ok () := by
    rw [requireDistinct, nodeIds, if_pos compiled.distinct]
  have graph : validateGraph (cores.map fun core => core.nodeId) spec.edges = .ok () := by
    have noCycle : Digraph.Acyclic fun source target =>
        (source, target) ∈ spec.edges.map Core.DagSpec.endpoints := by
      refine acyclic.mono fun inside => ?_
      rw [compiled.edges] at inside
      exact List.mem_map.mp inside
    rw [validateGraph, Core.DagSpec.isAcyclic, peel_acyclic noCycle le_rfl]
    rfl
  have runField : (Obj.json spec.toJson).orEmpty "run" = .json spec.run.toJson := by
    simp [Spec.toJson, Obj.orEmpty, Obj.get?, SpecRun.toJson, Obj.truthy, PyVal.truthy]
  have contract : normalizeInputContract ((Obj.json spec.toJson).get "input_contract") =
      .ok none := by
    have field : (Obj.json spec.toJson).get "input_contract" = .null := by
      simp [Spec.toJson, Obj.get, Obj.get?]
    rw [field]
    rfl
  have metadata : ((Obj.json spec.toJson).orEmpty "metadata").toMapping =
      .ok ((JsVal.propertiesToJson spec.metadata).map
        fun entry => (PyVal.str entry.1, Obj.json entry.2)) := by
    have field : (Obj.json spec.toJson).get? "metadata" =
        some (.json (.dict (JsVal.propertiesToJson spec.metadata))) := by
      simp [Spec.toJson, Obj.get?]
    rw [Obj.orEmpty, field]
    cases JsVal.propertiesToJson spec.metadata <;> rfl
  have workflowId : optionalWorkflowId ((Obj.json spec.toJson).get "workflow_id") = .ok none := by
    have field : (Obj.json spec.toJson).get "workflow_id" = .null := by
      simp [Spec.toJson, Obj.get, Obj.get?]
    rw [field]
    rfl
  have tags : strItems str ((Obj.json spec.toJson).get "tags") = .ok spec.run.tags := by
    have field : (Obj.json spec.toJson).get "tags" = texts spec.run.tags := by
      simp [Spec.toJson, Obj.get, Obj.get?, texts]
    rw [field, strItems_again]
  have ensured : (Obj.json spec.toJson).ensureMapping = .ok (.json spec.toJson) := rfl
  simp only [dagSpecFromPayload, ensured, bind, Except.bind, nodes, edges, nodesRead, distinct,
    edgesRead, graph, runField, contract, metadata, workflowId, tags]
  rw [runRead]
  exact ⟨_, rfl, taken, rfl⟩

end Taking

end Maze.Playground
