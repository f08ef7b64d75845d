import Maze.Core.StoredSpec
import Maze.Library.Calls

namespace Maze.Core.StoredSpec

open Maze.Core.TaskSemantics (normalizeTaskSemantics)
open Maze.Library.Calls (mapM_of_back)
open Maze.Python

/-!
# A stored specification means what was submitted

What is normalized is read back: every normalized part of a specification is among the
spellings that the part can have, and it is the one that normalizing returns unchanged.
-/

/-! ## Fields -/

theorem get?_object
    (fields : List (PyStr × Obj))
    (key : PyStr) :
    (Obj.object fields).get? key = fields.lookup key := by
  change (fields.map fun field => (PyVal.str field.1, field.2)).lookup (.str key) = _
  induction fields with
  | nil => rfl
  | cons first rest inductionHypothesis =>
      obtain ⟨name, value⟩ := first
      rw [List.map_cons]
      simp only [Library.Dict.lookup_cons, PyVal.str.injEq, inductionHypothesis]

/-- What an object has under a key that is always there. -/
theorem get?_field
    {fields : List (PyStr × Obj)}
    {key : PyStr}
    {field : Obj}
    (found : fields.lookup key = some field)
    (first second : List (PyStr × Obj)) :
    (Obj.object (fields ++ first ++ second)).get? key = some field := by
  rw [get?_object, List.append_assoc, List.lookup_append, found]
  rfl

/-- What an object has under the keys of its two optional entries, and under no other. -/
theorem get?_optional
    {First Second : Type}
    {fields : List (PyStr × Obj)}
    {key firstKey secondKey : PyStr}
    (absent : fields.lookup key = none)
    (apart : firstKey ≠ secondKey)
    (first : Option First)
    (second : Option Second)
    (ofFirst : First → Obj)
    (ofSecond : Second → Obj) :
    (Obj.object (fields ++ (first.toList.map fun value => (firstKey, ofFirst value)) ++
      second.toList.map fun value => (secondKey, ofSecond value))).get? key =
      if key = firstKey then first.map ofFirst
      else if key = secondKey then second.map ofSecond
      else none := by
  rw [get?_object, List.append_assoc, List.lookup_append, absent, Option.none_or]
  cases first with
  | none =>
      cases second with
      | none => simp
      | some value =>
          by_cases isFirst : key = firstKey
          · subst isFirst
            simp [Library.Dict.lookup_cons, apart]
          · simp [Library.Dict.lookup_cons, isFirst]
  | some value =>
      cases second with
      | none => simp [Library.Dict.lookup_cons]
      | some other => simp [Library.Dict.lookup_cons]

section Texts

variable {str : PyVal → PyStr}

/-- What is not falsy is rendered as a text that is not empty. -/
theorem text_orElse
    (rendered : ∀ value, (str value).isEmpty = false)
    (value : PyVal)
    {default : PyVal}
    (some : (default.text str).isEmpty = false) :
    ((value.orElse default).text str).isEmpty = false := by
  unfold PyVal.orElse
  split
  · next truthy =>
    cases value with
    | str text =>
        rw [PyVal.truthy, Bool.not_eq_true'] at truthy
        exact truthy
    | null | bool | int | float | list | dict => exact rendered _
  · exact some

theorem orElse_of_text
    {text : PyStr}
    (given : text.isEmpty = false)
    (default : PyVal) :
    (PyVal.str text).orElse default = .str text := by
  rw [PyVal.orElse, PyVal.truthy, given]
  rfl

/-- An empty text stays empty. -/
theorem orElse_empty (text : PyStr) :
    (PyVal.str text).orElse (.str "") = .str text := by
  cases empty : text.isEmpty with
  | false => exact orElse_of_text empty _
  | true =>
      obtain ⟨chars⟩ := text
      obtain rfl : chars = [] := List.isEmpty_iff.mp empty
      rfl

theorem orElse_dict (entries : PyDict) :
    (PyVal.dict entries).orElse (.dict []) = .dict entries := by
  cases entries <;> rfl

theorem orElse_list (items : List PyVal) :
    (PyVal.list items).orElse (.list []) = .list items := by
  cases items <;> rfl

theorem map_text (items : List PyStr) :
    (items.map PyVal.str).map (PyVal.text str) = items := by
  rw [List.map_map]
  exact List.map_id items

end Texts

/-! ## Inputs and outputs -/

section Parts

variable (str : PyVal → PyStr)

/-- An input as it is after normalizing. -/
structure NormalInput
    (name : PyStr)
    (input : DagInput) : Prop where
  key : input.key = name
  dataType : input.dataType.isEmpty = false
  fromRun : input.inputSchema = .fromRun → input.hasValue = false ∧
    ∃ count, DagSpec.validateRunInputRefs input.value = .ok count ∧ count ≠ 0
  fromTask : input.inputSchema = .fromTask → ∃ text, input.value = .str text

variable {str}

theorem normalInput_of_binding
    (rendered : ∀ value, (str value).isEmpty = false)
    {name : PyStr}
    {entries : PyDict}
    {input : DagInput}
    (returned : DagSpec.normalizeBinding str name entries = .ok input) :
    NormalInput name input := by
  have dataType := text_orElse rendered (entries.get "data_type")
    (show ((PyVal.str "any").text str).isEmpty = false from rfl)
  unfold DagSpec.normalizeBinding at returned
  dsimp only at returned
  split at returned
  · obtain ⟨count, counted, returned⟩ := bind_eq_ok.mp returned
    split at returned
    · cases returned
    · next some =>
      cases returned
      exact ⟨rfl, dataType, fun _ => ⟨rfl, count, counted, some⟩, nofun⟩
  · split at returned
    · cases returned
      exact ⟨rfl, dataType, nofun, fun _ => ⟨_, rfl⟩⟩
    · split at returned
      · cases returned
        exact ⟨rfl, dataType, nofun, nofun⟩
      · split at returned
        · cases returned
          exact ⟨rfl, dataType, nofun, fun _ => ⟨_, rfl⟩⟩
        · cases returned
          exact ⟨rfl, dataType, nofun, nofun⟩

theorem normalInput_of_returned
    (rendered : ∀ value, (str value).isEmpty = false)
    {name : PyStr}
    {value : PyVal}
    {input : DagInput}
    (returned : DagSpec.normalizeInput str name value = .ok input) :
    NormalInput name input := by
  have literal : ∀ {value : PyVal}, NormalInput name ⟨name, .fromUser, value, "any", true⟩ :=
    ⟨rfl, rfl, nofun, nofun⟩
  unfold DagSpec.normalizeInput at returned
  split at returned
  · split at returned
    · exact normalInput_of_binding rendered returned
    · cases returned
      exact literal
  · cases returned
    exact literal

/-- A normalized input spells out how it is bound, and is read back. -/
theorem normalizeInput_again
    {name : PyStr}
    {input : DagInput}
    (normal : NormalInput name input) :
    DagSpec.normalizeInput str name (inputValue input) = .ok input := by
  obtain ⟨key, inputSchema, value, dataType, hasValue⟩ := input
  obtain ⟨rfl, typed, fromRun, fromTask⟩ := normal
  have dataTypeIs : ((PyVal.str dataType).orElse (.str "any")).text str = dataType := by
    rw [orElse_of_text typed]
    rfl
  cases inputSchema with
  | fromRun =>
      obtain ⟨rfl, count, counted, some⟩ := fromRun rfl
      dsimp only at counted
      simp [inputValue, inputSchemaText, DagSpec.normalizeInput, DagSpec.isBinding,
        DagSpec.hasKey, DagSpec.normalizeBinding, PyDict.get, counted, some, dataTypeIs, bind,
        Except.bind, pure, Except.pure]
  | fromTask =>
      obtain ⟨text, rfl⟩ := fromTask rfl
      have valueIs : ((PyVal.str text).orElse (PyVal.null.orElse (.str ""))).text str = text :=
        congrArg (PyVal.text str) (orElse_empty text)
      simp [inputValue, inputSchemaText, DagSpec.normalizeInput, DagSpec.isBinding,
        DagSpec.hasKey, DagSpec.normalizeBinding, PyDict.get, dataTypeIs, valueIs, PyVal.truthy,
        pure, Except.pure]
  | fromUser =>
      simp [inputValue, inputSchemaText, DagSpec.normalizeInput, DagSpec.isBinding,
        DagSpec.hasKey, DagSpec.normalizeBinding, PyDict.get, dataTypeIs, PyVal.truthy,
        pure, Except.pure]

theorem normalInputs_of_returned
    (rendered : ∀ value, (str value).isEmpty = false)
    {value : PyVal}
    {inputs : List (PyStr × DagInput)}
    (returned : DagSpec.normalizeInputs str value = .ok inputs) :
    ∀ input ∈ inputs, NormalInput input.1 input.2 := by
  intro input member
  cases value with
  | dict entries =>
      obtain ⟨entry, _, made⟩ := mem_of_mapM returned member
      obtain ⟨normalized, read, same⟩ := bind_eq_ok.mp made
      cases same
      exact normalInput_of_returned rendered read
  | null | bool | int | float | str | list => cases returned

theorem normalizeInputs_again
    {inputs : List (PyStr × DagInput)}
    (normal : ∀ input ∈ inputs, NormalInput input.1 input.2) :
    DagSpec.normalizeInputs str
      (.dict (inputs.map fun input => (input.1, inputValue input.2))) = .ok inputs := by
  refine mapM_of_back fun input member => ?_
  rw [normalizeInput_again (normal input member)]
  rfl

/-- An output as it is after normalizing. -/
structure NormalOutput (output : DagOutput) : Prop where
  name : output.name.isEmpty = false
  dataType : output.dataType.isEmpty = false

/-- Outputs as they are after normalizing. -/
structure NormalOutputs (outputs : List DagOutput) : Prop where
  some : outputs ≠ []
  distinct : (outputs.map DagOutput.name).Nodup
  each : ∀ output ∈ outputs, NormalOutput output

theorem normalOutputs_of_returned
    (rendered : ∀ value, (str value).isEmpty = false)
    {value : PyVal}
    {outputs : List DagOutput}
    (returned : DagSpec.normalizeOutputs str value = .ok outputs) :
    NormalOutputs outputs := by
  unfold DagSpec.normalizeOutputs at returned
  split at returned
  · next items =>
    obtain ⟨results, read, returned⟩ := bind_eq_ok.mp returned
    split at returned
    · cases returned
    · next accepted =>
      cases returned
      simp only [Bool.not_eq_true, Bool.or_eq_false_iff, List.any_eq_false,
        Bool.not_eq_false', decide_eq_true_eq] at accepted
      obtain ⟨⟨some, named⟩, distinct⟩ := accepted
      refine ⟨by simpa using some, distinct, fun output member => ⟨named output member, ?_⟩⟩
      obtain ⟨item, _, made⟩ := mem_of_mapM read member
      unfold DagSpec.normalizeOutput at made
      split at made
      · cases made
        rfl
      · cases made
        exact text_orElse rendered _ rfl
      · cases made
  · cases returned

theorem normalizeOutputs_again
    {outputs : List DagOutput}
    (normal : NormalOutputs outputs) :
    DagSpec.normalizeOutputs str (.list (outputs.map outputValue)) = .ok outputs := by
  have read : (outputs.map outputValue).mapM (DagSpec.normalizeOutput str) = .ok outputs := by
    refine mapM_of_back fun output member => ?_
    obtain ⟨name, dataType⟩ := output
    obtain ⟨named, typed⟩ := normal.each _ member
    simp [outputValue, DagSpec.normalizeOutput, PyDict.get, orElse_of_text named,
      orElse_of_text typed, PyVal.text]
  have named : outputs.any (fun output => output.name.isEmpty) = false :=
    List.any_eq_false.mpr fun output member => by simp [(normal.each output member).name]
  have some : outputs.isEmpty = false := by simpa using normal.some
  rw [DagSpec.normalizeOutputs, read]
  simp [bind, Except.bind, named, some, normal.distinct, pure, Except.pure]

/-! ## Nodes -/

theorem strip_of_isNodeId
    {text : PyStr}
    (valid : DagSpec.isNodeId text = true) :
    EventLog.strip text.chars = text.chars := by
  have solid : ∀ char ∈ text.chars, EventLog.isWhitespace char = false := by
    have each : ∀ char, DagSpec.continuesNodeId char = true →
        EventLog.isWhitespace char = false := by
      intro char inside
      simp only [DagSpec.continuesNodeId, DagSpec.startsNodeId, Bool.or_eq_true, Bool.and_eq_true,
        decide_eq_true_eq] at inside
      simp only [EventLog.isWhitespace, Bool.or_eq_false_iff, Bool.and_eq_false_iff,
        decide_eq_false_iff_not]
      omega
    obtain ⟨chars⟩ := text
    cases chars with
    | nil => exact fun char member => absurd member List.not_mem_nil
    | cons first rest =>
        simp only [DagSpec.isNodeId, Bool.and_eq_true, List.all_eq_true] at valid
        refine List.forall_mem_cons.mpr ⟨each first ?_, fun char member =>
          each char (valid.1.2 char member)⟩
        rw [DagSpec.continuesNodeId, valid.1.1]
        rfl
  have front : text.chars.dropWhile EventLog.isWhitespace = text.chars := by
    refine List.dropWhile_eq_self_iff.mpr fun some => ?_
    rw [solid _ (List.getElem_mem some)]
    exact Bool.noConfusion
  rw [EventLog.strip, front]
  refine List.rdropWhile_eq_self_iff.mpr fun some => ?_
  rw [solid _ (List.getLast_mem some)]
  exact Bool.noConfusion

theorem isEmpty_of_isNodeId
    {text : PyStr}
    (valid : DagSpec.isNodeId text = true) :
    text.isEmpty = false := by
  obtain ⟨chars⟩ := text
  cases chars with
  | nil => cases valid
  | cons first rest => rfl

variable (str) in
/-- A node as it is after normalizing. -/
structure NormalNode (node : Node) : Prop where
  nodeId : DagSpec.isNodeId node.nodeId = true
  taskName : node.taskName.isEmpty = false
  code : (node.codeStr.truthy || node.codeSer.truthy) = true
  inputs : ∀ input ∈ node.inputs, NormalInput input.1 input.2
  outputs : NormalOutputs node.outputs
  semantics : normalizeTaskSemantics str (.str node.taskKind.text) node.resources
    (Obj.named node.modelAnchor) = .ok (node.taskKind, node.resources)
  maxRetries : ∀ number, node.maxRetries = some number → 0 ≤ number
  retryBackoffSeconds : atLeastZero node.retryBackoffSeconds = node.retryBackoffSeconds

/-- What the semantics settle on is settled on again. -/
theorem semantics_again
    {taskKind : PyVal}
    {declared anchor form : PyDict}
    {kind : TaskKind}
    (returned : normalizeTaskSemantics str taskKind declared anchor = .ok (kind, form)) :
    normalizeTaskSemantics str (.str kind.text) form anchor = .ok (kind, form) := by
  obtain ⟨final, applied, returned⟩ := bind_eq_ok.mp returned
  obtain ⟨settled, _, returned⟩ := bind_eq_ok.mp returned
  obtain ⟨_, validated, same⟩ := bind_eq_ok.mp returned
  cases same
  have read := applied
  unfold Resources.applyModelAnchorEstimate at read
  obtain ⟨normal, normalized, read⟩ := bind_eq_ok.mp read
  obtain ⟨estimate, estimated, _⟩ := bind_eq_ok.mp read
  obtain ⟨other, appliedOther, _, again⟩ :=
    TaskSemantics.applyModelAnchorEstimate_of_normal normalized estimated
  obtain rfl := Except.ok.inj (applied.symm.trans appliedOther)
  unfold normalizeTaskSemantics
  exact bind_eq_ok.mpr ⟨_, again, bind_eq_ok.mpr
    ⟨kind, TaskSemantics.normalizeTaskKind_text str kind form anchor,
      bind_eq_ok.mpr ⟨(), validated, rfl⟩⟩⟩

theorem atLeastZero_again (number : Double) :
    atLeastZero (atLeastZero number) = atLeastZero number := by
  cases number with
  | nan => simp [atLeastZero]
  | infinity negative => cases negative <;> simp [atLeastZero]
  | finite value => simp [atLeastZero]

theorem optionalInt_nonneg
    {value : PyVal}
    {number : ℤ}
    (returned : optionalInt value = .ok (some number)) :
    0 ≤ number := by
  cases value with
  | null => cases returned
  | bool | int | float | str | list | dict =>
      obtain ⟨read, _, same⟩ := bind_eq_ok.mp returned
      cases same
      exact le_max_left _ _

theorem normalNode_of_returned
    (rendered : ∀ value, (str value).isEmpty = false)
    {raw : Obj}
    {node : Node}
    (returned : normalizeNode str raw = .ok node) :
    NormalNode str node := by
  unfold normalizeNode at returned
  obtain ⟨fields, _, returned⟩ := bind_eq_ok.mp returned
  obtain ⟨_, required, returned⟩ := bind_eq_ok.mp returned
  obtain ⟨outputs, outputsRead, returned⟩ := bind_eq_ok.mp returned
  obtain ⟨anchor, _, returned⟩ := bind_eq_ok.mp returned
  obtain ⟨declared, _, returned⟩ := bind_eq_ok.mp returned
  obtain ⟨semantics, settled, returned⟩ := bind_eq_ok.mp returned
  obtain ⟨inputs, inputsRead, returned⟩ := bind_eq_ok.mp returned
  obtain ⟨maxRetries, retries, returned⟩ := bind_eq_ok.mp returned
  obtain ⟨backoff, _, returned⟩ := bind_eq_ok.mp returned
  obtain ⟨retryOn, _, returned⟩ := bind_eq_ok.mp returned
  obtain ⟨timeout, _, returned⟩ := bind_eq_ok.mp returned
  obtain ⟨metadata, _, returned⟩ := bind_eq_ok.mp returned
  cases returned
  unfold requireNode at required
  split at required
  · cases required
  · next accepted =>
    simp only [Bool.not_eq_true, Bool.or_eq_false_iff, Bool.not_eq_false', Bool.and_eq_false_iff]
      at accepted
    obtain ⟨⟨valid, _⟩, code⟩ := accepted
    exact
      { nodeId := valid
        taskName := text_orElse rendered _ (text_orElse rendered _ (isEmpty_of_isNodeId valid))
        code := Bool.or_eq_true_iff.mpr code
        inputs := normalInputs_of_returned rendered inputsRead
        outputs := normalOutputs_of_returned rendered outputsRead
        semantics := semantics_again settled
        maxRetries := fun number (given : maxRetries = some number) => by
          rw [given] at retries
          exact optionalInt_nonneg retries
        retryBackoffSeconds := atLeastZero_again backoff }

theorem toMapping_dict (mapping : Mapping) :
    (if (Obj.dict mapping).truthy then Obj.dict mapping else .dict []).toMapping =
      .ok mapping := by
  cases mapping <;> rfl

theorem toMapping_orNone (mapping : Mapping) :
    (if (orNone mapping).truthy then orNone mapping else .dict []).toMapping = .ok mapping := by
  cases mapping <;> rfl

theorem optionalFloat_again (number : Option Double) :
    optionalFloat (some (optionalNumber number)) = .ok number := by
  cases number <;> rfl

theorem optionalStrList_again (items : Option (List PyStr)) :
    optionalStrList str (items.elim .null texts) = .ok items := by
  cases items with
  | none => rfl
  | some items =>
      rw [Option.elim_some, texts, optionalStrList, map_text]

theorem optionalInt_again
    {number : Option ℤ}
    (nonneg : ∀ value, number = some value → 0 ≤ value) :
    optionalInt (number.elim .null .int) = .ok number := by
  cases number with
  | none => rfl
  | some value =>
      have same : max 0 value = value := max_eq_right (nonneg value rfl)
      change Except.ok (some (max 0 value)) = _
      rw [same]

theorem requireNode_again
    {node : Node}
    (normal : NormalNode str node) :
    requireNode str node.toObj node.nodeId = .ok () := by
  have kind : node.toObj.get "type" = .str "code" := by
    simp [Obj.get, Node.toObj, get?_object, Library.Dict.lookup_cons]
  have codeStr : codeStrOf node.toObj = node.codeStr := by
    simp [codeStrOf, Obj.has, Obj.get, Node.toObj, get?_object, Library.Dict.lookup_cons]
  have codeSer : node.toObj.get "code_ser" = node.codeSer := by
    simp [Obj.get, Node.toObj, get?_object, Library.Dict.lookup_cons]
  have code := normal.code
  have type : ((PyVal.str "code").orElse (.str "code")).text str = PyStr.ofString "code" := rfl
  rw [requireNode, kind, codeStr, codeSer, normal.nodeId, type, if_neg]
  simp only [Bool.not_eq_true, Bool.or_eq_false_iff]
  refine ⟨⟨rfl, by simp⟩, ?_⟩
  rw [← Bool.not_or, code]
  rfl

/-- A normalized node is a node, and it is normalized already. -/
theorem normalizeNode_again
    {node : Node}
    (normal : NormalNode str node) :
    normalizeNode str node.toObj = .ok node := by
  have field {key : PyStr} {v : PyVal}
      (found : node.toObj.get? key = some (.json v)) : node.toObj.get key = v := by
    rw [Obj.get, found]
  have nodeId : node.toObj.get "id" = .str node.nodeId :=
    field (by simp [Node.toObj, get?_object, Library.Dict.lookup_cons])
  have nodeIdIs : (⟨EventLog.strip (((node.toObj.get "id").orElse (.str "")).text str).chars⟩ :
      PyStr) = node.nodeId := by
    rw [nodeId, orElse_empty, PyVal.text, strip_of_isNodeId normal.nodeId]
  have taskName : ((node.toObj.get "task_name").orElse
      ((node.toObj.get "name").orElse (.str node.nodeId))).text str = node.taskName := by
    rw [field (v := .str node.taskName)
        (by simp [Node.toObj, get?_object, Library.Dict.lookup_cons]),
      orElse_of_text normal.taskName]
    rfl
  have inputs : DagSpec.normalizeInputs str ((node.toObj.get "inputs").orElse (.dict [])) =
      .ok node.inputs := by
    rw [field (v := .dict _) (by simp [Node.toObj, get?_object, Library.Dict.lookup_cons]; rfl),
      orElse_dict, normalizeInputs_again normal.inputs]
  have outputs : DagSpec.normalizeOutputs str (node.toObj.get "outputs") = .ok node.outputs := by
    rw [field (v := .list _) (by simp [Node.toObj, get?_object, Library.Dict.lookup_cons]; rfl),
      normalizeOutputs_again normal.outputs]
  have taskKind : node.toObj.get "task_kind" = .str node.taskKind.text :=
    field (by simp [Node.toObj, get?_object, Library.Dict.lookup_cons])
  have declared : ResourceHistory.dictOf ((node.toObj.get "resources").orElse (.dict [])) =
      .ok node.resources := by
    rw [field (v := .dict _) (by simp [Node.toObj, get?_object, Library.Dict.lookup_cons]; rfl),
      orElse_dict]
    rfl
  have codeStr : codeStrOf node.toObj = node.codeStr := by
    simp [codeStrOf, Obj.has, Obj.get, Node.toObj, get?_object, Library.Dict.lookup_cons]
  have codeSer : node.toObj.get "code_ser" = node.codeSer :=
    field (by simp [Node.toObj, get?_object, Library.Dict.lookup_cons])
  have fileContext : node.toObj.get "file_context" = node.fileContext :=
    field (by simp [Node.toObj, get?_object, Library.Dict.lookup_cons])
  have anchor : (node.toObj.orEmpty "model_anchor").toMapping = .ok node.modelAnchor := by
    rw [Obj.orEmpty, Node.toObj, get?_object]
    simp only [Library.Dict.lookup_cons]
    simpa using toMapping_orNone node.modelAnchor
  have maxRetries : optionalInt (node.toObj.get "max_retries") = .ok node.maxRetries := by
    rw [field (v := _) (by simp [Node.toObj, get?_object, Library.Dict.lookup_cons]; rfl),
      optionalInt_again normal.maxRetries]
  have backoff : floatOrZero (node.toObj.get? "retry_backoff_seconds") =
      .ok node.retryBackoffSeconds := by
    simp [Node.toObj, get?_object, Library.Dict.lookup_cons, floatOrZero]
  have retryOn : optionalStrList str (node.toObj.get "retry_on") = .ok node.retryOn := by
    rw [field (v := _) (by simp [Node.toObj, get?_object, Library.Dict.lookup_cons]; rfl),
      optionalStrList_again]
  have timeout : optionalFloat (node.toObj.get? "timeout_seconds") = .ok node.timeoutSeconds := by
    simpa [Node.toObj, get?_object, Library.Dict.lookup_cons]
      using optionalFloat_again node.timeoutSeconds
  have metadata : (node.toObj.orEmpty "metadata").toMapping = .ok node.metadata := by
    rw [Obj.orEmpty, Node.toObj, get?_object]
    simp only [Library.Dict.lookup_cons]
    simpa using toMapping_dict node.metadata
  have ensured : node.toObj.ensureMapping = .ok node.toObj := rfl
  simp only [normalizeNode, ensured, bind, Except.bind, nodeIdIs, requireNode_again normal,
    outputs, anchor, declared, taskKind, normal.semantics, inputs, maxRetries, backoff, retryOn,
    timeout, metadata, taskName, codeStr, codeSer, fileContext, normal.retryBackoffSeconds]

/-! ## Edges -/

/-- An edge as it is after normalizing. -/
structure NormalEdge
    (nodes : List DagNode)
    (edge : DagEdge) : Prop where
  ends : edge.targetTaskId ∈ nodes.map DagNode.nodeId ∧ edge.sourceOutput.isEmpty = false ∧
    edge.targetInput.isEmpty = false
  source : ∃ source, nodes.find? (fun node => node.nodeId = edge.sourceTaskId) = some source ∧
    edge.sourceOutput ∈ source.outputs.map DagOutput.name

theorem normalEdge_of_returned
    {nodes : List DagNode}
    {value : PyVal}
    {edge : DagEdge}
    (returned : DagSpec.normalizeEdge str nodes value = .ok edge) :
    NormalEdge nodes edge := by
  unfold DagSpec.normalizeEdge at returned
  split at returned
  · obtain ⟨ends, _, returned⟩ := bind_eq_ok.mp returned
    split at returned
    · cases returned
    · next source found =>
      split at returned
      · cases returned
      · next accepted =>
        cases returned
        simp only [Bool.or_eq_true, decide_eq_true_eq, not_or, not_not, Bool.not_eq_true]
          at accepted
        obtain ⟨⟨⟨target, output⟩, input⟩, known⟩ := accepted
        exact ⟨⟨target, output, input⟩, source, found, known⟩
  · cases returned

theorem normalizeEdge_again
    {nodes : List DagNode}
    {edge : DagEdge}
    (normal : NormalEdge nodes edge) :
    DagSpec.normalizeEdge str nodes (edgeValue edge) = .ok edge := by
  obtain ⟨sourceTaskId, sourceOutput, targetTaskId, targetInput⟩ := edge
  obtain ⟨⟨target, output, input⟩, source, found, known⟩ := normal
  have text (text : PyStr) (default : PyVal) (given : text.isEmpty = false) :
      ((PyVal.str text).orElse default).text str = text := by
    rw [orElse_of_text given]
    rfl
  have source_ (text : PyStr) :
      ((PyVal.null.orElse ((PyVal.str text).orElse (.str ""))).text str) = text :=
    congrArg (PyVal.text str) (orElse_empty text)
  have ends : DagSpec.edgeEnds str
      [("source_task_id", .str sourceTaskId), ("source_output", .str sourceOutput),
        ("target_task_id", .str targetTaskId), ("target_input", .str targetInput)] =
      .ok ⟨sourceTaskId, sourceOutput, targetTaskId, targetInput⟩ := by
    simp [DagSpec.edgeEnds, DagSpec.hasKey, PyDict.get, source_, text _ _ output, text _ _ input,
      pure, Except.pure]
  dsimp only at target output input found known
  simp [edgeValue, DagSpec.normalizeEdge, ends, bind, Except.bind, found, target, output, input,
    known, pure, Except.pure]

/-! ## The run section -/

theorem strItems_again (items : List PyStr) : strItems str (texts items) = .ok items := by
  rw [strItems, texts, orElse_list]
  dsimp only
  rw [map_text]

/-- A run section as it is after normalizing. -/
structure NormalRun (run : Run) : Prop where
  inputs : ∀ inputs, run.inputs = some inputs → inputs = .null ∨ ∃ entries, inputs = .dict entries
  runId : ∀ runId, run.runId = some runId → isCanonicalUuid runId = true

theorem normalRun_of_returned
    {raw : Obj}
    {run : Run}
    (returned : normalizeRun str raw = .ok run) :
    NormalRun run := by
  unfold normalizeRun at returned
  obtain ⟨fields, _, returned⟩ := bind_eq_ok.mp returned
  obtain ⟨timeout, _, returned⟩ := bind_eq_ok.mp returned
  obtain ⟨tags, _, returned⟩ := bind_eq_ok.mp returned
  obtain ⟨metadata, _, returned⟩ := bind_eq_ok.mp returned
  obtain ⟨inputs, inputsRead, returned⟩ := bind_eq_ok.mp returned
  obtain ⟨runId, runIdRead, returned⟩ := bind_eq_ok.mp returned
  obtain ⟨_, _, returned⟩ := bind_eq_ok.mp returned
  cases returned
  constructor
  · rintro value rfl
    unfold runInputs at inputsRead
    split at inputsRead
    · split at inputsRead
      · cases inputsRead
        exact .inl rfl
      · cases inputsRead
        exact .inr ⟨_, rfl⟩
      · cases inputsRead
    · cases inputsRead
  · rintro value rfl
    unfold runIdOf at runIdRead
    split at runIdRead
    · split at runIdRead
      · split at runIdRead
        · next canonical =>
          cases runIdRead
          exact canonical
        · cases runIdRead
      · cases runIdRead
    · cases runIdRead

theorem normal_storedRunConfig
    (run : Run) :
    NormalRun (storedRunConfig run) :=
  ⟨nofun, nofun⟩

/-- A workspace that is falsy becomes `None` when the run section is read again. -/
def withWorkspace (run : Run) : Run :=
  { run with workspaceDir := run.workspaceDir.orElse .null }

/-- The entries of a normalized run section that are always there. -/
def runFields (run : Run) : List (PyStr × Obj) :=
  [("workspace_dir", .json run.workspaceDir), ("artifact_mode", .json (.bool run.artifactMode)),
    ("file_context", .json run.fileContext),
    ("timeout_seconds", optionalNumber run.timeoutSeconds),
    ("tags", .json (texts run.tags)), ("metadata", .dict run.metadata)]

theorem runField
    (run : Run)
    {key : PyStr}
    {field : Obj}
    (found : (runFields run).lookup key = some field) :
    run.toObj.get? key = some field :=
  get?_field found _ _

theorem runOption
    (run : Run)
    {key : PyStr}
    (absent : (runFields run).lookup key = none) :
    run.toObj.get? key =
      if key = "inputs" then run.inputs.map .json
      else if key = "run_id" then run.runId.map fun runId => .json (.str runId)
      else none :=
  get?_optional absent (by decide) _ _ _ _

theorem normalizeRun_again
    {run : Run}
    (normal : NormalRun run) :
    normalizeRun str run.toObj = .ok (withWorkspace run) := by
  have field {key : PyStr} {v : PyVal}
      (found : run.toObj.get? key = some (.json v)) : run.toObj.get key = v := by
    rw [Obj.get, found]
  have workspaceDir : (run.toObj.get "workspace_dir").orElse (run.toObj.get "workspace") =
      run.workspaceDir.orElse .null := by
    rw [field (runField run (by simp [runFields, Library.Dict.lookup_cons]; rfl)), Obj.get,
      runOption run (by simp [runFields, Library.Dict.lookup_cons])]
    simp
  have artifactMode : (if run.toObj.has "artifact_mode"
      then (run.toObj.get "artifact_mode").truthy else true) = run.artifactMode := by
    have found : run.toObj.get? "artifact_mode" = some (.json (.bool run.artifactMode)) :=
      runField run (by simp [runFields, Library.Dict.lookup_cons])
    rw [Obj.has, found, field found]
    rfl
  have fileContext : run.toObj.get "file_context" = run.fileContext :=
    field (runField run (by simp [runFields, Library.Dict.lookup_cons]))
  have timeout : optionalFloat (run.toObj.get? "timeout_seconds") = .ok run.timeoutSeconds := by
    rw [runField run (by simp [runFields, Library.Dict.lookup_cons]; rfl), optionalFloat_again]
  have tags : strItems str (run.toObj.get "tags") = .ok run.tags := by
    rw [field (runField run (by simp [runFields, Library.Dict.lookup_cons]; rfl)), strItems_again]
  have metadata : (run.toObj.orEmpty "metadata").toMapping = .ok run.metadata := by
    rw [Obj.orEmpty, runField run (by simp [runFields, Library.Dict.lookup_cons]; rfl)]
    exact toMapping_dict run.metadata
  have inputsFound : run.toObj.get? "inputs" = run.inputs.map .json := by
    rw [runOption run (by simp [runFields, Library.Dict.lookup_cons])]
    simp
  have inputs : runInputs run.toObj = .ok run.inputs := by
    rw [runInputs, Obj.has, Obj.get, inputsFound]
    cases given : run.inputs with
    | none => rfl
    | some value =>
        rcases normal.inputs value given with rfl | ⟨entries, rfl⟩ <;> rfl
  have runIdFound : run.toObj.get? "run_id" = run.runId.map fun runId => .json (.str runId) := by
    rw [runOption run (by simp [runFields, Library.Dict.lookup_cons])]
    simp
  have runId : runIdOf run.toObj = .ok run.runId := by
    rw [runIdOf, Obj.has, Obj.get, runIdFound]
    cases given : run.runId with
    | none => rfl
    | some text =>
        simp [normal.runId text given]
  have keys : refuseIdempotencyKeys run.toObj = .ok () := by
    rw [refuseIdempotencyKeys, Obj.has, Obj.has,
      runOption run (by simp [runFields, Library.Dict.lookup_cons]),
      runOption run (by simp [runFields, Library.Dict.lookup_cons])]
    simp
  have ensured : run.toObj.ensureMapping = .ok run.toObj := rfl
  simp only [normalizeRun, ensured, bind, Except.bind, timeout, tags, metadata, inputs, runId,
    keys, workspaceDir, artifactMode, fileContext]
  rfl

/-! ## The input contract -/

/-- An input contract as it is after normalizing. -/
structure NormalContract (contract : InputContract) : Prop where
  distinct : contract.constants.Nodup
  sorted : sortNames contract.constants = contract.constants
  apart : ∀ entry ∈ contract.runtime, entry.1 ∉ contract.constants
  each : (contract.runtime.all fun entry => isRuntimeInput entry.2) = true

theorem normalContract_of_returned
    {value : PyVal}
    {contract : InputContract}
    (returned : normalizeInputContract value = .ok (some contract)) :
    NormalContract contract := by
  unfold normalizeInputContract at returned
  split at returned
  · cases returned
  · obtain ⟨constants, _, returned⟩ := bind_eq_ok.mp returned
    split at returned
    · next runtime _ =>
      split at returned
      · next accepted =>
        cases returned
        obtain ⟨distinct, apart, each⟩ := accepted
        have same := List.perm_insertionSort
          (fun first second : PyStr => first.chars ≤ second.chars) constants
        have ordered := List.pairwise_insertionSort
          (fun first second : PyStr => first.chars ≤ second.chars) constants
        exact
          { distinct := same.nodup_iff.mpr distinct
            sorted := ordered.insertionSort_eq
            apart := fun entry member inside => apart entry member (same.mem_iff.mp inside)
            each := each }
      · cases returned
    · cases returned
  · cases returned

theorem normalizeInputContract_again
    {contract : Option InputContract}
    (normal : ∀ given, contract = some given → NormalContract given) :
    normalizeInputContract (contract.elim .null InputContract.value) = .ok contract := by
  cases contract with
  | none => rfl
  | some given =>
      obtain ⟨distinct, sorted, apart, each⟩ := normal given rfl
      obtain ⟨constants, runtime⟩ := given
      have names : namesOf (texts constants) = .ok constants :=
        mapM_of_back fun name _ => rfl
      dsimp only at distinct sorted apart each
      simp only [Option.elim_some, InputContract.value, normalizeInputContract, PyDict.get]
      simp [names, bind, Except.bind, distinct, sorted, each]
      exact fun key value member => apart _ member

/-! ## The specification -/

variable (str) in
/-- What is left of a specification to be read again. -/
structure NormalSpec (spec : Spec) : Prop where
  schema : spec.schema.truthy = true
  workflowId : optionalWorkflowId (spec.workflowId.elim .null .str) = .ok spec.workflowId
  nonempty : spec.nodes ≠ []
  nodes : ∀ node ∈ spec.nodes, NormalNode str node
  distinct : (spec.nodes.map fun node => node.nodeId).Nodup
  edges : ∀ edge ∈ spec.edges, NormalEdge (spec.nodes.map Node.toDagNode) edge
  acyclic : validateGraph (spec.nodes.map fun node => node.nodeId) spec.edges = .ok ()
  run : NormalRun spec.run
  inputContract : ∀ contract, spec.inputContract = some contract → NormalContract contract

theorem optionalWorkflowId_again
    {value : PyVal}
    {workflowId : Option PyStr}
    (returned : optionalWorkflowId value = .ok workflowId) :
    optionalWorkflowId (workflowId.elim .null .str) = .ok workflowId := by
  unfold optionalWorkflowId at returned
  split at returned
  · cases returned
    rfl
  · split at returned
    · cases returned
    · next accepted =>
      cases returned
      exact if_neg accepted
  · cases returned

theorem nodesOf_some
    {payload : Obj}
    {items : List Obj}
    (returned : nodesOf payload = .ok items) :
    items ≠ [] := by
  unfold nodesOf at returned
  split at returned <;> cases returned
  · exact List.cons_ne_nil _ _
  · exact List.cons_ne_nil _ _

/-- What is returned for an accepted payload, and where its stored part is. -/
theorem normalSpec_of_returned
    (rendered : ∀ value, (str value).isEmpty = false)
    {raw : Obj}
    {spec : Spec}
    (returned : dagSpecFromPayload str raw = .ok spec) :
    NormalSpec str spec ∧ ∃ name metadata, spec.name.isEmpty = false ∧
      spec.metadata = Obj.setKey metadata (.str "dag_spec") (storedSpec name spec) := by
  unfold dagSpecFromPayload at returned
  obtain ⟨payload, _, returned⟩ := bind_eq_ok.mp returned
  obtain ⟨rawNodes, listed, returned⟩ := bind_eq_ok.mp returned
  obtain ⟨rawEdges, _, returned⟩ := bind_eq_ok.mp returned
  obtain ⟨nodes, nodesRead, returned⟩ := bind_eq_ok.mp returned
  obtain ⟨_, distinct, returned⟩ := bind_eq_ok.mp returned
  obtain ⟨edges, edgesRead, returned⟩ := bind_eq_ok.mp returned
  obtain ⟨_, acyclic, returned⟩ := bind_eq_ok.mp returned
  obtain ⟨run, runRead, returned⟩ := bind_eq_ok.mp returned
  obtain ⟨contract, contractRead, returned⟩ := bind_eq_ok.mp returned
  obtain ⟨given, _, returned⟩ := bind_eq_ok.mp returned
  obtain ⟨workflowId, workflowIdRead, returned⟩ := bind_eq_ok.mp returned
  obtain ⟨tags, _, returned⟩ := bind_eq_ok.mp returned
  cases returned
  refine ⟨?_, _, _, text_orElse rendered _ rfl, rfl⟩
  refine
    { schema := ?_
      workflowId := optionalWorkflowId_again workflowIdRead
      nonempty := ?_
      nodes := fun node member => ?_
      distinct := ?_
      edges := fun edge member => ?_
      acyclic := acyclic
      run := normalRun_of_returned runRead
      inputContract := fun given (same : contract = some given) =>
        normalContract_of_returned (same ▸ contractRead) }
  · dsimp only
    unfold PyVal.orElse
    split
    · assumption
    · rfl
  · rintro rfl
    cases rawNodes with
    | nil => exact nodesOf_some listed rfl
    | cons first rest =>
        obtain ⟨result, inside, _⟩ := mem_mapM_of_mem nodesRead List.mem_cons_self
        exact absurd inside List.not_mem_nil
  · obtain ⟨item, _, made⟩ := mem_of_mapM nodesRead member
    exact normalNode_of_returned rendered made
  · unfold requireDistinct at distinct
    split at distinct
    · assumption
    · cases distinct
  · obtain ⟨item, _, made⟩ := mem_of_mapM edgesRead member
    exact normalEdge_of_returned made

variable (str) in
/-- A payload that has the parts of a specification, with a run section of its own. -/
structure Spells
    (payload : Obj)
    (spec : Spec)
    (run : Run) : Prop where
  isMapping : payload.ensureMapping = .ok payload
  schema : payload.get "schema" = spec.schema
  workflowId : payload.get "workflow_id" = spec.workflowId.elim .null .str
  nodes : payload.get? "nodes" = some (.list (spec.nodes.map Node.toObj))
  edges : payload.get "edges" = .list (spec.edges.map edgeValue)
  run : payload.get? "run" = some run.toObj
  inputContract : payload.get "input_contract" =
    spec.inputContract.elim .null InputContract.value
  metadata : ∃ metadata, (payload.orEmpty "metadata").toMapping = .ok metadata
  tags : ∃ tags, strItems str (payload.get "tags") = .ok tags

/-- What two specifications have in common when they mean the same. -/
structure SameParts (spec again : Spec) : Prop where
  schema : again.schema = spec.schema
  nodes : again.nodes = spec.nodes
  edges : again.edges = spec.edges
  inputContract : again.inputContract = spec.inputContract

/-- A payload that spells a normal specification is accepted and means it. -/
theorem dagSpecFromPayload_again
    {payload : Obj}
    {spec : Spec}
    {run : Run}
    (normal : NormalSpec str spec)
    (normalRun : NormalRun run)
    (spells : Spells str payload spec run) :
    ∃ again, dagSpecFromPayload str payload = .ok again ∧ SameParts spec again ∧
      again.run = withWorkspace run := by
  obtain ⟨metadata, metadataRead⟩ := spells.metadata
  obtain ⟨tags, tagsRead⟩ := spells.tags
  have rawNodes : nodesOf payload = .ok (spec.nodes.map Node.toObj) := by
    rw [nodesOf, spells.nodes]
    cases given : spec.nodes with
    | nil => exact absurd given normal.nonempty
    | cons first rest => rfl
  have rawEdges : edgesOf payload = .ok (spec.edges.map edgeValue) := by
    rw [edgesOf, spells.edges, orElse_list]
  have nodes : (spec.nodes.map Node.toObj).mapM (normalizeNode str) = .ok spec.nodes :=
    mapM_of_back fun node member => normalizeNode_again (normal.nodes node member)
  have distinct : requireDistinct (spec.nodes.map fun node => node.nodeId) = .ok () :=
    if_pos normal.distinct
  have edges : (spec.edges.map edgeValue).mapM
      (DagSpec.normalizeEdge str (spec.nodes.map Node.toDagNode)) = .ok spec.edges :=
    mapM_of_back fun edge member => normalizeEdge_again (normal.edges edge member)
  have runRead : normalizeRun str (payload.orEmpty "run") = .ok (withWorkspace run) := by
    rw [Obj.orEmpty, spells.run]
    exact normalizeRun_again normalRun
  have schema : (payload.get "schema").orElse (.str "maze.workflow/v1") = spec.schema := by
    rw [spells.schema, PyVal.orElse, if_pos normal.schema]
  have contract := normalizeInputContract_again normal.inputContract
  rw [← spells.inputContract] at contract
  have workflowId := normal.workflowId
  rw [← spells.workflowId] at workflowId
  simp only [dagSpecFromPayload, spells.isMapping, rawNodes, rawEdges, nodes, distinct, edges,
    normal.acyclic, runRead, contract, metadataRead, workflowId, tagsRead, schema, bind,
    Except.bind]
  exact ⟨_, rfl, ⟨rfl, rfl, rfl, rfl⟩, rfl⟩

/-! ### The returned and the stored specification -/

/-- The entries that both specifications have, with a name and a run section. -/
def specFields
    (name : PyVal)
    (run : Run)
    (spec : Spec) :
    List (PyStr × Obj) :=
  [("schema", .json spec.schema), ("workflow_id", optionalText spec.workflowId),
    ("name", .json name), ("description", .json spec.description),
    ("nodes", .list (spec.nodes.map Node.toObj)),
    ("edges", .json (.list (spec.edges.map edgeValue))), ("run", run.toObj)]

/-- An object with these entries, and optional ones, has the parts of the specification. -/
theorem spells_of_fields
    (name : PyVal)
    (run : Run)
    (spec : Spec)
    {more : List (PyStr × Obj)}
    (metadata : ∃ metadata, ((Obj.object (specFields name run spec ++ more ++
      optionalEntries spec.inputContract spec.finalOutputRefs)).orEmpty
        "metadata").toMapping = .ok metadata)
    (tags : ∃ tags, strItems str ((Obj.object (specFields name run spec ++ more ++
      optionalEntries spec.inputContract spec.finalOutputRefs)).get "tags") = .ok tags)
    (absent : more.lookup ("input_contract" : PyStr) = none) :
    Spells str (.object (specFields name run spec ++ more ++
      optionalEntries spec.inputContract spec.finalOutputRefs)) spec run := by
  have field {key : PyStr} {found : Obj}
      (here : (specFields name run spec).lookup key = some found) :
      (Obj.object (specFields name run spec ++ more ++
        optionalEntries spec.inputContract spec.finalOutputRefs)).get? key = some found :=
    get?_field here _ _
  refine
    { isMapping := rfl
      schema := ?_
      workflowId := ?_
      nodes := field (by simp [specFields, Library.Dict.lookup_cons])
      edges := ?_
      run := field (by simp [specFields, Library.Dict.lookup_cons])
      inputContract := ?_
      metadata := metadata
      tags := tags }
  · rw [Obj.get, field (by simp [specFields, Library.Dict.lookup_cons]; rfl)]
  · rw [Obj.get, field (by simp [specFields, Library.Dict.lookup_cons]; rfl), optionalText]
  · rw [Obj.get, field (by simp [specFields, Library.Dict.lookup_cons]; rfl)]
  · have none : (specFields name run spec ++ more).lookup ("input_contract" : PyStr) = none := by
      rw [List.lookup_append, absent]
      simp [specFields, Library.Dict.lookup_cons]
    rw [Obj.get, optionalEntries, ← List.append_assoc, get?_optional none (by decide),
      if_pos rfl]
    cases spec.inputContract <;> rfl

theorem spells_toObj (spec : Spec) : Spells str spec.toObj spec spec.run := by
  have here := @spells_of_fields str (.str spec.name) spec.run spec
    [("tags", .json (texts spec.tags)), ("metadata", .dict spec.metadata)]
  refine here ⟨spec.metadata, ?_⟩ ⟨spec.tags, ?_⟩ ?_
  · rw [Obj.orEmpty, get?_object]
    simp only [specFields, List.cons_append, List.nil_append, Library.Dict.lookup_cons]
    simpa using toMapping_dict spec.metadata
  · rw [Obj.get, get?_object]
    simp only [specFields, List.cons_append, List.nil_append, Library.Dict.lookup_cons]
    simpa using strItems_again spec.tags
  · simp [Library.Dict.lookup_cons]

theorem spells_storedSpec
    (name : PyVal)
    (spec : Spec) :
    Spells str (storedSpec name spec) spec (storedRunConfig spec.run) := by
  have here := @spells_of_fields str name (storedRunConfig spec.run) spec []
  have absent {key : PyStr} (other : (specFields name (storedRunConfig spec.run) spec).lookup key =
      none) (first : key ≠ "input_contract") (second : key ≠ "final_output_refs") :
      (storedSpec name spec).get? key = none := by
    change (Obj.object (specFields name (storedRunConfig spec.run) spec ++
      optionalEntries spec.inputContract spec.finalOutputRefs)).get? key = none
    rw [optionalEntries, ← List.append_assoc, get?_optional other (by decide), if_neg first,
      if_neg second]
  rw [List.append_nil] at here
  refine here ⟨[], ?_⟩ ⟨[], ?_⟩ rfl
  · change ((storedSpec name spec).orEmpty "metadata").toMapping = .ok []
    rw [Obj.orEmpty,
      absent (by simp [specFields, Library.Dict.lookup_cons]) (by decide) (by decide)]
    rfl
  · change strItems str ((storedSpec name spec).get "tags") = .ok []
    rw [Obj.get, absent (by simp [specFields, Library.Dict.lookup_cons]) (by decide) (by decide)]
    rfl

theorem lookup_setKey
    (mapping : Mapping)
    (key : PyStr)
    (value : Obj) :
    (Obj.setKey mapping (.str key) value).lookup (.str key) = some value := by
  induction mapping with
  | nil => simp [Obj.setKey]
  | cons first rest inductionHypothesis =>
      obtain ⟨other, old⟩ := first
      rw [Obj.setKey]
      split
      · next same =>
        cases other with
        | str text =>
            have same : key = text := by simpa [PyVal.pyEq] using same
            rw [same, Library.Dict.lookup_cons]
            exact if_pos rfl
        | null | bool | int | float | list | dict => simp [PyVal.pyEq, PyVal.number?] at same
      · next differ =>
        rw [Library.Dict.lookup_cons, if_neg, inductionHypothesis]
        rintro rfl
        simp [PyVal.pyEq] at differ

theorem SameParts.definition
    {spec again : Spec}
    (same : SameParts spec again) :
    dagDefinitionFromSpec again = dagDefinitionFromSpec spec := by
  unfold dagDefinitionFromSpec
  rw [same.schema, same.nodes, same.edges, same.inputContract]

/-- Specifications that mean the same are compiled to the same workflow. -/
theorem SameParts.built
    {payload other : Obj}
    {spec again : Spec}
    (accepted : dagSpecFromPayload str payload = .ok spec)
    (acceptedAgain : dagSpecFromPayload str other = .ok again)
    (same : SameParts spec again) :
    buildDagWorkflow str other = buildDagWorkflow str payload := by
  unfold buildDagWorkflow
  rw [accepted, acceptedAgain]
  simp only [bind, Except.bind, same.nodes, same.edges, same.inputContract, same.definition]

end Parts

/-! ## The result -/

/-- A payload is accepted again, and means the specification with a run section of its own. -/
def Means
    (str : PyVal → PyStr)
    (payload : Obj)
    (spec : Spec)
    (run : Run) : Prop :=
  ∃ again, dagSpecFromPayload str payload = .ok again ∧ again.nodes = spec.nodes ∧
    again.edges = spec.edges ∧ again.run = run ∧ again.inputContract = spec.inputContract ∧
    dagDefinitionFromSpec again = dagDefinitionFromSpec spec

/--
The specification that is returned and the one that is stored are accepted and mean what was
submitted, a workspace that is falsy aside; all three are compiled to the same workflow.
-/
theorem stored_spec_means
    (str : PyVal → PyStr)
    (rendered : ∀ value, (str value).isEmpty = false)
    (payload : PyVal)
    (spec : Spec)
    (accepted : dagSpecFromPayload str (.json payload) = .ok spec) :
    Means str spec.toObj spec (withWorkspace spec.run) ∧
      buildDagWorkflow str spec.toObj = buildDagWorkflow str (.json payload) ∧
      ∃ stored, spec.metadata.lookup (.str "dag_spec") = some stored ∧
        Means str stored spec (withWorkspace (storedRunConfig spec.run)) ∧
        buildDagWorkflow str stored = buildDagWorkflow str (.json payload) := by
  obtain ⟨normal, name, metadata, _, isStored⟩ := normalSpec_of_returned rendered accepted
  obtain ⟨again, acceptedAgain, same, run⟩ :=
    dagSpecFromPayload_again normal normal.run (spells_toObj spec)
  obtain ⟨other, acceptedOther, sameOther, otherRun⟩ :=
    dagSpecFromPayload_again normal (normal_storedRunConfig _) (spells_storedSpec name spec)
  refine ⟨⟨again, acceptedAgain, same.nodes, same.edges, run, same.inputContract,
    same.definition⟩, same.built accepted acceptedAgain, storedSpec name spec, ?_, ?_,
    sameOther.built accepted acceptedOther⟩
  · rw [isStored]
    exact lookup_setKey metadata "dag_spec" _
  · exact ⟨other, acceptedOther, sameOther.nodes, sameOther.edges, otherRun,
      sameOther.inputContract, sameOther.definition⟩

/-- A submission with one node and with a workspace. -/
def submission (workspace : PyVal) : PyVal :=
  .dict
    [("nodes", .list [.dict [("id", .str "load"), ("code", .str "pass"),
        ("outputs", .list [.str "rows"])]]),
      ("run", .dict [("workspace", workspace)])]

theorem submission_accepted
    {workspace : PyVal}
    (found : (dagSpecFromPayload (fun _ => "x") (.json (submission workspace))).toOption.map
      (fun spec => spec.run.workspaceDir) = some workspace) :
    ∃ spec, dagSpecFromPayload (fun _ => "x") (.json (submission workspace)) = .ok spec ∧
      spec.run.workspaceDir = workspace := by
  cases returned : dagSpecFromPayload (fun _ => "x") (.json (submission workspace)) with
  | error raised =>
      rw [returned] at found
      cases found
  | ok spec =>
      rw [returned] at found
      exact ⟨spec, rfl, Option.some.inj found⟩

theorem submission_means :
    ∃ spec, dagSpecFromPayload (fun _ => "x") (.json (submission (.str "w"))) = .ok spec ∧
      Means (fun _ => "x") spec.toObj spec (withWorkspace spec.run) ∧
      buildDagWorkflow (fun _ => "x") spec.toObj =
        buildDagWorkflow (fun _ => "x") (.json (submission (.str "w"))) ∧
      ∃ stored, spec.metadata.lookup (.str "dag_spec") = some stored ∧
        Means (fun _ => "x") stored spec (withWorkspace (storedRunConfig spec.run)) ∧
        buildDagWorkflow (fun _ => "x") stored =
          buildDagWorkflow (fun _ => "x") (.json (submission (.str "w"))) := by
  obtain ⟨spec, accepted, _⟩ := @submission_accepted (.str "w") (by decide +kernel)
  exact ⟨spec, accepted, stored_spec_means _ (fun _ => rfl) _ _ accepted⟩

/-- A workspace that is an empty text is `None` when it comes back. -/
theorem workspace_lost :
    ¬∀ (str : PyVal → PyStr) (payload : PyVal) (spec : Spec),
      (∀ value, (str value).isEmpty = false) →
        dagSpecFromPayload str (.json payload) = .ok spec →
          Means str spec.toObj spec spec.run := by
  intro same
  obtain ⟨spec, accepted, workspace⟩ :=
    @submission_accepted (.str "") (by decide +kernel)
  obtain ⟨again, acceptedAgain, _, _, run, _⟩ := same _ _ _ (fun _ => rfl) accepted
  obtain ⟨normal, _⟩ := normalSpec_of_returned (fun _ => rfl) accepted
  obtain ⟨other, acceptedOther, _, otherRun⟩ :=
    dagSpecFromPayload_again normal normal.run (spells_toObj spec)
  obtain rfl := Except.ok.inj (acceptedAgain.symm.trans acceptedOther)
  have lost : spec.run.workspaceDir.orElse .null = spec.run.workspaceDir :=
    congrArg Run.workspaceDir (otherRun.symm.trans run)
  rw [workspace] at lost
  cases lost

end Maze.Core.StoredSpec
