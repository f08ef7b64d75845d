import Maze.Core.DagSpec

namespace Maze.Core.OutputReferences

open Maze.Python
open DagSpec (dot reference)

/-!
# References to the outputs of tasks

The DAG compiler and the dynamic runs write `<task>.output.<name>` for an output
of a task, and the scheduler cuts that text at its dots to find the value. The
ids of tasks hold no dot. The names of outputs may: the compiler asks only that
they are not empty, and a dynamic run takes whatever is declared.
-/

/-- `get_task_result`, over the results that the tasks of a workflow have left. -/
def getTaskResult
    (results : List (TaskId × PyDict))
    (key : PyStr) :
    Except PyErr PyVal :=
  match key.split dot with
  | taskId :: _ :: outputKey :: _ =>
      match results.lookup taskId with
      | some result => .ok (PyDict.get result outputKey)
      | none => .error .keyError
  | _ => .error .indexError

/-- One entry of `_normalize_params`: the name that it declares. -/
def normalizeParam : PyVal → Except PyErr PyVal
  | .str name => .ok (.str name)
  | .dict entries =>
      let name := (PyDict.get entries "name").orElse (PyDict.get entries "key")
      if name.truthy then .ok name else .error .valueError
  | _ => .error .valueError

/-- `_normalize_params`, as far as the names are concerned. -/
def normalizeParams (params : PyVal) : Except PyErr (List PyVal) :=
  if params.truthy then
    match params with
    | .dict entries => (entries.map Prod.snd).mapM normalizeParam
    | .list items => items.mapM normalizeParam
    | .str text => text.chars.mapM fun char => normalizeParam (.str ⟨[char]⟩)
    | _ => .error .typeError
  else
    .ok []

/-- `_output_ref_to_reference`. -/
def outputRefToReference
    (str : PyVal → PyStr)
    (value : PyDict) :
    Except PyErr PyStr :=
  match value.get? "task_id", value.get? "output_key" with
  | some taskId, some outputKey =>
      .ok (reference (taskId.text str) (outputKey.text str))
  | _, _ => .error .keyError

/-- The text of a UUID, which every task of a dynamic run has as its id. -/
def isUuid (text : PyStr) : Bool :=
  text.chars.length = 36 &&
    text.chars.all fun char =>
      (0x30 ≤ char.val && char.val ≤ 0x39) ||
        (0x61 ≤ char.val && char.val ≤ 0x66) || char.val = 0x2D

/--
A declared output of a task that the DAG compiler or a dynamic append accepts,
with the reference that is built for it.
-/
inductive AcceptedOutput (str : PyVal → PyStr) :
    TaskId → PyVal → PyStr → Prop where
  | compiled
      {payload : PyVal}
      {spec : DagSpec}
      {node : DagNode}
      {output : DagOutput}
      (accepted : DagSpec.dagSpecFromPayload str payload = .ok spec)
      (isNode : node ∈ spec.nodes)
      (declared : output ∈ node.outputs) :
      AcceptedOutput str node.nodeId (.str output.name)
        (reference node.nodeId output.name)
  | appended
      {params : PyVal}
      {names : List PyVal}
      {taskId : TaskId}
      {name : PyVal}
      {value : PyDict}
      {built : PyStr}
      (isTask : isUuid taskId = true)
      (accepted : normalizeParams params = .ok names)
      (declared : name ∈ names)
      (ofTask : value.get? "task_id" = some (.str taskId))
      (ofOutput : value.get? "output_key" = some name)
      (written : outputRefToReference str value = .ok built) :
      AcceptedOutput str taskId name built

/-- What a result holds under a name; it has no key that is not a text. -/
def stored
    (result : PyDict)
    (name : PyVal) :
    PyVal :=
  match name with
  | .str key => PyDict.get result key
  | _ => .null

/-- The reference is decoded to the value of the output, in every result. -/
def DecodesTo
    (taskId : TaskId)
    (name : PyVal)
    (built : PyStr) : Prop :=
  ∀ results result, results.lookup taskId = some result →
    getTaskResult results built = .ok (stored result name)

/-- The task and the key that a reference is decoded to. -/
def decoded (built : PyStr) : Option PyStr × Option PyStr :=
  let parts := built.split dot
  (parts[0]?, parts[2]?)

/-- A name of an output that comes back whole: a text without a dot. -/
def Undotted (name : PyVal) : Prop :=
  ∃ text : PyStr, name = .str text ∧ dot ∉ text.chars

/-! ## Task ids hold no dot -/

theorem notMem_of_isNodeId
    {text : PyStr}
    (isNodeId : DagSpec.isNodeId text = true) :
    dot ∉ text.chars := by
  have continues : ∀ char ∈ text.chars, DagSpec.continuesNodeId char = true := by
    unfold DagSpec.isNodeId at isNodeId
    cases chars : text.chars with
    | nil =>
        intro char inside
        exact absurd inside List.not_mem_nil
    | cons first rest =>
        rw [chars] at isNodeId
        simp only [Bool.and_eq_true, List.all_eq_true] at isNodeId
        intro char inside
        rcases List.mem_cons.mp inside with rfl | later
        · simp [DagSpec.continuesNodeId, isNodeId.1.1]
        · exact isNodeId.1.2 char later
  intro inside
  exact absurd (continues dot inside) (by decide)

theorem notMem_of_isUuid
    {text : PyStr}
    (uuid : isUuid text = true) :
    dot ∉ text.chars := by
  simp only [isUuid, Bool.and_eq_true, List.all_eq_true] at uuid
  intro inside
  exact absurd (uuid.2 dot inside) (by decide)

/-- A task of an accepted output has an id without a dot. -/
theorem AcceptedOutput.task
    {str : PyVal → PyStr}
    {taskId : TaskId}
    {name : PyVal}
    {built : PyStr}
    (accepted : AcceptedOutput str taskId name built) :
    dot ∉ taskId.chars := by
  cases accepted with
  | compiled accepted isNode declared =>
      obtain ⟨accepts⟩ := DagSpec.accepts_of_returned accepted
      obtain ⟨raw, _, normalized⟩ := mem_of_mapM accepts.nodes isNode
      obtain ⟨_, _, _, isNodeId, _⟩ := DagSpec.normalizeNode_returned normalized
      exact notMem_of_isNodeId isNodeId
  | appended isTask _ _ _ _ _ =>
      exact notMem_of_isUuid isTask

/-- The reference names the task and renders the name of the output. -/
theorem AcceptedOutput.built_eq
    {str : PyVal → PyStr}
    {taskId : TaskId}
    {name : PyVal}
    {built : PyStr}
    (accepted : AcceptedOutput str taskId name built) :
    built = reference taskId (name.text str) := by
  cases accepted with
  | compiled accepted isNode declared =>
      rfl
  | appended isTask accepted declared ofTask ofOutput written =>
      simp only [outputRefToReference, ofTask, ofOutput, Except.ok.injEq] at written
      rw [← written]
      rfl

/-! ## What a reference is decoded to -/

theorem split_reference
    {taskId : PyStr}
    (undotted : dot ∉ taskId.chars)
    (output : PyStr) :
    (reference taskId output).split dot =
      taskId :: PyStr.ofString "output" :: output.split dot := by
  have plain : dot ∉ (PyStr.ofString "output").chars := by decide
  rw [reference, PyStr.split_append undotted, PyStr.split_append plain]

/-- The key is what comes before the first dot of the name. -/
theorem getTaskResult_reference
    {taskId : TaskId}
    (undotted : dot ∉ taskId.chars)
    (output : PyStr) :
    ∃ key rest, output.split dot = key :: rest ∧
      ∀ results result, results.lookup taskId = some result →
        getTaskResult results (reference taskId output) =
          .ok (PyDict.get result key) := by
  cases cut : output.split dot with
  | nil =>
      exact absurd cut (PyStr.split_ne_nil output dot)
  | cons key rest =>
      refine ⟨key, rest, rfl, ?_⟩
      intro results result found
      simp only [getTaskResult, split_reference undotted, cut, found]

theorem decodesTo_iff
    {str : PyVal → PyStr}
    {taskId : TaskId}
    {name : PyVal}
    {built : PyStr}
    (accepted : AcceptedOutput str taskId name built) :
    DecodesTo taskId name built ↔ Undotted name := by
  have undotted := accepted.task
  obtain ⟨key, rest, cut, decodes⟩ :=
    getTaskResult_reference undotted (name.text str)
  rw [accepted.built_eq]
  constructor
  · intro right
    -- a result that holds something under the key alone
    have read := decodes [(taskId, [(key, .int 1)])] [(key, .int 1)] (by simp)
    rw [right _ [(key, .int 1)] (by simp)] at read
    have held : stored [(key, .int 1)] name = .int 1 := by
      rw [Except.ok.inj read]
      simp [PyDict.get]
    cases name with
    | str text =>
        have same : text = key := by
          by_contra differ
          simp [stored, PyDict.get, differ] at held
        refine ⟨text, rfl, ?_⟩
        rw [same]
        exact PyStr.notMem_of_mem_split (cut ▸ List.mem_cons_self)
    | null | bool | int | float | list | dict =>
        cases held
  · rintro ⟨text, rfl, plain⟩ results result found
    rw [decodes results result found]
    have whole : text.split dot = [text] := PyStr.split_of_notMem plain
    change text.split dot = key :: rest at cut
    rw [whole, List.cons.injEq] at cut
    rw [← cut.1]
    rfl

/-- A name without a dot is decoded to its own task and to itself. -/
theorem decoded_of_undotted
    {str : PyVal → PyStr}
    {taskId : TaskId}
    {text : PyStr}
    {built : PyStr}
    (accepted : AcceptedOutput str taskId (.str text) built)
    (plain : dot ∉ text.chars) :
    decoded built = (some taskId, some text) := by
  rw [accepted.built_eq]
  simp [decoded, PyVal.text, split_reference accepted.task,
    PyStr.split_of_notMem plain]

/--
Two accepted outputs are decoded as they were declared, and not alike unless they
are the same, exactly if their names are texts without a dot.
-/
theorem outputs_decode_iff_undotted
    (str : PyVal → PyStr)
    {first second : TaskId}
    {name other : PyVal}
    {built builtOther : PyStr}
    (accepted : AcceptedOutput str first name built)
    (acceptedOther : AcceptedOutput str second other builtOther) :
    (DecodesTo first name built ∧ DecodesTo second other builtOther ∧
        ((first, name) ≠ (second, other) →
          decoded built ≠ decoded builtOther)) ↔
      Undotted name ∧ Undotted other := by
  constructor
  · rintro ⟨right, rightOther, _⟩
    exact ⟨(decodesTo_iff accepted).mp right,
      (decodesTo_iff acceptedOther).mp rightOther⟩
  · rintro ⟨plain, plainOther⟩
    refine ⟨(decodesTo_iff accepted).mpr plain,
      (decodesTo_iff acceptedOther).mpr plainOther, ?_⟩
    obtain ⟨text, rfl, undotted⟩ := plain
    obtain ⟨textOther, rfl, undottedOther⟩ := plainOther
    intro differ alike
    rw [decoded_of_undotted accepted undotted,
      decoded_of_undotted acceptedOther undottedOther] at alike
    apply differ
    simpa using alike

/-! ### A name with a dot -/

/-- A DAG of one node whose outputs have the given names. -/
def oneNodePayload (names : List String) : PyVal :=
  .dict [("nodes", .list [.dict
    [("id", .str "a"), ("code", .str "def a(): pass"),
      ("outputs", .list (names.map fun name => .str (PyStr.ofString name)))]])]

/-- The node that the compiler makes of it. -/
def oneNode (names : List String) : DagNode where
  nodeId := "a"
  inputs := []
  outputs := names.map fun name => ⟨PyStr.ofString name, "any"⟩

/-- Two plain outputs of one node. -/
theorem plain_outputs_decode :
    DecodesTo "a" (.str "x") (reference "a" "x") ∧
      DecodesTo "a" (.str "y") (reference "a" "y") := by
  have accepted : DagSpec.dagSpecFromPayload (fun _ => "")
      (oneNodePayload ["x", "y"]) = .ok ⟨[oneNode ["x", "y"]], []⟩ := by
    rfl
  have outputX : AcceptedOutput (fun _ => "") "a" (.str "x") (reference "a" "x") :=
    .compiled accepted (List.mem_singleton.mpr rfl) List.mem_cons_self
  have outputY : AcceptedOutput (fun _ => "") "a" (.str "y") (reference "a" "y") :=
    .compiled accepted (List.mem_singleton.mpr rfl)
      (List.mem_cons_of_mem _ List.mem_cons_self)
  have both := (outputs_decode_iff_undotted (fun _ => "") outputX outputY).mpr
    ⟨⟨"x", rfl, by decide⟩, ⟨"y", rfl, by decide⟩⟩
  exact ⟨both.1, both.2.1⟩

/-- The compiler accepts an output with a dot, and its reference is misread. -/
theorem dotted_output_misread :
    AcceptedOutput (fun _ => "") "a" (.str "x.y") (reference "a" "x.y") ∧
      ¬ DecodesTo "a" (.str "x.y") (reference "a" "x.y") := by
  have accepted : DagSpec.dagSpecFromPayload (fun _ => "")
      (oneNodePayload ["x.y"]) = .ok ⟨[oneNode ["x.y"]], []⟩ := by
    rfl
  refine ⟨.compiled accepted (List.mem_singleton.mpr rfl) List.mem_cons_self, ?_⟩
  intro right
  have read := right [("a", [("x.y", .int 1)])] [("x.y", .int 1)] (by decide)
  exact absurd read (by decide)

end Maze.Core.OutputReferences
