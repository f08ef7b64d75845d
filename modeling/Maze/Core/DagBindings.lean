import Maze.Core.DagSpec
import Maze.Core.StaticDispatch

namespace Maze.Core.DagSpec

open Maze.Python
open Maze.Library
open Maze.Library.Transition

/-!
# What the inputs of a DAG are bound to

A payload binds an input in the object that the node has for it, by the edges
that enter it, or both. The compiler reads the fields of the object by its
`input_schema`, the first that it knows, and an edge is compared with the object
only where the object has a value or a reference to a task. A reference without
an edge is compared with nothing.
-/

/-- What an input is bound to: a value, a run input or an output of a task. -/
structure Binding where
  inputSchema : InputSchema
  value : PyVal

namespace Binding

/-- The binding to an output of a task. -/
def task (reference : PyStr) : Binding where
  inputSchema := .fromTask
  value := .str reference

/-- What a normalized input is bound to. -/
def ofInput (input : DagInput) : Option Binding :=
  if input.inputSchema = .fromUser ∧ input.hasValue = false then
    none
  else
    some ⟨input.inputSchema, input.value⟩

/-- The binding that an edge declares. -/
def ofEdge (edge : DagEdge) : Binding :=
  task (reference edge.sourceTaskId edge.sourceOutput)

/-- The other spelling of it, which is taken in a node beside the edge. -/
def shortOfEdge (edge : DagEdge) : Binding :=
  task (shortReference edge.sourceTaskId edge.sourceOutput)

end Binding

/-! ## What a payload declares -/

section Declaring

variable (str : PyVal → PyStr)

/-- A `from` beside what `input_schema` tells to read. -/
def besides (entries : PyDict) : List Binding :=
  if (entries.get "from").truthy then
    [.task ((entries.get "from").text str)]
  else
    []

/-- Every binding that the object of an input declares. -/
def declarations (raw : PyVal) : List Binding :=
  match raw with
  | .dict entries =>
      let value := PyDict.get entries "value"
      let source := PyDict.get entries "from"
      if isBinding entries then
        if PyDict.get entries "input_schema" = .str "from_run" then
          ⟨.fromRun, value⟩ :: besides str entries
        else if PyDict.get entries "input_schema" = .str "from_task" then
          .task ((value.orElse (source.orElse (.str ""))).text str) ::
            besides str entries
        else if PyDict.get entries "input_schema" = .str "from_user" then
          (if ((PyDict.get? entries "has_value").getD
              (.bool (hasKey entries "value"))).truthy then
            [⟨.fromUser, value⟩]
          else
            []) ++ besides str entries
        else
          (if hasKey entries "from" then [.task (source.text str)] else []) ++
            (if hasKey entries "value" then [⟨.fromUser, value⟩] else [])
      else
        [⟨.fromUser, raw⟩]
  | _ => [⟨.fromUser, raw⟩]

/-- The `input_schema` is not one that leaves a `from` unread. -/
def readsReference : PyVal → Bool
  | .dict entries => PyDict.get entries "input_schema" ≠ .str "from_user"
  | _ => true

/-- The nodes of a payload. -/
def payloadNodes : PyVal → List PyDict
  | .dict payload =>
      match PyDict.get payload "nodes" with
      | .list items => items.filterMap fun
          | .dict node => some node
          | _ => none
      | _ => []
  | _ => []

/-- The edges of a payload. -/
def payloadEdges : PyVal → List DagEdge
  | .dict payload =>
      match (PyDict.get payload "edges").orElse (.list []) with
      | .list items => items.filterMap fun
          | .dict edge => (edgeEnds str edge).toOption
          | _ => none
      | _ => []
  | _ => []

/-- The object that a node has for an input. -/
def rawInput
    (node : PyDict)
    (key : PyStr) :
    Option PyVal :=
  match (node.get "inputs").orElse (.dict []) with
  | .dict inputs => List.lookup key inputs
  | _ => none

/-- The bindings that a node declares for an input. -/
def writtenFor
    (node : PyDict)
    (key : PyStr) :
    List Binding :=
  match rawInput node key with
  | none => []
  | some raw => declarations str raw

/-- The names of the outputs of a node. -/
def outputNames (node : PyDict) : List PyStr :=
  match node.get "outputs" with
  | .list items => items.filterMap fun item =>
      (normalizeOutput str item).toOption.map DagOutput.name
  | _ => []

/-- The edges that enter an input. -/
def edgesInto
    (edges : List DagEdge)
    (nodeId key : PyStr) :
    List DagEdge :=
  edges.filter fun edge => edge.targetTaskId = nodeId ∧ edge.targetInput = key

/-! ## Sound bindings -/

/-- A static run of the workflow sends the consumer after the producer is done. -/
def ProducedFirst
    (workflow : CompiledWorkflow)
    (producer consumer : TaskId) : Prop :=
  ∀ rendering primitives submission actions process,
    submission.workflow.edges = workflow.edges →
    run? (StaticCore.step? rendering primitives) (StaticCore.submitted submission)
        actions = some process →
    consumer ∈ process.sentTasks →
      process.run.hasSucceeded producer = true

/--
The value is a reference to a declared output of a task, with an edge from that
task, which therefore ends first.
-/
def NamesProducer
    (workflow : CompiledWorkflow)
    (consumer : TaskId)
    (value : PyVal) : Prop :=
  ∃ producer output task,
    value = .str (reference producer output) ∧
      (producer, task) ∈ workflow.tasks ∧
      output ∈ task.outputParams.map DagOutput.name ∧
      (producer, consumer) ∈ workflow.edges ∧
      ProducedFirst workflow producer consumer

/-- What the compiler made of an input. -/
def compiledInput
    (workflow : CompiledWorkflow)
    (nodeId key : PyStr) :
    Option Binding :=
  (workflow.tasks.lookup nodeId).bind fun task =>
    (task.inputParams.lookup key).bind Binding.ofInput

/-- The input is bound to what the node has written for it. -/
def Agrees
    (entering : List DagEdge)
    (bound : Option Binding)
    (written : Binding) : Prop :=
  bound = some written ∨
    ∃ edge ∈ entering, written = .shortOfEdge edge ∧ bound = some (.ofEdge edge)

/-- An input is bound to exactly what is declared for it. -/
structure InputSound
    (workflow : CompiledWorkflow)
    (nodeId : PyStr)
    (written : List Binding)
    (entering : List DagEdge)
    (bound : Option Binding) : Prop where
  writtenKept : ∀ binding ∈ written, Agrees entering bound binding
  edgesKept : ∀ edge ∈ entering, bound = some (.ofEdge edge)
  declared :
    ∀ binding, bound = some binding →
      (∃ other ∈ written, Agrees entering bound other) ∨
        ∃ edge ∈ entering, binding = .ofEdge edge
  produced :
    ∀ value, bound = some ⟨.fromTask, value⟩ →
      NamesProducer workflow nodeId value

/-- Every input of every node is bound to exactly what the payload declares. -/
def BindingsSound
    (payload : PyVal)
    (workflow : CompiledWorkflow) : Prop :=
  ∀ node ∈ payloadNodes payload, ∀ key,
    InputSound workflow (nodeIdOf str node) (writtenFor str node key)
      (edgesInto (payloadEdges str payload) (nodeIdOf str node) key)
      (compiledInput workflow (nodeIdOf str node) key)

/-! ## Orderly payloads -/

/-- The value is a reference to a declared output, with an edge to the node. -/
def NamesOutput
    (payload : PyVal)
    (nodeId : PyStr)
    (value : PyVal) : Prop :=
  ∃ producer ∈ payloadNodes payload, ∃ output ∈ outputNames str producer,
    value = .str (reference (nodeIdOf str producer) output) ∧
      ∃ edge ∈ payloadEdges str payload,
        endpoints edge = (nodeIdOf str producer, nodeId)

/-- An input that no edge enters is declared once, and a reference has its edge. -/
structure OrderlyAlone
    (payload : PyVal)
    (node : PyDict)
    (key : PyStr) : Prop where
  single :
    ∀ first ∈ writtenFor str node key, ∀ second ∈ writtenFor str node key,
      first = second
  named :
    ∀ value, ⟨.fromTask, value⟩ ∈ writtenFor str node key →
      (rawInput node key).all readsReference = true ∧
        NamesOutput str payload (nodeIdOf str node) value

/-- The edges into an input agree, and the node writes nothing but what they say. -/
structure OrderlyEntered
    (written : List Binding)
    (entering : List DagEdge) : Prop where
  repeated :
    ∀ binding ∈ written, ∃ edge ∈ entering,
      binding = .ofEdge edge ∨ binding = .shortOfEdge edge
  single :
    ∀ first ∈ entering, ∀ second ∈ entering,
      Binding.ofEdge first ≠ .shortOfEdge second

/-- Whether edges enter an input or not, it is declared in one way. -/
def BindingsOrderly (payload : PyVal) : Prop :=
  ∀ node ∈ payloadNodes payload, ∀ key,
    (edgesInto (payloadEdges str payload) (nodeIdOf str node) key = [] →
        OrderlyAlone str payload node key) ∧
      (edgesInto (payloadEdges str payload) (nodeIdOf str node) key ≠ [] →
        OrderlyEntered (writtenFor str node key)
          (edgesInto (payloadEdges str payload) (nodeIdOf str node) key))

end Declaring

/-! ## The loop over the edges -/

/-- The edges into one input, merged one after the other. -/
def mergeEdges :
    List DagEdge → Option DagInput → Except PyErr (Option DagInput)
  | [], existing => .ok existing
  | edge :: rest, existing => do
      let merged ← mergeEdge existing edge
      mergeEdges rest (some merged)

variable
  {str : PyVal → PyStr}
  {payload : PyVal}
  {workflow : CompiledWorkflow}
  {edges : List DagEdge}
  {node : DagNode}
  {spec : DagSpec}
  {raw : PyDict}
  {key : PyStr}

/-- Of an input the loop sees only the edges that enter it. -/
theorem bindEdges_lookup
    {inputMaps final : InputMaps}
    (returned : edges.foldlM bindEdge inputMaps = .ok final)
    {nodeId : PyStr}
    {inputs : List (PyStr × DagInput)}
    (found : inputMaps.lookup nodeId = some inputs)
    (key : PyStr) :
    ∃ finalInputs,
      final.lookup nodeId = some finalInputs ∧
        mergeEdges (edgesInto edges nodeId key) (inputs.lookup key) =
          .ok (finalInputs.lookup key) := by
  induction edges generalizing inputMaps inputs with
  | nil =>
      cases returned
      exact ⟨inputs, found, rfl⟩
  | cons edge rest inductionHypothesis =>
      rw [List.foldlM_cons] at returned
      obtain ⟨changed, bound, later⟩ := bind_eq_ok.mp returned
      unfold bindEdge at bound
      split at bound
      · cases bound
      · next targetInputs target =>
        obtain ⟨merged, made, same⟩ := bind_eq_ok.mp bound
        cases same
        by_cases here : edge.targetTaskId = nodeId
        · subst here
          rw [target, Option.some.injEq] at found
          subst found
          have changedHere :
              (Dict.set inputMaps edge.targetTaskId
                (Dict.set targetInputs edge.targetInput merged)).lookup
                  edge.targetTaskId =
                some (Dict.set targetInputs edge.targetInput merged) := by simp
          obtain ⟨finalInputs, reached, merging⟩ :=
            inductionHypothesis later changedHere
          refine ⟨finalInputs, reached, ?_⟩
          by_cases entered : edge.targetInput = key
          · subst entered
            rw [Dict.lookup_set, if_pos rfl] at merging
            have kept : edgesInto (edge :: rest) edge.targetTaskId
                edge.targetInput =
                  edge :: edgesInto rest edge.targetTaskId edge.targetInput := by
              simp [edgesInto]
            rw [kept, mergeEdges, made]
            exact merging
          · rw [Dict.lookup_set, if_neg (Ne.symm entered)] at merging
            have kept : edgesInto (edge :: rest) edge.targetTaskId key =
                edgesInto rest edge.targetTaskId key := by
              simp [edgesInto, entered]
            rw [kept]
            exact merging
        · have unchanged :
              (Dict.set inputMaps edge.targetTaskId
                (Dict.set targetInputs edge.targetInput merged)).lookup nodeId =
                some inputs := by
            rw [Dict.lookup_set, if_neg (Ne.symm here), found]
          have kept : edgesInto (edge :: rest) nodeId key =
              edgesInto rest nodeId key := by
            simp [edgesInto, here]
          rw [kept]
          exact inductionHypothesis later unchanged

/-- The input that an edge leaves is bound to what the edge says. -/
theorem mergeEdge_bound
    {existing : Option DagInput}
    {edge : DagEdge}
    {merged : DagInput}
    (returned : mergeEdge existing edge = .ok merged) :
    Binding.ofInput merged = some (.ofEdge edge) := by
  unfold mergeEdge at returned
  dsimp only at returned
  split at returned
  · cases returned
    rfl
  · next existing =>
    split at returned
    · split at returned
      · cases returned
      · cases returned
        rfl
    · next schema =>
      split at returned
      · cases returned
        simp [Binding.ofInput, Binding.ofEdge, Binding.task, schema]
      · cases returned
    · cases returned
      rfl

/-- An input that is bound by an edge takes another one only in its spellings. -/
theorem mergeEdge_again
    {existing merged : DagInput}
    {earlier edge : DagEdge}
    (bound : Binding.ofInput existing = some (.ofEdge earlier))
    (returned : mergeEdge (some existing) edge = .ok merged) :
    Binding.ofEdge earlier = .ofEdge edge ∨ Binding.ofEdge earlier = .shortOfEdge edge := by
  have both : existing.inputSchema = .fromTask ∧
      existing.value =
        .str (reference earlier.sourceTaskId earlier.sourceOutput) := by
    unfold Binding.ofInput at bound
    split at bound
    · cases bound
    · simpa [Binding.ofEdge, Binding.task] using bound
  simp only [mergeEdge, both.1, both.2] at returned
  split at returned
  · next same =>
    rcases same with same | same
    · left
      simpa [Binding.ofEdge, Binding.task] using same
    · right
      simpa [Binding.ofEdge, Binding.shortOfEdge, Binding.task] using same
  · cases returned

/-- What enters an input last has bound it. -/
theorem mergeEdges_bound
    {existing final : Option DagInput}
    (returned : mergeEdges edges existing = .ok final)
    (some_ : edges ≠ []) :
    ∃ edge ∈ edges, final.bind Binding.ofInput = some (.ofEdge edge) := by
  induction edges generalizing existing with
  | nil =>
      exact absurd rfl some_
  | cons edge rest inductionHypothesis =>
      rw [mergeEdges] at returned
      obtain ⟨merged, made, later⟩ := bind_eq_ok.mp returned
      by_cases last : rest = []
      · subst last
        cases later
        exact ⟨edge, List.mem_cons_self, mergeEdge_bound made⟩
      · obtain ⟨other, member, bound⟩ := inductionHypothesis later last
        exact ⟨other, List.mem_cons_of_mem _ member, bound⟩

/-- Edges that enter one input one after the other say the same. -/
theorem mergeEdges_again
    {existing : DagInput}
    {final : Option DagInput}
    {earlier : DagEdge}
    (returned : mergeEdges edges (some existing) = .ok final)
    (bound : Binding.ofInput existing = some (.ofEdge earlier))
    (single :
      ∀ first ∈ earlier :: edges, ∀ second ∈ earlier :: edges,
        Binding.ofEdge first ≠ .shortOfEdge second) :
    ∀ edge ∈ edges, Binding.ofEdge edge = .ofEdge earlier := by
  induction edges generalizing existing earlier with
  | nil =>
      exact fun _ impossible => absurd impossible List.not_mem_nil
  | cons next rest inductionHypothesis =>
      rw [mergeEdges] at returned
      obtain ⟨merged, made, later⟩ := bind_eq_ok.mp returned
      have same : Binding.ofEdge earlier = .ofEdge next := by
        rcases mergeEdge_again bound made with same | drifted
        · exact same
        · exact absurd drifted
            (single earlier List.mem_cons_self next
              (List.mem_cons_of_mem _ List.mem_cons_self))
      have others := inductionHypothesis later (mergeEdge_bound made)
        fun first member second there =>
          single first (List.mem_cons_of_mem _ member) second
            (List.mem_cons_of_mem _ there)
      intro edge member
      rcases List.mem_cons.mp member with rfl | member
      · exact same.symm
      · exact (others edge member).trans same.symm

/-- Edges into one input that do not drift all bind it to the same. -/
theorem mergeEdges_same
    {existing final : Option DagInput}
    (returned : mergeEdges edges existing = .ok final)
    (single :
      ∀ first ∈ edges, ∀ second ∈ edges, Binding.ofEdge first ≠ .shortOfEdge second) :
    ∀ first ∈ edges, ∀ second ∈ edges, Binding.ofEdge first = .ofEdge second := by
  cases edges with
  | nil =>
      exact fun _ impossible => absurd impossible List.not_mem_nil
  | cons head rest =>
      rw [mergeEdges] at returned
      obtain ⟨merged, made, later⟩ := bind_eq_ok.mp returned
      have others := mergeEdges_again later (mergeEdge_bound made) single
      have all : ∀ edge ∈ head :: rest, Binding.ofEdge edge = .ofEdge head := by
        intro edge member
        rcases List.mem_cons.mp member with rfl | member
        · rfl
        · exact others edge member
      intro first member second there
      exact (all first member).trans (all second there).symm

/-- The two spellings of an output are never the same text. -/
theorem binding_ne_shortBinding (edge : DagEdge) :
    Binding.ofEdge edge ≠ .shortOfEdge edge := by
  intro same
  simp only [Binding.ofEdge, Binding.shortOfEdge, Binding.task, Binding.mk.injEq,
    PyVal.str.injEq, true_and] at same
  have lengths := congrArg (fun text => text.chars.length) same
  have word : (PyStr.ofString "output").chars.length = 6 := by decide
  simp only [reference, shortReference, PyStr.append_chars, List.length_append,
    List.length_singleton, word] at lengths
  omega

/-! ## Reading the payload -/

/-- The edges that are compiled are those of the payload. -/
theorem payloadEdges_eq
    (accepts : Accepts str payload spec) :
    payloadEdges str payload = spec.edges := by
  simp only [accepts.isDict, payloadEdges, accepts.edgesFound]
  apply filterMap_of_mapM accepts.edges
  intro raw edge returned
  obtain ⟨entries, rfl, ends, _⟩ := normalizeEdge_returned returned
  simp [ends, Except.toOption]

/-- Every node of an accepted payload has been normalized. -/
theorem normalized_of_payloadNode
    (accepts : Accepts str payload spec)
    (inside : raw ∈ payloadNodes payload) :
    ∃ node ∈ spec.nodes, normalizeNode str (.dict raw) = .ok node := by
  simp only [accepts.isDict, payloadNodes, accepts.nodesFound,
    List.mem_filterMap] at inside
  obtain ⟨item, member, isNode⟩ := inside
  obtain ⟨node, there, normalized⟩ := mem_mapM_of_mem accepts.nodes member
  cases item with
  | dict entries =>
      cases isNode
      exact ⟨node, there, normalized⟩
  | null | bool | int | float | str | list =>
      cases isNode

/-- Every node that is compiled has its place in the payload. -/
theorem payloadNode_of_mem
    (accepts : Accepts str payload spec)
    (inside : node ∈ spec.nodes) :
    ∃ raw ∈ payloadNodes payload, normalizeNode str (.dict raw) = .ok node := by
  obtain ⟨item, member, normalized⟩ := mem_of_mapM accepts.nodes inside
  obtain ⟨raw, rfl, _⟩ := normalizeNode_returned normalized
  refine ⟨raw, ?_, normalized⟩
  simp only [accepts.isDict, payloadNodes, accepts.nodesFound, List.mem_filterMap]
  exact ⟨.dict raw, member, rfl⟩

/-- The outputs that are compiled have the names of the payload. -/
theorem outputNames_eq
    (normalized : normalizeNode str (.dict raw) = .ok node) :
    outputNames str raw = node.outputs.map DagOutput.name := by
  obtain ⟨_, same, _, _, _, named⟩ := normalizeNode_returned normalized
  cases same
  unfold normalizeOutputs at named
  split at named
  · next items listed =>
    obtain ⟨outputs, read, same⟩ := bind_eq_ok.mp named
    split at same
    · cases same
    · cases same
      rw [outputNames, listed]
      rw [← filterMap_of_mapM read (fun item output returned => by
        rw [returned]; rfl : ∀ item output, normalizeOutput str item = .ok output →
          (normalizeOutput str item).toOption = some output),
        List.map_filterMap]
  · cases named

/-- A call for each entry of a dictionary leaves the keys where they are. -/
theorem lookup_of_mapM
    {β : Type}
    {call : PyStr → PyVal → Except PyErr β}
    {entries : PyDict}
    {results : List (PyStr × β)}
    (returned :
      (entries.mapM fun entry => do
        let result ← call entry.1 entry.2
        return (entry.1, result)) = .ok results)
    (key : PyStr) :
    (List.lookup key entries = none ∧ results.lookup key = none) ∨
      ∃ value result,
        List.lookup key entries = some value ∧ call key value = .ok result ∧
          results.lookup key = some result := by
  induction entries generalizing results with
  | nil =>
      cases returned
      exact .inl ⟨rfl, rfl⟩
  | cons entry rest inductionHypothesis =>
      rw [List.mapM_cons] at returned
      obtain ⟨first, called, returned⟩ := bind_eq_ok.mp returned
      obtain ⟨others, later, same⟩ := bind_eq_ok.mp returned
      obtain ⟨result, made, paired⟩ := bind_eq_ok.mp called
      cases same
      cases paired
      rw [Dict.lookup_cons, Dict.lookup_cons]
      by_cases here : key = entry.1
      · subst here
        simp only [if_true]
        exact .inr ⟨entry.2, result, rfl, made, rfl⟩
      · simp only [if_neg here]
        exact inductionHypothesis later

theorem normalizeInputs_returned
    {value : PyVal}
    {results : List (PyStr × DagInput)}
    (returned : normalizeInputs str value = .ok results) :
    ∃ entries,
      value = .dict entries ∧
        (entries.mapM fun entry => do
          let normalized ← normalizeInput str entry.1 entry.2
          return (entry.1, normalized)) = .ok results := by
  cases value with
  | dict entries =>
      exact ⟨entries, rfl, returned⟩
  | null | bool | int | float | str | list =>
      cases returned

/-- Every input that is compiled comes from the object that the node has for it. -/
theorem inputs_lookup
    (normalized : normalizeNode str (.dict raw) = .ok node)
    (key : PyStr) :
    (rawInput raw key = none ∧ node.inputs.lookup key = none) ∨
      ∃ value input,
        rawInput raw key = some value ∧
          normalizeInput str key value = .ok input ∧
          node.inputs.lookup key = some input := by
  obtain ⟨_, same, _, _, returned, _⟩ := normalizeNode_returned normalized
  cases same
  obtain ⟨entries, listed, read⟩ := normalizeInputs_returned returned
  rw [rawInput, listed]
  exact lookup_of_mapM read key

/-! ## One input -/

/-- What the object of an input is read to is one of its declarations. -/
structure ReadTo
    (str : PyVal → PyStr)
    (raw : PyVal)
    (input : DagInput) : Prop where
  declared :
    ∀ binding, Binding.ofInput input = some binding →
      binding ∈ declarations str raw
  reference :
    ∀ value, Binding.ofInput input = some ⟨.fromTask, value⟩ →
      readsReference raw = true
  unread :
    Binding.ofInput input = none →
      ∀ binding ∈ declarations str raw,
        binding.inputSchema = .fromTask ∧ readsReference raw = false

/-- What stands beside the binding that is read is a reference. -/
theorem besides_task
    {entries : PyDict}
    {binding : Binding}
    (inside : binding ∈ besides str entries) :
    binding.inputSchema = .fromTask := by
  unfold besides at inside
  split at inside
  · rw [List.mem_singleton.mp inside]
    rfl
  · cases inside

theorem normalizeBinding_readTo
    {entries : PyDict}
    {input : DagInput}
    (binds : isBinding entries = true)
    (returned : normalizeBinding str key entries = .ok input) :
    ReadTo str (.dict entries) input := by
  unfold normalizeBinding at returned
  dsimp only at returned
  split at returned
  · next fromRun =>
    obtain ⟨count, _, returned⟩ := bind_eq_ok.mp returned
    split at returned
    · cases returned
    · cases returned
      constructor <;>
        simp [Binding.ofInput, declarations, binds, fromRun]
  · next notRun =>
    split at returned
    · next fromTask =>
      cases returned
      constructor <;>
        simp [Binding.ofInput, declarations, binds, fromTask, readsReference,
          Binding.task]
    · next notTask =>
      split at returned
      · next fromUser =>
        cases returned
        -- the object says itself whether it has a value
        cases has : ((PyDict.get? entries "has_value").getD
            (.bool (hasKey entries "value"))).truthy with
        | true =>
            constructor <;>
              simp [Binding.ofInput, declarations, binds, fromUser, has]
        | false =>
            constructor
            · simp [Binding.ofInput]
            · simp [Binding.ofInput]
            · intro _ binding inside
              simp only [declarations, binds, fromUser, has] at inside
              exact ⟨besides_task (by simpa using inside), by
                simp [readsReference, fromUser]⟩
      · next notUser =>
        have reads : readsReference (.dict entries) = true := by
          simp [readsReference, notUser]
        split at returned
        · next sourced =>
          cases returned
          constructor <;>
            simp [Binding.ofInput, declarations, binds, notRun, notTask, notUser,
              sourced, reads, Binding.task]
        · next unsourced =>
          cases returned
          cases valued : hasKey entries "value" <;> constructor <;>
            simp [Binding.ofInput, declarations, binds, notRun, notTask, notUser,
              unsourced, valued]

/-- An object that spells out no binding is the value itself. -/
theorem value_readTo
    {raw : PyVal}
    (plain : declarations str raw = [⟨.fromUser, raw⟩]) :
    ReadTo str raw ⟨key, .fromUser, raw, "any", true⟩ := by
  constructor <;> simp [Binding.ofInput, plain]

theorem normalizeInput_readTo
    {raw : PyVal}
    {input : DagInput}
    (returned : normalizeInput str key raw = .ok input) :
    ReadTo str raw input := by
  cases raw with
  | dict entries =>
      simp only [normalizeInput] at returned
      split at returned
      · next binds =>
        exact normalizeBinding_readTo binds returned
      · next plain =>
        cases returned
        exact value_readTo (by simp [declarations, plain])
  | null | bool | int | float | str | list =>
      cases returned
      exact value_readTo rfl

/-! ## The graph that is compiled -/

theorem mem_addEdge
    {edges : List (TaskId × TaskId)}
    {edge : DagEdge}
    {pair : TaskId × TaskId} :
    pair ∈ addEdge edges edge ↔ pair ∈ edges ∨ endpoints edge = pair := by
  unfold addEdge
  split
  · next there =>
    constructor
    · exact .inl
    · rintro (inside | rfl)
      · exact inside
      · exact there
  · simp [eq_comm]

/-- The graph has exactly the edges that are added. -/
theorem mem_addEdges
    {start : List (TaskId × TaskId)}
    {pair : TaskId × TaskId} :
    pair ∈ edges.foldl addEdge start ↔
      pair ∈ start ∨ ∃ edge ∈ edges, endpoints edge = pair := by
  induction edges generalizing start with
  | nil =>
      simp
  | cons edge rest inductionHypothesis =>
      rw [List.foldl_cons, inductionHypothesis, mem_addEdge,
        List.exists_mem_cons_iff, or_assoc]

/-- What the compiler has made of an accepted payload. -/
structure Compiles
    (str : PyVal → PyStr)
    (payload : PyVal)
    (workflow : CompiledWorkflow) where
  spec : DagSpec
  accepts : Accepts str payload spec
  taskInputs : InputMaps
  built : buildTaskInputs spec = .ok taskInputs
  tasks :
    workflow.tasks = spec.nodes.map fun node =>
      (node.nodeId, ⟨(taskInputs.lookup node.nodeId).getD [], node.outputs⟩)
  edges : workflow.edges = spec.edges.foldl addEdge []

theorem compiles_of_returned
    (returned : buildDagWorkflow str payload = .ok workflow) :
    Nonempty (Compiles str payload workflow) := by
  obtain ⟨spec, accepted, returned⟩ := bind_eq_ok.mp returned
  obtain ⟨taskInputs, built, same⟩ := bind_eq_ok.mp returned
  cases same
  exact (accepts_of_returned accepted).map fun accepts =>
    ⟨spec, accepts, taskInputs, built, rfl, rfl⟩

/-- A lookup in a list of distinct keys finds what is made of the key's item. -/
theorem lookup_map_of_mem
    {α β : Type}
    {items : List α}
    {keyOf : α → PyStr}
    (distinct : (items.map keyOf).Nodup)
    (make : α → β)
    {item : α}
    (inside : item ∈ items) :
    (items.map fun item => (keyOf item, make item)).lookup (keyOf item) =
      some (make item) := by
  rw [Dict.lookup_eq_some_iff]
  · exact List.mem_map.mpr ⟨item, inside, rfl⟩
  · simpa [List.map_map, Function.comp_def] using distinct

namespace Compiles

/-- The edges of a payload are what its inputs are merged with. -/
theorem compiledInput_eq
    (compiles : Compiles str payload workflow)
    (inside : node ∈ compiles.spec.nodes)
    (key : PyStr) :
    ∃ final,
      mergeEdges (edgesInto (payloadEdges str payload) node.nodeId key)
          (node.inputs.lookup key) = .ok final ∧
        compiledInput workflow node.nodeId key =
          final.bind Binding.ofInput := by
  have distinct := compiles.accepts.distinct
  have found := lookup_map_of_mem distinct DagNode.inputs inside
  obtain ⟨finalInputs, reached, merging⟩ :=
    bindEdges_lookup compiles.built found key
  refine ⟨finalInputs.lookup key, ?_, ?_⟩
  · rw [payloadEdges_eq compiles.accepts]
    exact merging
  · have task := lookup_map_of_mem distinct
      (fun node => (⟨(compiles.taskInputs.lookup node.nodeId).getD [],
        node.outputs⟩ : CompiledTask)) inside
    rw [compiledInput, compiles.tasks, task]
    simp [reached]

/-- The graph has an edge exactly where the payload has one. -/
theorem mem_edges
    (compiles : Compiles str payload workflow)
    {pair : TaskId × TaskId} :
    pair ∈ workflow.edges ↔
      ∃ edge ∈ payloadEdges str payload, endpoints edge = pair := by
  rw [compiles.edges, mem_addEdges, payloadEdges_eq compiles.accepts]
  simp

end Compiles

/-- A task that an edge leads to is sent when the task it comes from is done. -/
theorem producedFirst_of_edge
    {producer consumer : TaskId}
    (edge : (producer, consumer) ∈ workflow.edges) :
    ProducedFirst workflow producer consumer := by
  intro rendering primitives submission actions process same executed sent
  let ofSubmission (current : StaticProcess) : Prop :=
    StaticCore.Sound current ∧ current.workflow = submission.workflow
  have step : ∀ current action next, ofSubmission current →
      StaticCore.step? rendering primitives current action = some next →
        ofSubmission next := by
    rintro _ _ _ ⟨sound, unchanged⟩ stepped
    obtain ⟨soundNext, same⟩ := StaticCore.step_keeps sound stepped
    exact ⟨soundNext, same.trans unchanged⟩
  have kept : ofSubmission process :=
    run?_invariant step ⟨StaticCore.submitted_sound submission, rfl⟩ executed
  apply kept.1.coherent.sentInOrder.ready consumer sent
  rw [kept.2, Workflow.predecessors, same]
  exact List.mem_map.mpr ⟨(producer, consumer), by simpa using edge, rfl⟩

/-- The references of a payload name producers of the workflow. -/
theorem namesProducer_iff
    (compiles : Compiles str payload workflow)
    (consumer : TaskId)
    (value : PyVal) :
    NamesProducer workflow consumer value ↔
      NamesOutput str payload consumer value := by
  constructor
  · rintro ⟨producer, output, task, spelled, isTask, declared, edge, _⟩
    rw [compiles.tasks, List.mem_map] at isTask
    obtain ⟨node, inside, same⟩ := isTask
    cases same
    obtain ⟨raw, there, normalized⟩ := payloadNode_of_mem compiles.accepts inside
    obtain ⟨_, isRaw, named, _⟩ := normalizeNode_returned normalized
    cases isRaw
    rw [compiles.mem_edges] at edge
    refine ⟨raw, there, output, ?_, ?_⟩
    · rw [outputNames_eq normalized]
      exact declared
    · rw [← named]
      exact ⟨spelled, edge⟩
  · rintro ⟨raw, there, output, declared, spelled, edge⟩
    obtain ⟨node, inside, normalized⟩ :=
      normalized_of_payloadNode compiles.accepts there
    obtain ⟨_, isRaw, named, _⟩ := normalizeNode_returned normalized
    cases isRaw
    rw [← compiles.mem_edges] at edge
    rw [outputNames_eq normalized] at declared
    refine ⟨nodeIdOf str raw, output,
      ⟨(compiles.taskInputs.lookup node.nodeId).getD [], node.outputs⟩, spelled, ?_,
      declared, edge, producedFirst_of_edge edge⟩
    rw [compiles.tasks, ← named]
    exact List.mem_map.mpr ⟨node, inside, rfl⟩

/-- An edge that is accepted binds its input to a declared output. -/
theorem edge_namesOutput
    (accepts : Accepts str payload spec)
    {nodeId key : PyStr}
    {edge : DagEdge}
    (entering : edge ∈ edgesInto (payloadEdges str payload) nodeId key) :
    NamesOutput str payload nodeId
      (.str (reference edge.sourceTaskId edge.sourceOutput)) := by
  obtain ⟨inside, targets⟩ := List.mem_filter.mp entering
  have compiled := inside
  rw [payloadEdges_eq accepts] at compiled
  obtain ⟨raw, _, normalized⟩ := mem_of_mapM accepts.edges compiled
  obtain ⟨_, _, _, source, isNode, named, declared⟩ :=
    normalizeEdge_returned normalized
  obtain ⟨entries, there, read⟩ := payloadNode_of_mem accepts isNode
  obtain ⟨_, isRaw, identified, _⟩ := normalizeNode_returned read
  cases isRaw
  refine ⟨entries, there, edge.sourceOutput, ?_, ?_, edge, inside, ?_⟩
  · rw [outputNames_eq read]
    exact declared
  · rw [← identified, named]
  · rw [← identified, named]
    simp only [decide_eq_true_eq] at targets
    rw [endpoints, targets.1]

/-! ## When the bindings are sound -/

/-- An input that no edge enters keeps what its object says. -/
theorem alone_sound_iff
    (compiles : Compiles str payload workflow)
    (normalized : normalizeNode str (.dict raw) = .ok node)
    (key : PyStr) :
    InputSound workflow (nodeIdOf str raw) (writtenFor str raw key) []
        ((node.inputs.lookup key).bind Binding.ofInput) ↔
      OrderlyAlone str payload raw key := by
  rcases inputs_lookup normalized key with
    ⟨absent, unbound⟩ | ⟨value, input, present, returned, bound⟩
  · have nothing : writtenFor str raw key = [] := by rw [writtenFor, absent]
    rw [nothing, unbound]
    constructor
    · intro _
      constructor <;> simp [nothing]
    · intro _
      constructor <;> simp
  · have written : writtenFor str raw key = declarations str value := by
      rw [writtenFor, present]
    have read := normalizeInput_readTo returned
    rw [written, bound]
    constructor
    · intro sound
      have kept : ∀ binding ∈ declarations str value,
          Binding.ofInput input = some binding := by
        intro binding inside
        rcases sound.writtenKept binding inside with same | ⟨_, impossible, _⟩
        · exact same
        · cases impossible
      constructor
      · rw [written]
        intro first member second there
        exact Option.some.inj ((kept first member).symm.trans (kept second there))
      · rw [written, present]
        intro reference inside
        have same := kept _ inside
        exact ⟨read.reference reference same,
          (namesProducer_iff compiles _ _).mp (sound.produced reference same)⟩
    · rintro ⟨single, named⟩
      rw [written] at single named
      rw [present] at named
      constructor
      · intro binding inside
        left
        cases result : Binding.ofInput input with
        | none =>
            obtain ⟨isTask, unread⟩ := read.unread result binding inside
            obtain ⟨schema, reference⟩ := binding
            cases isTask
            have reads := (named reference inside).1
            simp only [Option.all_some, unread] at reads
            cases reads
        | some other =>
            rw [single other (read.declared other result) binding inside] at result
            simpa using result
      · exact fun _ impossible => absurd impossible List.not_mem_nil
      · intro binding result
        exact .inl ⟨binding, read.declared binding result, .inl result⟩
      · intro reference result
        exact (namesProducer_iff compiles _ _).mpr
          (named reference (read.declared _ result)).2

/-- An input that edges enter is bound to what they say. -/
theorem entered_sound_iff
    (compiles : Compiles str payload workflow)
    {nodeId key : PyStr}
    {written : List Binding}
    {existing final : Option DagInput}
    (entered : edgesInto (payloadEdges str payload) nodeId key ≠ [])
    (merged :
      mergeEdges (edgesInto (payloadEdges str payload) nodeId key) existing =
        .ok final) :
    InputSound workflow nodeId written
        (edgesInto (payloadEdges str payload) nodeId key)
        (final.bind Binding.ofInput) ↔
      OrderlyEntered written
        (edgesInto (payloadEdges str payload) nodeId key) := by
  obtain ⟨last, inside, bound⟩ := mergeEdges_bound merged entered
  rw [bound]
  constructor
  · intro sound
    constructor
    · intro binding member
      rcases sound.writtenKept binding member with same | ⟨edge, there, short, _⟩
      · exact ⟨last, inside, .inl (Option.some.inj same).symm⟩
      · exact ⟨edge, there, .inr short⟩
    · intro first member second there drifted
      have same : Binding.ofEdge first = .ofEdge second :=
        Option.some.inj ((sound.edgesKept first member).symm.trans
          (sound.edgesKept second there))
      exact binding_ne_shortBinding second (same.symm.trans drifted)
  · intro orderly
    have same := mergeEdges_same merged orderly.single
    constructor
    · intro binding member
      obtain ⟨edge, there, spelled⟩ := orderly.repeated binding member
      rcases spelled with long | short
      · exact .inl (congrArg some ((same last inside edge there).trans long.symm))
      · exact .inr ⟨edge, there, short, congrArg some (same last inside edge there)⟩
    · exact fun edge there => congrArg some (same last inside edge there)
    · intro binding result
      exact .inr ⟨last, inside, (Option.some.inj result).symm⟩
    · intro value result
      cases result
      exact (namesProducer_iff compiles _ _).mpr
        (edge_namesOutput compiles.accepts inside)

/--
The bindings of an accepted payload are sound exactly if each input is declared
in one way, and each reference that a node writes has the edge that it needs.
-/
theorem bindings_sound_iff_orderly
    {str : PyVal → PyStr}
    {payload : PyVal}
    {workflow : CompiledWorkflow}
    (accepted : buildDagWorkflow str payload = .ok workflow) :
    BindingsSound str payload workflow ↔ BindingsOrderly str payload := by
  obtain ⟨compiles⟩ := compiles_of_returned accepted
  have forInput : ∀ raw ∈ payloadNodes payload, ∀ key,
      InputSound workflow (nodeIdOf str raw) (writtenFor str raw key)
          (edgesInto (payloadEdges str payload) (nodeIdOf str raw) key)
          (compiledInput workflow (nodeIdOf str raw) key) ↔
        (edgesInto (payloadEdges str payload) (nodeIdOf str raw) key = [] →
            OrderlyAlone str payload raw key) ∧
          (edgesInto (payloadEdges str payload) (nodeIdOf str raw) key ≠ [] →
            OrderlyEntered (writtenFor str raw key)
              (edgesInto (payloadEdges str payload) (nodeIdOf str raw) key)) := by
    intro raw inside key
    obtain ⟨node, isNode, normalized⟩ :=
      normalized_of_payloadNode compiles.accepts inside
    obtain ⟨_, isRaw, named, _⟩ := normalizeNode_returned normalized
    cases isRaw
    obtain ⟨final, merged, compiled⟩ := compiles.compiledInput_eq isNode key
    rw [named] at merged compiled
    rw [compiled]
    by_cases entered :
        edgesInto (payloadEdges str payload) (nodeIdOf str raw) key = []
    · rw [entered] at merged ⊢
      cases merged
      rw [alone_sound_iff compiles normalized key]
      simp
    · rw [entered_sound_iff compiles entered merged]
      simp [entered]
  constructor
  · exact fun sound raw inside key => (forInput raw inside key).mp (sound raw inside key)
  · exact fun orderly raw inside key =>
      (forInput raw inside key).mpr (orderly raw inside key)

/-! ### A consumer and its producer -/

/-- A node of a payload. -/
def nodeObject
    (nodeId : PyStr)
    (inputs : PyDict) :
    PyDict :=
  [("id", .str nodeId), ("code", .str "def task(): pass"),
    ("inputs", .dict inputs), ("outputs", .list [.str "x"])]

/-- A producer and a consumer, whose input `k` is bound by the given object. -/
def pairPayload
    (bound : PyVal)
    (edges : List PyVal) :
    PyVal :=
  .dict
    [("nodes", .list
      [.dict (nodeObject "a" []), .dict (nodeObject "b" [("k", bound)])]),
      ("edges", .list edges)]

/-- The edge from the producer to the input. -/
def pairEdge : PyVal :=
  .dict [("from", .str "a.x"), ("to", .str "b.k")]

/-- The workflow that is made of the two. -/
def pairWorkflow
    (bound : DagInput)
    (edges : List (TaskId × TaskId)) :
    CompiledWorkflow where
  tasks := [("a", ⟨[], [⟨"x", "any"⟩]⟩), ("b", ⟨[("k", bound)], [⟨"x", "any"⟩]⟩)]
  edges := edges

/-- The input, bound to the output of the producer. -/
def boundInput : DagInput :=
  ⟨"k", .fromTask, .str "a.output.x", "any", true⟩

/-- A reference that has its edge. -/
def referencePayload : PyVal :=
  pairPayload (.dict [("from", .str "a.output.x")]) [pairEdge]

/-- An input that is not there and that no edge enters is orderly. -/
theorem orderlyAlone_of_absent
    {node : PyDict}
    (absent : rawInput node key = none) :
    OrderlyAlone str payload node key := by
  have nothing : writtenFor str node key = [] := by rw [writtenFor, absent]
  constructor <;> simp [nothing]

theorem reference_with_edge_sound :
    BindingsSound (fun _ => "") referencePayload
      (pairWorkflow boundInput [("a", "b")]) := by
  apply (bindings_sound_iff_orderly (by rfl)).mpr
  intro raw inside key
  change raw ∈ [nodeObject "a" [],
    nodeObject "b" [("k", .dict [("from", .str "a.output.x")])]] at inside
  rcases List.mem_pair.mp inside with rfl | rfl
  · exact ⟨fun _ => orderlyAlone_of_absent rfl, fun entered => absurd rfl entered⟩
  · by_cases here : key = "k"
    · subst here
      refine ⟨fun alone => ?_, fun _ => ?_⟩
      · change [(⟨"a", "x", "b", "k"⟩ : DagEdge)] = [] at alone
        cases alone
      change OrderlyEntered [.task "a.output.x"] [⟨"a", "x", "b", "k"⟩]
      constructor
      · intro binding member
        exact ⟨_, List.mem_singleton.mpr rfl, .inl (List.mem_singleton.mp member)⟩
      · intro first member second there
        rw [List.mem_singleton.mp member, List.mem_singleton.mp there]
        exact binding_ne_shortBinding _
    · refine ⟨fun _ => orderlyAlone_of_absent ?_, fun entered => ?_⟩
      · change List.lookup key [("k", _)] = none
        simp [Dict.lookup_cons, here]
      · apply absurd _ entered
        change List.filter _ [(⟨"a", "x", "b", "k"⟩ : DagEdge)] = []
        have differs : ¬ ("k" : PyStr) = key := fun same => here same.symm
        simp [differs]

/-- A reference to an input of the run. -/
def runInputReference : PyVal :=
  .dict [("__maze_run_input__", .bool true), ("key", .str "question")]

/-- The object that binds an input to it. -/
def runInputObject : PyVal :=
  .dict [("input_schema", .str "from_run"), ("value", runInputReference)]

/--
A reference to a node that is not there is accepted, an edge takes the place of
a run input, and a reference that of the value beside it.
-/
theorem bindings_lost :
    (buildDagWorkflow (fun _ => "")
          (pairPayload (.dict [("from", .str "nope.output.y")]) []) =
        .ok (pairWorkflow ⟨"k", .fromTask, .str "nope.output.y", "any", true⟩ []) ∧
      ¬ BindingsSound (fun _ => "")
        (pairPayload (.dict [("from", .str "nope.output.y")]) [])
        (pairWorkflow ⟨"k", .fromTask, .str "nope.output.y", "any", true⟩ [])) ∧
    (buildDagWorkflow (fun _ => "") (pairPayload runInputObject [pairEdge]) =
        .ok (pairWorkflow boundInput [("a", "b")]) ∧
      ¬ BindingsSound (fun _ => "") (pairPayload runInputObject [pairEdge])
        (pairWorkflow boundInput [("a", "b")])) ∧
    (buildDagWorkflow (fun _ => "")
          (pairPayload (.dict [("from", .str "a.output.x"), ("value", .int 5)])
            [pairEdge]) =
        .ok (pairWorkflow boundInput [("a", "b")]) ∧
      ¬ BindingsSound (fun _ => "")
        (pairPayload (.dict [("from", .str "a.output.x"), ("value", .int 5)])
          [pairEdge])
        (pairWorkflow boundInput [("a", "b")])) := by
  refine ⟨⟨by rfl, ?_⟩, ⟨by rfl, ?_⟩, ⟨by rfl, ?_⟩⟩
  · intro sound
    obtain ⟨_, _, _, _, _, _, edge, _⟩ :=
      (sound (nodeObject "b" _) (List.mem_pair.mpr (.inr rfl)) "k").produced
        (.str "nope.output.y") rfl
    exact List.not_mem_nil edge
  · intro sound
    rcases (sound (nodeObject "b" _) (List.mem_pair.mpr (.inr rfl)) "k").writtenKept
      ⟨.fromRun, runInputReference⟩ List.mem_cons_self with same | ⟨_, _, same, _⟩
    · cases same
    · cases same
  · intro sound
    rcases (sound (nodeObject "b" _) (List.mem_pair.mpr (.inr rfl)) "k").writtenKept
      ⟨.fromUser, .int 5⟩ (List.mem_cons_of_mem _ List.mem_cons_self) with
        same | ⟨_, _, same, _⟩
    · cases same
    · cases same

end Maze.Core.DagSpec
