import Maze.Playground.CoreTakes

namespace Maze.Playground

open Maze.Core (DagEdge DagInput DagNode DagOutput)
open Maze.Core.DagSpec (InputMaps bindEdge buildTaskInputs edgesInto mergeEdge mergeEdges reference)
open Maze.Core.StoredSpec
open Maze.Library
open Maze.Library.Calls (exists_of_forall₂ forall₂_of_returned)
open Maze.Python

/-!
# The two compilers agree

The inputs that Core compiles from a specification of the Playground are those of the canvas,
except for one of the name `__proto__` and for numbers that JSON cannot write.
-/

/-! ## Merging the edges -/

/-- The input is bound to the output that the edge comes from. -/
structure BoundBy
    (edge : DagEdge)
    (input : DagInput) : Prop where
  key : input.key = edge.targetInput
  inputSchema : input.inputSchema = .fromTask
  value : input.value = .str (reference edge.sourceTaskId edge.sourceOutput)
  hasValue : input.hasValue = true

variable
  {entry : NodeEntry}
  {cores : List Node}
  {core : Node}
  {input : CanvasInput}
  {edge : DagEdge}
  {final : InputMaps}

/-- An edge leaves an input bound that nothing else was said of. -/
theorem mergeEdge_boundBy
    {existing : Option DagInput}
    (bound : ∀ input, existing = some input → BoundBy edge input) :
    ∃ merged, mergeEdge existing edge = .ok merged ∧ BoundBy edge merged := by
  cases existing with
  | none => exact ⟨_, rfl, rfl, rfl, rfl, rfl⟩
  | some input =>
      obtain ⟨key, inputSchema, value, hasValue⟩ := bound input rfl
      refine ⟨{ input with
        value := .str (reference edge.sourceTaskId edge.sourceOutput), hasValue := true },
        ?_, key, inputSchema, rfl, rfl⟩
      rw [mergeEdge]
      dsimp only
      rw [inputSchema]
      dsimp only
      rw [if_pos (.inl value)]

theorem mergeEdges_boundBy
    {edges : List DagEdge}
    (alike : ∀ other ∈ edges, other = edge)
    (given : edges ≠ [])
    {existing final : Option DagInput}
    (bound : ∀ input, existing = some input → BoundBy edge input)
    (returned : mergeEdges edges existing = .ok final) :
    ∃ input, final = some input ∧ BoundBy edge input := by
  induction edges generalizing existing with
  | nil => exact absurd rfl given
  | cons first rest inductionHypothesis =>
      obtain ⟨here, later⟩ := List.forall_mem_cons.mp alike
      subst here
      obtain ⟨merged, made, isBound⟩ := mergeEdge_boundBy bound
      rw [mergeEdges, made] at returned
      change mergeEdges rest (some merged) = .ok final at returned
      have boundAfter : ∀ input, some merged = some input → BoundBy first input := by
        intro input same
        exact Option.some.inj same ▸ isBound
      cases rest with
      | nil =>
          cases returned
          exact ⟨merged, rfl, isBound⟩
      | cons second others =>
          exact inductionHypothesis later (List.cons_ne_nil _ _) boundAfter returned

/-- Edges that lead into one input are the same. -/
def Alike (edges : List DagEdge) : Prop :=
  ∀ first ∈ edges, ∀ second ∈ edges, first.targetTaskId = second.targetTaskId →
    first.targetInput = second.targetInput → first = second

/-- No edge meets an input that something else was said of. -/
def Ready
    (edges : List DagEdge)
    (inputMaps : InputMaps) : Prop :=
  ∀ edge ∈ edges, ∃ inputs, inputMaps.lookup edge.targetTaskId = some inputs ∧
    ∀ input, inputs.lookup edge.targetInput = some input → BoundBy edge input

theorem bindEdge_ready
    {edges : List DagEdge}
    (alike : Alike edges)
    {inputMaps : InputMaps}
    (ready : Ready edges inputMaps)
    (member : edge ∈ edges) :
    ∃ next, bindEdge inputMaps edge = .ok next ∧ Ready edges next := by
  obtain ⟨inputs, found, bound⟩ := ready edge member
  obtain ⟨merged, made, isBound⟩ := mergeEdge_boundBy bound
  refine ⟨_, by rw [bindEdge, found]; simp only [made]; rfl, fun other there => ?_⟩
  obtain ⟨otherInputs, otherFound, otherBound⟩ := ready other there
  rw [Dict.lookup_set]
  by_cases sameTask : other.targetTaskId = edge.targetTaskId
  · rw [if_pos sameTask]
    refine ⟨_, rfl, fun input isInput => ?_⟩
    rw [Dict.lookup_set] at isInput
    by_cases sameInput : other.targetInput = edge.targetInput
    · rw [if_pos sameInput] at isInput
      rw [alike other there edge member sameTask sameInput]
      exact Option.some.inj isInput ▸ isBound
    · rw [if_neg sameInput] at isInput
      rw [sameTask, found] at otherFound
      exact otherBound input (Option.some.inj otherFound ▸ isInput)
  · rw [if_neg sameTask]
    exact ⟨otherInputs, otherFound, otherBound⟩

theorem bindEdges_ready
    {edges : List DagEdge}
    (alike : Alike edges)
    {part : List DagEdge}
    (inside : part ⊆ edges)
    {inputMaps : InputMaps}
    (ready : Ready edges inputMaps) :
    ∃ final, part.foldlM bindEdge inputMaps = .ok final := by
  induction part generalizing inputMaps with
  | nil => exact ⟨inputMaps, rfl⟩
  | cons first rest inductionHypothesis =>
      obtain ⟨next, bound, readyNext⟩ := bindEdge_ready alike ready (inside List.mem_cons_self)
      obtain ⟨final, later⟩ :=
        inductionHypothesis (fun _ there => inside (List.mem_cons_of_mem _ there)) readyNext
      refine ⟨final, ?_⟩
      rw [List.foldlM_cons, bound]
      exact later

/-! ## The inputs of a node -/

/-- The compiled input is that of the canvas. -/
def IsCanvasInput
    (input : CanvasInput)
    (compiled : DagInput) : Prop :=
  compiled.key = input.name ∧
    match input.source with
    | .user value =>
        compiled.inputSchema = .fromUser ∧ compiled.hasValue = value.isSome ∧
          (value.getD .null).Same compiled.value
    | .task taskId output =>
        compiled.inputSchema = .fromTask ∧ compiled.hasValue = true ∧
          compiled.value = .str (reference taskId output)

/-- The inputs of a task are those of its node on the canvas. -/
structure NodeInputsKept
    (inputs : List CanvasInput)
    (taskInput : List (PyStr × DagInput)) : Prop where
  each : ∀ input ∈ inputs,
    ∃ compiled, taskInput.lookup input.name = some compiled ∧ IsCanvasInput input compiled
  others : ∀ name, name ∉ inputs.map CanvasInput.name → taskInput.lookup name = none

/-- The tasks of the workflow are the nodes of the canvas, with their inputs. -/
def InputsKept
    (workflow : JsVal)
    (built : BuiltWorkflow) : Prop :=
  (built.tasks.map fun task => task.taskId) = (canvasNodes workflow).map CanvasNode.nodeId ∧
    ∀ node ∈ canvasNodes workflow, ∀ task ∈ built.tasks, task.taskId = node.nodeId →
      NodeInputsKept node.inputs task.taskInput

/-- Every input that is not bound to a task has its entry in the specification. -/
def UserInputsKept
    (workflow : JsVal)
    (spec : Spec) : Prop :=
  ∀ node ∈ canvasNodes workflow, ∀ input ∈ node.inputs, ∀ value, input.source = .user value →
    ∃ specNode ∈ spec.nodes, specNode.nodeId = node.nodeId ∧
      ∃ dataType, specNode.inputs.lookup input.name =
        some ⟨input.name, .fromUser, value, dataType, value.isSome⟩

/-- No input that is not bound to a task has the name that an object literal does not set. -/
def UserInputsNamed (workflow : JsVal) : Prop :=
  ∀ node ∈ canvasNodes workflow, ∀ input ∈ node.inputs, ∀ value, input.source = .user value →
    input.name ≠ protoKey

/-- What keeps the inputs of a canvas as they are. -/
structure Orderly (workflow : JsVal) : Prop where
  named : UserInputsNamed workflow
  finite : ∀ node ∈ canvasNodes workflow, ∀ input ∈ node.inputs, ∀ value,
    input.source = .user (some value) → value.finite = true
  single : ∀ node ∈ canvasNodes workflow, ∀ first ∈ node.inputs, ∀ second ∈ node.inputs,
    first.name = protoKey → second.name = protoKey → first.source = second.source

/-- What the two compilers make of a canvas is the canvas. -/
structure Agree
    (str : PyVal → PyStr)
    (workflow : JsVal)
    (spec : Spec) : Prop where
  edges : spec.edges = bindings (canvasNodes workflow)
  userInputs : UserInputsKept workflow spec
  built : ∃ built, buildDagWorkflow str (.json spec.toJson) = .ok built ∧ InputsKept workflow built

section Agreement

variable {workflow : JsVal} {spec : Spec} {nodeMap : List NodeEntry}

theorem CompiledSpec.canvasNode
    (compiled : CompiledSpec workflow spec nodeMap)
    (member : entry ∈ nodeMap) :
    canvasNodeOf entry ∈ canvasNodes workflow := by
  rw [compiled.canvas]
  exact List.mem_map_of_mem member

theorem CompiledSpec.entry_eq
    (compiled : CompiledSpec workflow spec nodeMap)
    {first second : NodeEntry}
    (firstMember : first ∈ nodeMap)
    (secondMember : second ∈ nodeMap)
    (same : first.compiled.nodeId = second.compiled.nodeId) :
    first = second :=
  List.inj_on_of_nodup_map compiled.distinct firstMember secondMember same

theorem CompiledSpec.inputs
    (compiled : CompiledSpec workflow spec nodeMap)
    (member : entry ∈ nodeMap) :
    ∃ node ∈ spec.nodes, node.nodeId = entry.compiled.nodeId ∧
      Compiled nodeMap entry.compiled.nodeId (canvasInputs (some entry.data)) node.inputs := by
  obtain ⟨node, inNodes, isNode, made⟩ := exists_of_forall₂ compiled.nodes.flip member
  exact ⟨node, inNodes, by rw [isNode], made⟩

/-- Two inputs of one name have the name that is not set. -/
theorem CompiledSpec.sameName
    (compiled : CompiledSpec workflow spec nodeMap)
    (member : entry ∈ nodeMap)
    {first second : CanvasInput}
    (firstMember : first ∈ canvasInputs (some entry.data))
    (secondMember : second ∈ canvasInputs (some entry.data))
    (differ : first ≠ second)
    (same : first.name = second.name) :
    first.name = protoKey := by
  obtain ⟨node, _, _, made⟩ := compiled.inputs member
  have symmetric : Std.Symm fun one other : CanvasInput =>
      one.name = other.name → one.name = protoKey :=
    ⟨fun _ _ implies turned => turned.trans (implies turned.symm)⟩
  exact made.single.forall firstMember secondMember differ same

/-- The edges into a node are those of its inputs. -/
theorem CompiledSpec.mem_edgesInto
    (compiled : CompiledSpec workflow spec nodeMap)
    (member : entry ∈ nodeMap)
    {name : PyStr}
    {edge : DagEdge} :
    edge ∈ edgesInto spec.edges entry.compiled.nodeId name ↔
      ∃ input ∈ canvasInputs (some entry.data), edgeOf entry.compiled.nodeId input = some edge ∧
        input.name = name := by
  have named : ∀ {nodeId input}, edgeOf nodeId input = some edge →
      edge.targetInput = input.name := by
    intro nodeId input isEdge
    unfold edgeOf at isEdge
    split at isEdge
    · cases isEdge
    · cases isEdge
      rfl
  rw [edgesInto, List.mem_filter, decide_eq_true_eq, compiled.edges]
  constructor
  · rintro ⟨inside, target, isName⟩
    obtain ⟨other, _, inEntries, _, ofOther⟩ := compiled.binding inside
    obtain ⟨input, inInputs, isEdge⟩ := List.mem_filterMap.mp ofOther
    obtain rfl := compiled.entry_eq inEntries member ((edgeOf_target isEdge).symm.trans target)
    exact ⟨input, inInputs, isEdge, (named isEdge).symm.trans isName⟩
  · rintro ⟨input, inInputs, isEdge, isName⟩
    refine ⟨?_, edgeOf_target isEdge, (named isEdge).trans isName⟩
    exact List.mem_flatMap.mpr ⟨_, compiled.canvasNode member,
      List.mem_filterMap.mpr ⟨input, inInputs, isEdge⟩⟩

/-- Edges into one input are the same, if inputs of the name that is not set are. -/
theorem CompiledSpec.alike
    (compiled : CompiledSpec workflow spec nodeMap)
    (orderly : Orderly workflow) :
    Alike spec.edges := by
  intro first inFirst second inSecond sameTask sameInput
  rw [compiled.edges] at inFirst
  obtain ⟨entry, _, member, _, ofEntry⟩ := compiled.binding inFirst
  obtain ⟨_, _, isEdge⟩ := List.mem_filterMap.mp ofEntry
  have target := edgeOf_target isEdge
  have firstInto : first ∈ edgesInto spec.edges entry.compiled.nodeId first.targetInput :=
    List.mem_filter.mpr ⟨compiled.edges ▸ inFirst, by simp [target]⟩
  have secondInto : second ∈ edgesInto spec.edges entry.compiled.nodeId first.targetInput :=
    List.mem_filter.mpr ⟨inSecond, by simp [← sameTask, target, sameInput]⟩
  obtain ⟨one, inOne, isFirst, oneName⟩ := (compiled.mem_edgesInto member).mp firstInto
  obtain ⟨other, inOther, isSecond, otherName⟩ := (compiled.mem_edgesInto member).mp secondInto
  have same : one = other := by
    by_contra differ
    have isProto := compiled.sameName member inOne inOther differ (oneName.trans otherName.symm)
    have otherProto := otherName.trans (oneName.symm.trans isProto)
    have sources := orderly.single _ (compiled.canvasNode member) one inOne other inOther isProto
      otherProto
    exact differ (CanvasInput.ext (oneName.trans otherName.symm) sources)
  exact Option.some.inj (isFirst.symm.trans (same ▸ isSecond))

/-! ## What Core compiles -/

variable {str : PyVal → PyStr}

theorem TakenNode.lookup_input
    (taken : TakenNode str nodeMap entry core)
    (member : input ∈ canvasInputs (some entry.data))
    (named : input.name ≠ protoKey) :
    ∃ dataType, core.inputs.lookup input.name = some (coreInput (specInput input dataType)) := by
  obtain ⟨node, ⟨_, made⟩, isTaken⟩ := taken
  obtain ⟨dataType, found⟩ := made.entry input member named
  refine ⟨dataType, ?_⟩
  rw [isTaken.inputs, Dict.lookup_map node.inputs (fun _ value => coreInput value), found]
  rfl

theorem TakenNode.lookup_some
    (taken : TakenNode str nodeMap entry core)
    {name : PyStr}
    {compiled : DagInput}
    (found : core.inputs.lookup name = some compiled) :
    name ≠ protoKey ∧ ∃ input ∈ canvasInputs (some entry.data), input.name = name ∧
      ∃ dataType, compiled = coreInput (specInput input dataType) := by
  obtain ⟨node, ⟨_, made⟩, isTaken⟩ := taken
  rw [isTaken.inputs, Dict.lookup_map node.inputs (fun _ value => coreInput value),
    Option.map_eq_some_iff] at found
  obtain ⟨value, found, rfl⟩ := found
  obtain ⟨named, input, member, isName⟩ := made.origin name value found
  obtain ⟨dataType, given⟩ := made.entry input member (isName ▸ named)
  rw [isName, found] at given
  exact ⟨named, input, member, isName, dataType, by rw [Option.some.inj given]⟩

theorem boundBy_specInput
    {nodeId : PyStr}
    (isEdge : edgeOf nodeId input = some edge)
    (dataType : PyStr) :
    BoundBy edge (coreInput (specInput input dataType)) := by
  obtain ⟨name, source⟩ := input
  cases source with
  | user value => cases isEdge
  | task taskId output =>
      cases isEdge
      exact ⟨rfl, rfl, rfl, rfl⟩

theorem core_of_entry
    {entries : List NodeEntry}
    (taken : List.Forall₂ (TakenNode str nodeMap) entries cores)
    (member : entry ∈ entries) :
    ∃ core ∈ cores, TakenNode str nodeMap entry core :=
  exists_of_forall₂ taken.flip member

theorem lookup_nodes
    (compiled : CompiledSpec workflow spec nodeMap)
    (taken : List.Forall₂ (TakenNode str nodeMap) nodeMap cores)
    (member : core ∈ cores) :
    ((cores.map Node.toDagNode).map fun node => (node.nodeId, node.inputs)).lookup core.nodeId =
      some core.inputs := by
  rw [List.map_map]
  have distinct : (cores.map fun core => core.nodeId).Nodup := by
    rw [nodeIds_taken taken]
    exact compiled.distinct
  exact Core.DagSpec.lookup_map_of_mem distinct (fun core : Node => core.inputs) member

/-- At first no edge meets an input that something else was said of. -/
theorem ready_nodes
    (compiled : CompiledSpec workflow spec nodeMap)
    (taken : List.Forall₂ (TakenNode str nodeMap) nodeMap cores) :
    Ready spec.edges
      ((cores.map Node.toDagNode).map fun node => (node.nodeId, node.inputs)) := by
  intro edge inside
  have inBindings := compiled.edges ▸ inside
  obtain ⟨entry, _, member, _, ofEntry⟩ := compiled.binding inBindings
  obtain ⟨input, inInputs, isEdge⟩ := List.mem_filterMap.mp ofEntry
  obtain ⟨core, inCores, isTaken⟩ := core_of_entry taken member
  have target := edgeOf_target isEdge
  refine ⟨core.inputs, ?_, fun found isFound => ?_⟩
  · rw [target, ← isTaken.nodeId]
    exact lookup_nodes compiled taken inCores
  · obtain ⟨named, other, inOther, isName, dataType, rfl⟩ := isTaken.lookup_some isFound
    have into : edge ∈ edgesInto spec.edges entry.compiled.nodeId edge.targetInput :=
      List.mem_filter.mpr ⟨inside, by simp [target]⟩
    obtain ⟨own, inOwn, ownEdge, ownName⟩ := (compiled.mem_edgesInto member).mp into
    have same : other = own := by
      by_contra differ
      apply named
      rw [← isName]
      exact compiled.sameName member inOther inOwn differ (isName.trans ownName.symm)
    exact boundBy_specInput (same ▸ ownEdge) dataType

/-- What the inputs of a node are when the edges are merged into them. -/
theorem merged_inputs
    (compiled : CompiledSpec workflow spec nodeMap)
    (taken : List.Forall₂ (TakenNode str nodeMap) nodeMap cores)
    (built : buildTaskInputs ⟨cores.map Node.toDagNode, spec.edges⟩ = .ok final)
    (member : core ∈ cores) :
    ∃ inputs, final.lookup core.nodeId = some inputs ∧
      ∀ name, mergeEdges (edgesInto spec.edges core.nodeId name) (core.inputs.lookup name) =
        .ok (inputs.lookup name) := by
  have found := lookup_nodes compiled taken member
  obtain ⟨inputs, isFinal, _⟩ := Core.DagSpec.bindEdges_lookup built found protoKey
  refine ⟨inputs, isFinal, fun name => ?_⟩
  obtain ⟨others, isOthers, merged⟩ := Core.DagSpec.bindEdges_lookup built found name
  rw [isFinal] at isOthers
  exact Option.some.inj isOthers ▸ merged

/-- An input that is not bound to a task stays as it is written. -/
theorem merged_user
    (compiled : CompiledSpec workflow spec nodeMap)
    (member : entry ∈ nodeMap)
    (taken : TakenNode str nodeMap entry core)
    {inputs : List (PyStr × DagInput)}
    (merged : ∀ name, mergeEdges (edgesInto spec.edges core.nodeId name)
      (core.inputs.lookup name) = .ok (inputs.lookup name))
    (inInputs : input ∈ canvasInputs (some entry.data))
    {value : Option JsVal}
    (isUser : input.source = .user value)
    (named : input.name ≠ protoKey) :
    ∃ dataType, inputs.lookup input.name = some (coreInput (specInput input dataType)) := by
  have nothing : edgesInto spec.edges core.nodeId input.name = [] := by
    rw [taken.nodeId, List.eq_nil_iff_forall_not_mem]
    intro edge into
    obtain ⟨other, inOther, isEdge, isName⟩ := (compiled.mem_edgesInto member).mp into
    have differ : other ≠ input := by
      rintro rfl
      rw [edgeOf, isUser] at isEdge
      cases isEdge
    exact named (isName ▸ compiled.sameName member inOther inInputs differ isName)
  obtain ⟨dataType, found⟩ := taken.lookup_input inInputs named
  have kept := merged input.name
  rw [nothing, mergeEdges, found] at kept
  exact ⟨dataType, (Except.ok.inj kept).symm⟩

theorem isCanvasInput_user
    {value : Option JsVal}
    (isUser : input.source = .user value)
    (dataType : PyStr) :
    IsCanvasInput input (coreInput (specInput input dataType)) ↔
      ∀ found, value = some found → found.finite = true := by
  rw [IsCanvasInput, specInput, isUser]
  cases value with
  | none => simp [coreInput, JsVal.Same]
  | some found => simp [coreInput, JsVal.same_iff]

/-- The inputs of an orderly canvas are those of the tasks. -/
theorem nodeInputsKept_of_orderly
    (compiled : CompiledSpec workflow spec nodeMap)
    (orderly : Orderly workflow)
    (all : List.Forall₂ (TakenNode str nodeMap) nodeMap cores)
    (member : entry ∈ nodeMap)
    (inCores : core ∈ cores)
    (taken : TakenNode str nodeMap entry core)
    {inputs : List (PyStr × DagInput)}
    (merged : ∀ name, mergeEdges (edgesInto spec.edges core.nodeId name)
      (core.inputs.lookup name) = .ok (inputs.lookup name)) :
    NodeInputsKept (canvasInputs (some entry.data)) inputs := by
  have onCanvas := compiled.canvasNode member
  constructor
  · intro input inInputs
    cases isSource : input.source with
    | user value =>
        have named := orderly.named _ onCanvas input inInputs value isSource
        obtain ⟨dataType, found⟩ :=
          merged_user compiled member taken merged inInputs isSource named
        refine ⟨_, found, (isCanvasInput_user isSource dataType).mpr fun given isGiven => ?_⟩
        exact orderly.finite _ onCanvas input inInputs given (isGiven ▸ isSource)
    | task taskId output =>
        let edge : DagEdge := ⟨taskId, output, entry.compiled.nodeId, input.name⟩
        have isEdge : edgeOf entry.compiled.nodeId input = some edge := by
          rw [edgeOf, isSource]
        have into : edge ∈ edgesInto spec.edges core.nodeId input.name := by
          rw [taken.nodeId]
          exact (compiled.mem_edgesInto member).mpr ⟨input, inInputs, isEdge, rfl⟩
        have alike : ∀ other ∈ edgesInto spec.edges core.nodeId input.name, other = edge := by
          intro other there
          obtain ⟨inOther, isOther⟩ := List.mem_filter.mp there
          obtain ⟨inEdge, isHere⟩ := List.mem_filter.mp into
          rw [decide_eq_true_eq] at isOther isHere
          exact compiled.alike orderly other inOther edge inEdge
            (isOther.1.trans isHere.1.symm) (isOther.2.trans isHere.2.symm)
        have bound : ∀ found, core.inputs.lookup input.name = some found → BoundBy edge found := by
          intro found isFound
          obtain ⟨start, isStart, ready⟩ :=
            ready_nodes compiled all edge (List.mem_filter.mp into).1
          have here := lookup_nodes compiled all inCores
          rw [taken.nodeId] at here
          exact ready found (Option.some.inj (here.symm.trans isStart) ▸ isFound)
        obtain ⟨final, isFinal, isBound⟩ :=
          mergeEdges_boundBy alike (List.ne_nil_of_mem into) bound (merged input.name)
        refine ⟨final, isFinal, isBound.key, ?_⟩
        rw [isSource]
        exact ⟨isBound.inputSchema, isBound.hasValue, isBound.value⟩
  · intro name absent
    have nothing : edgesInto spec.edges core.nodeId name = [] := by
      rw [taken.nodeId, List.eq_nil_iff_forall_not_mem]
      intro edge into
      obtain ⟨input, inInputs, _, isName⟩ := (compiled.mem_edgesInto member).mp into
      exact absent (isName ▸ List.mem_map_of_mem inInputs)
    have unwritten : core.inputs.lookup name = none := by
      rw [Option.eq_none_iff_forall_ne_some]
      intro found isFound
      obtain ⟨_, input, inInputs, isName, _⟩ := taken.lookup_some isFound
      exact absent (isName ▸ List.mem_map_of_mem inInputs)
    have kept := merged name
    rw [nothing, mergeEdges, unwritten] at kept
    exact (Except.ok.inj kept).symm

/-! ## The workflow that is built -/

/-- The tasks that are built have the inputs that were merged. -/
theorem tasks_of_built
    {payload : Obj}
    {core : Core.StoredSpec.Spec}
    {built : BuiltWorkflow}
    (accepted : dagSpecFromPayload str payload = .ok core)
    (returned : buildDagWorkflow str payload = .ok built) :
    ∃ final, buildTaskInputs ⟨core.nodes.map Node.toDagNode, core.edges⟩ = .ok final ∧
      List.Forall₂ (fun node task =>
        task.taskId = node.nodeId ∧ task.taskInput = (final.lookup node.nodeId).getD [])
          core.nodes built.tasks := by
  obtain ⟨spec, isSpec, returned⟩ := bind_eq_ok.mp returned
  obtain rfl := Except.ok.inj (accepted.symm.trans isSpec)
  obtain ⟨final, isFinal, returned⟩ := bind_eq_ok.mp returned
  obtain ⟨tasks, saved, same⟩ := bind_eq_ok.mp returned
  cases same
  refine ⟨final, isFinal, (forall₂_of_returned saved).imp fun node task isTask => ?_⟩
  obtain ⟨_, _, isTask⟩ := bind_eq_ok.mp isTask
  obtain ⟨_, _, same⟩ := bind_eq_ok.mp isTask
  cases same
  exact ⟨rfl, rfl⟩

theorem build_of_inputs
    {payload : Obj}
    {core : Core.StoredSpec.Spec}
    (accepted : dagSpecFromPayload str payload = .ok core)
    (merged : buildTaskInputs ⟨core.nodes.map Node.toDagNode, core.edges⟩ = .ok final)
    (saved : ∀ node ∈ core.nodes, ∀ taskInput, ∃ task, saveTask str taskInput node = .ok task) :
    ∃ built, buildDagWorkflow str payload = .ok built := by
  obtain ⟨tasks, isTasks⟩ := mapM_of_forall fun node member =>
    saved node member ((final.lookup node.nodeId).getD [])
  exact ⟨_, bind_eq_ok.mpr ⟨core, accepted, bind_eq_ok.mpr ⟨final, merged,
    bind_eq_ok.mpr ⟨tasks, isTasks, rfl⟩⟩⟩⟩

/-- A task that is built is made of an entry. -/
theorem entry_of_task
    {entries : List NodeEntry}
    {tasks : List Task}
    (taken : List.Forall₂ (TakenNode str nodeMap) entries cores)
    (saved : List.Forall₂ (fun node task =>
      task.taskId = node.nodeId ∧ task.taskInput = (final.lookup node.nodeId).getD []) cores tasks)
    {task : Task}
    (member : task ∈ tasks) :
    ∃ entry ∈ entries, ∃ core ∈ cores, TakenNode str nodeMap entry core ∧
      task.taskId = entry.compiled.nodeId ∧
        task.taskInput = (final.lookup core.nodeId).getD [] := by
  obtain ⟨core, inCores, isTask, isInput⟩ := exists_of_forall₂ saved member
  obtain ⟨entry, inEntries, isTaken⟩ := exists_of_forall₂ taken inCores
  exact ⟨entry, inEntries, core, inCores, isTaken, isTask.trans isTaken.nodeId, isInput⟩

theorem taskIds_eq
    (compiled : CompiledSpec workflow spec nodeMap)
    {tasks : List Task}
    (taken : List.Forall₂ (TakenNode str nodeMap) nodeMap cores)
    (saved : List.Forall₂
      (fun node task =>
        task.taskId = node.nodeId ∧ task.taskInput = (final.lookup node.nodeId).getD [])
      cores tasks) :
    (tasks.map fun task => task.taskId) = (canvasNodes workflow).map CanvasNode.nodeId := by
  have ofCores : (tasks.map fun task => task.taskId) = cores.map fun core => core.nodeId := by
    clear taken
    induction saved with
    | nil => rfl
    | cons here _ inductionHypothesis =>
        rw [List.map_cons, List.map_cons, here.1, inductionHypothesis]
  rw [ofCores, nodeIds_taken taken, compiled.canvas, List.map_map]
  rfl

/-! ## References -/

/-- A reference says which task and which output it is of. -/
theorem reference_inj
    {firstTask secondTask firstOutput secondOutput : PyStr}
    (isFirst : Core.DagSpec.isNodeId firstTask = true)
    (isSecond : Core.DagSpec.isNodeId secondTask = true)
    (same : reference firstTask firstOutput = reference secondTask secondOutput) :
    firstTask = secondTask ∧ firstOutput = secondOutput := by
  have noDot : ∀ {nodeId : PyStr}, Core.DagSpec.isNodeId nodeId = true →
      Core.DagSpec.dot ∉ nodeId.chars := by
    intro nodeId valid inside
    obtain ⟨chars⟩ := nodeId
    cases chars with
    | nil => cases inside
    | cons first rest =>
        simp only [Core.DagSpec.isNodeId, Bool.and_eq_true, List.all_eq_true] at valid
        rcases List.mem_cons.mp inside with rfl | inside
        · exact absurd valid.1.1 (by decide)
        · exact absurd (valid.1.2 _ inside) (by decide)
  have chars := congrArg PyStr.chars same
  simp only [reference, PyStr.append_chars, List.append_assoc, List.singleton_append] at chars
  have parts := congrArg (PyStr.parts Core.DagSpec.dot) chars
  rw [PyStr.parts_append (noDot isFirst), PyStr.parts_append (noDot isSecond)] at parts
  have tasks : firstTask.chars = secondTask.chars := (List.cons.inj parts).1
  rw [tasks] at chars
  have rest := List.append_cancel_left chars
  simp only [List.cons.injEq, true_and] at rest
  have outputs := List.append_cancel_left rest
  simp only [List.cons.injEq, true_and] at outputs
  constructor
  · cases firstTask
    cases secondTask
    exact congrArg PyStr.mk tasks
  · cases firstOutput
    cases secondOutput
    exact congrArg PyStr.mk outputs

/-! ## The agreement -/

/-- An entry is set for each input that is not bound to a task, but for one of the name. -/
theorem userInputsKept_iff (compiled : CompiledSpec workflow spec nodeMap) :
    UserInputsKept workflow spec ↔ UserInputsNamed workflow := by
  constructor
  · rintro kept node inCanvas input inInputs value isUser
    obtain ⟨specNode, inNodes, _, dataType, found⟩ :=
      kept node inCanvas input inInputs value isUser
    obtain ⟨_, _, _, made⟩ := exists_of_forall₂ compiled.nodes inNodes
    exact (made.origin _ _ found).1
  · intro named node inCanvas input inInputs value isUser
    have isNamed := named node inCanvas input inInputs value isUser
    rw [compiled.canvas] at inCanvas
    obtain ⟨entry, member, rfl⟩ := List.mem_map.mp inCanvas
    obtain ⟨specNode, inNodes, isNode, made⟩ := compiled.inputs member
    obtain ⟨dataType, found⟩ := made.entry input inInputs isNamed
    refine ⟨specNode, inNodes, isNode, dataType, ?_⟩
    rw [found, specInput, isUser]

/-- The source of an input is a node of the workflow. -/
theorem isNodeId_source
    (compiled : CompiledSpec workflow spec nodeMap)
    (member : entry ∈ nodeMap)
    (inInputs : input ∈ canvasInputs (some entry.data))
    {taskId output : PyStr}
    (isSource : input.source = .task taskId output) :
    Core.DagSpec.isNodeId taskId = true := by
  obtain ⟨_, _, _, made⟩ := compiled.inputs member
  have isEdge : edgeOf entry.compiled.nodeId input =
      some ⟨taskId, output, entry.compiled.nodeId, input.name⟩ := by
    rw [edgeOf, isSource]
  obtain ⟨_, _, source, found, _⟩ := made.known _ (List.mem_filterMap.mpr ⟨input, inInputs, isEdge⟩)
  have isNode : source.compiled.nodeId = taskId := by
    simpa using List.find?_some found
  exact isNode ▸ (compiled.wellFormed source (List.mem_of_find?_eq_some found)).nodeId

theorem agree_of_orderly
    (compiled : CompiledSpec workflow spec nodeMap)
    (acyclic : AcyclicBindings workflow)
    (settings : AllSettingsAccepted str spec)
    (orderly : Orderly workflow) :
    Agree str workflow spec := by
  refine ⟨compiled.edges, (userInputsKept_iff compiled).mpr orderly.named, ?_⟩
  obtain ⟨core, accepted, taken, sameEdges⟩ := dagSpec_taken compiled acyclic settings
  obtain ⟨final, merged⟩ := bindEdges_ready (compiled.alike orderly) (List.Subset.refl _)
    (ready_nodes compiled taken)
  have merging : buildTaskInputs ⟨core.nodes.map Node.toDagNode, core.edges⟩ = .ok final := by
    rw [sameEdges]
    exact merged
  have saved : ∀ node ∈ core.nodes, ∀ taskInput,
      ∃ task, saveTask str taskInput node = .ok task := by
    intro node member
    obtain ⟨_, _, _, _, isTaken⟩ := exists_of_forall₂ taken member
    exact isTaken.saved
  obtain ⟨built, isBuilt⟩ := build_of_inputs accepted merging saved
  obtain ⟨other, isOther, tasks⟩ := tasks_of_built accepted isBuilt
  obtain rfl := Except.ok.inj (merging.symm.trans isOther)
  refine ⟨built, isBuilt, taskIds_eq compiled taken tasks, ?_⟩
  intro node inCanvas task inTasks same
  obtain ⟨entry, member, coreNode, inCores, isTaken, isTask, isInput⟩ :=
    entry_of_task taken tasks inTasks
  rw [compiled.canvas] at inCanvas
  obtain ⟨canvasEntry, inEntries, rfl⟩ := List.mem_map.mp inCanvas
  obtain rfl := compiled.entry_eq member inEntries (isTask.symm.trans same)
  obtain ⟨inputs, found, mergedInputs⟩ :=
    merged_inputs compiled taken (sameEdges ▸ merging) inCores
  rw [isInput, found]
  exact nodeInputsKept_of_orderly compiled orderly taken member inCores isTaken mergedInputs

theorem orderly_of_agree
    (compiled : CompiledSpec workflow spec nodeMap)
    (acyclic : AcyclicBindings workflow)
    (settings : AllSettingsAccepted str spec)
    (agree : Agree str workflow spec) :
    Orderly workflow := by
  have named := (userInputsKept_iff compiled).mp agree.userInputs
  obtain ⟨built, isBuilt, taskIds, kept⟩ := agree.built
  obtain ⟨core, accepted, taken, sameEdges⟩ := dagSpec_taken compiled acyclic settings
  obtain ⟨final, merging, tasks⟩ := tasks_of_built accepted isBuilt
  have taskOf : ∀ node ∈ canvasNodes workflow, ∃ task ∈ built.tasks, task.taskId = node.nodeId := by
    intro node inCanvas
    have member := List.mem_map_of_mem inCanvas (f := CanvasNode.nodeId)
    rw [← taskIds] at member
    exact List.mem_map.mp member
  refine ⟨named, ?_, ?_⟩
  · intro node inCanvas input inInputs value isUser
    obtain ⟨task, inTasks, isTask⟩ := taskOf node inCanvas
    obtain ⟨compiledInput, isCompiled, isInput⟩ :=
      (kept node inCanvas task inTasks isTask).each input inInputs
    have isNamed := named node inCanvas input inInputs _ isUser
    obtain ⟨entry, member, coreNode, inCores, isTaken, ofEntry, taskInput⟩ :=
      entry_of_task taken tasks inTasks
    rw [compiled.canvas] at inCanvas
    obtain ⟨canvasEntry, inEntries, rfl⟩ := List.mem_map.mp inCanvas
    obtain rfl := compiled.entry_eq member inEntries (ofEntry.symm.trans isTask)
    obtain ⟨inputs, found, merged⟩ := merged_inputs compiled taken (sameEdges ▸ merging) inCores
    obtain ⟨dataType, isFinal⟩ := merged_user compiled member isTaken merged inInputs isUser isNamed
    rw [taskInput, found, Option.getD_some, isFinal] at isCompiled
    obtain rfl := Option.some.inj isCompiled
    exact (isCanvasInput_user isUser dataType).mp isInput value rfl
  · intro node inCanvas first inFirst second inSecond firstName secondName
    obtain ⟨task, inTasks, isTask⟩ := taskOf node inCanvas
    have keptHere := kept node inCanvas task inTasks isTask
    obtain ⟨one, isOne, ofFirst⟩ := keptHere.each first inFirst
    obtain ⟨other, isOther, ofSecond⟩ := keptHere.each second inSecond
    rw [firstName] at isOne
    rw [secondName, isOne] at isOther
    obtain rfl := Option.some.inj isOther
    cases firstSource : first.source with
    | user value => exact absurd firstName (named node inCanvas first inFirst value firstSource)
    | task firstTask firstOutput =>
        cases secondSource : second.source with
        | user value =>
            exact absurd secondName (named node inCanvas second inSecond value secondSource)
        | task secondTask secondOutput =>
            rw [IsCanvasInput, firstSource] at ofFirst
            rw [IsCanvasInput, secondSource] at ofSecond
            have same := PyVal.str.inj (ofFirst.2.2.2.symm.trans ofSecond.2.2.2)
            rw [compiled.canvas] at inCanvas
            obtain ⟨entry, member, rfl⟩ := List.mem_map.mp inCanvas
            obtain ⟨rfl, rfl⟩ := reference_inj
              (isNodeId_source compiled member inFirst firstSource)
              (isNodeId_source compiled member inSecond secondSource) same
            rfl

end Agreement

/-! ### A consumer and its producer -/

/-- An object with the given properties. -/
def objectOf (properties : List (String × JsVal)) : JsVal :=
  .object (properties.map fun property => (PyStr.ofString property.1, property.2))

/-- A text. -/
def textOf (value : String) : JsVal :=
  .str (PyStr.ofString value)

/-- A node with an output and the given inputs. -/
def nodeOf
    (nodeId : String)
    (inputs : List JsVal) :
    JsVal :=
  objectOf
    [("id", textOf nodeId),
      ("data", objectOf
        [("configured", .bool true), ("category", textOf "custom"), ("inputs", .array inputs),
          ("outputs", .array [objectOf [("name", textOf "x")]])])]

/-- An input that is bound to the producer. -/
def boundToProducer (name : String) : JsVal :=
  objectOf
    [("name", textOf name), ("source", textOf "task"),
      ("taskSource", objectOf [("taskId", textOf "a"), ("outputKey", textOf "x")])]

/-- An input that has a value. -/
def literalInput (name : String) : JsVal :=
  objectOf [("name", textOf name), ("source", textOf "user"), ("value", textOf "hello")]

/-- A producer and a consumer with the given inputs, and the connections between them. -/
def pairCanvas (inputs connections : List JsVal) : JsVal :=
  objectOf
    [("nodes", .array [nodeOf "a" [], nodeOf "b" inputs]), ("edges", .array connections)]

/-- A connection between the two, of which no handle is given. -/
def connection : JsVal :=
  objectOf [("source", textOf "a"), ("target", textOf "b")]

/-- Every custom task has the same code. -/
def customCode : PyStr → Option JsVal :=
  fun _ => some (objectOf [("codeStr", textOf "def task(): pass")])

def noConversions : Conversions where
  string _ := none
  positive _ := none

/-- A node as it is compiled. -/
def compiledNode
    (nodeId : String)
    (inputs : List (PyStr × SpecInput)) :
    SpecNode where
  nodeId := nodeId
  taskName := nodeId
  inputs := inputs
  outputs := [⟨"x", "any"⟩]
  resources :=
    ⟨.number (.finite false ⟨1, 0, Decimal.one_shortest⟩),
      .number (.finite false ⟨0, 0, Decimal.zero_shortest⟩),
      .number (.finite false ⟨0, 0, Decimal.zero_shortest⟩)⟩
  taskKind := "cpu"
  modelAnchor := .null
  fileContext := .null
  maxRetries := .null
  retryBackoffSeconds := .number (.finite false ⟨0, 0, Decimal.zero_shortest⟩)
  retryOn := .null
  timeoutSeconds := .null
  metadata := [("playground_category", textOf "custom")]
  codeStr := some "def task(): pass"
  codeSer := none

/-- What is compiled of the two. -/
def pairSpec
    (inputs : List (PyStr × SpecInput))
    (edges : List DagEdge) :
    Spec where
  name := "workflow"
  description := .null
  nodes := [compiledNode "a" [], compiledNode "b" inputs]
  edges := edges
  run := ⟨.null, .bool true, .null, .null, [], []⟩
  metadata := []

theorem settings_pairSpec
    (inputs : List (PyStr × SpecInput))
    (edges : List DagEdge) :
    AllSettingsAccepted (fun _ => "") (pairSpec inputs edges) := by
  have settled : Core.TaskSemantics.normalizeTaskSemantics (fun _ => "") (.str "cpu")
      [("cpu_num", .int 1), ("gpu_mem", .int 0), ("io_num", .int 0)] [] =
        .ok (.cpu, [("cpu_num", .int 1), ("gpu_mem", .int 0), ("io_num", .int 0)]) := by
    decide +kernel
  have node (nodeId : String) (inputs : List (PyStr × SpecInput)) :
      SettingsAccepted (fun _ => "") (compiledNode nodeId inputs) :=
    ⟨⟨[], _, rfl, settled⟩, ⟨_, rfl⟩, ⟨_, rfl⟩, ⟨_, rfl⟩, ⟨_, rfl⟩⟩
  refine ⟨fun one member => ?_, _, rfl⟩
  rcases List.mem_pair.mp member with rfl | rfl
  · exact node "a" []
  · exact node "b" inputs

end Maze.Playground
