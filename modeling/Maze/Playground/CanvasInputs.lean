import Maze.Library.Calls
import Maze.Playground.DagCompiler

namespace Maze.Playground

open Maze.Core (DagEdge DagOutput)
open Maze.Library
open Maze.Library.Calls (exists_of_forall₂ forall₂_of_mapM)
open Maze.Python

/-!
# The inputs of a canvas

What the inputs of a workflow say, read off the canvas alone, and what the compiler makes of
them: one edge for each input that is bound to a task, and one entry for each input, but for
one of the name `__proto__`.
-/

/-! ## The canvas -/

/-- Where an input comes from. -/
inductive Source where
  | user (value : Option JsVal)
  | task (taskId output : PyStr)

@[ext] structure CanvasInput where
  name : PyStr
  source : Source

structure CanvasNode where
  nodeId : PyStr
  inputs : List CanvasInput

/-- The input, as the canvas has it. -/
def canvasInput? (input : JsVal) : Option CanvasInput :=
  match input.prop? "name" with
  | some (.str name) =>
      if isText (input.prop? "source") "user" then some ⟨name, .user (input.prop? "value")⟩
      else
        match optional (input.prop? "taskSource") "taskId",
            optional (input.prop? "taskSource") "outputKey" with
        | some (.str taskId), some (.str output) => some ⟨name, .task taskId output⟩
        | _, _ => none
  | _ => none

/-- The inputs of the data of a node. -/
def canvasInputs (data : Option JsVal) : List CanvasInput :=
  match optional data "inputs" with
  | some (.array inputs) => inputs.filterMap canvasInput?
  | _ => []

/-- The node, as the canvas has it. -/
def canvasNode? (node : JsVal) : Option CanvasNode :=
  match node.prop? "id" with
  | some (.str nodeId) => some ⟨nodeId, canvasInputs (node.prop? "data")⟩
  | _ => none

def canvasNodes (workflow : JsVal) : List CanvasNode :=
  match workflow.prop? "nodes" with
  | some (.array nodes) => nodes.filterMap canvasNode?
  | _ => []

/-- The edge of an input that is bound to a task. -/
def edgeOf
    (nodeId : PyStr)
    (input : CanvasInput) :
    Option DagEdge :=
  match input.source with
  | .user _ => none
  | .task taskId output => some ⟨taskId, output, nodeId, input.name⟩

/-- The edges of the inputs that are bound to a task. -/
def bindings (nodes : List CanvasNode) : List DagEdge :=
  nodes.flatMap fun node => node.inputs.filterMap (edgeOf node.nodeId)

/-! ## What is compiled of a node's inputs -/

/-- The key that an object literal does not set. -/
def protoKey : PyStr := "__proto__"

/-- The entry of an input. -/
def specInput
    (input : CanvasInput)
    (dataType : PyStr) :
    SpecInput :=
  match input.source with
  | .user value => ⟨input.name, .fromUser, value, dataType, value.isSome⟩
  | .task taskId output =>
      ⟨input.name, .fromTask, some (.str (Core.DagSpec.reference taskId output)), dataType, true⟩

/-- The output is one of those that are known. -/
def Known
    (nodeMap : List NodeEntry)
    (edge : DagEdge) : Prop :=
  edge.targetInput.isEmpty = false ∧ edge.sourceOutput.isEmpty = false ∧
    ∃ entry, nodeMap.find? (fun entry => entry.compiled.nodeId = edge.sourceTaskId) = some entry ∧
      edge.sourceOutput ∈ entry.compiled.outputs.map DagOutput.name

/-- The entries that the inputs of a node have. -/
structure Compiled
    (nodeMap : List NodeEntry)
    (nodeId : PyStr)
    (inputs : List CanvasInput)
    (compiled : List (PyStr × SpecInput)) : Prop where
  distinct : (compiled.map Prod.fst).Nodup
  entry : ∀ input ∈ inputs, input.name ≠ protoKey →
    ∃ dataType, compiled.lookup input.name = some (specInput input dataType)
  origin : ∀ key entry, compiled.lookup key = some entry →
    key ≠ protoKey ∧ ∃ input ∈ inputs, input.name = key
  single : inputs.Pairwise fun first second => first.name = second.name → first.name = protoKey
  known : ∀ edge ∈ inputs.filterMap (edgeOf nodeId), Known nodeMap edge

section Compiling

variable {js : Conversions} {nodeMap : List NodeEntry} {nodeId : PyStr}

theorem lookup_assignInput
    (compiled : List (PyStr × SpecInput))
    (name wanted : PyStr)
    (input : SpecInput) :
    (assignInput compiled name input).lookup wanted =
      if wanted = name ∧ name ≠ protoKey then some input else compiled.lookup wanted := by
  unfold assignInput
  split
  · next isProto =>
    subst isProto
    simp [protoKey]
  · next other =>
    rw [lookup_put]
    simp [protoKey, other]

/-- What one input adds. -/
theorem compileInput_some
    {state next : InputState}
    {raw : JsVal}
    (compiled : compileInput js nodeMap nodeId state raw = some next) :
    ∃ input dataType,
      canvasInput? raw = some input ∧ input.name ∉ state.1.map Prod.fst ∧
        next.1 = assignInput state.1 input.name (specInput input dataType) ∧
        next.2 = state.2 ++ (edgeOf nodeId input).toList ∧
        ∀ edge ∈ edgeOf nodeId input, Known nodeMap edge := by
  simp only [compileInput, Option.bind_eq_bind, Option.bind_eq_some_iff, Option.guard_eq_some',
    exists_const] at compiled
  obtain ⟨name, named, absent, dataType, _, compiled⟩ := compiled
  obtain ⟨isName, named⟩ := text_eq_some named
  rw [canvasInput?, isName]
  split at compiled
  · next isUser =>
    cases compiled
    exact ⟨⟨name, .user (raw.prop? "value")⟩, dataType, by simp [isUser], absent, rfl,
      by simp [edgeOf], by simp [edgeOf]⟩
  · next notUser =>
    simp only [Option.bind_eq_some_iff, Option.guard_eq_some', exists_const] at compiled
    obtain ⟨_, sourceId, isSource, outputKey, isOutput, entry, found, offered, same⟩ := compiled
    cases same
    obtain ⟨isSource, _⟩ := text_eq_some isSource
    obtain ⟨isOutput, given⟩ := text_eq_some isOutput
    refine ⟨⟨name, .task sourceId outputKey⟩, dataType, by simp [notUser, isSource, isOutput],
      absent, rfl, by simp [edgeOf], ?_⟩
    intro edge isEdge
    cases isEdge
    exact ⟨named, given, entry, found, offered⟩

/-- One more input has its entry, and takes no other's. -/
theorem Compiled.snoc
    {inputs : List CanvasInput}
    {compiled : List (PyStr × SpecInput)}
    (before : Compiled nodeMap nodeId inputs compiled)
    {input : CanvasInput}
    (absent : input.name ∉ compiled.map Prod.fst)
    (dataType : PyStr)
    (known : ∀ edge ∈ edgeOf nodeId input, Known nodeMap edge) :
    Compiled nodeMap nodeId (inputs ++ [input])
      (assignInput compiled input.name (specInput input dataType)) := by
  have other : ∀ earlier ∈ inputs, earlier.name = input.name → earlier.name = protoKey := by
    intro earlier member same
    by_contra named
    obtain ⟨earlierType, found⟩ := before.entry earlier member named
    apply absent
    have there := (Dict.lookup_eq_some_iff before.distinct _ _).mp found
    exact same ▸ List.mem_map_of_mem there
  refine ⟨?_, ?_, ?_, ?_, ?_⟩
  · unfold assignInput
    split
    · exact before.distinct
    · exact ((put_perm absent _).map Prod.fst).nodup_iff.mpr
        (List.nodup_cons.mpr ⟨absent, before.distinct⟩)
  · intro wanted member named
    rw [lookup_assignInput]
    rcases List.mem_append.mp member with earlier | new
    · have differ : wanted.name ≠ input.name := fun same => named (other wanted earlier same)
      rw [if_neg fun both => differ both.1]
      exact before.entry wanted earlier named
    · obtain rfl := List.mem_singleton.mp new
      rw [if_pos ⟨rfl, named⟩]
      exact ⟨dataType, rfl⟩
  · intro key entry found
    rw [lookup_assignInput] at found
    split at found
    · next isNew =>
      exact ⟨isNew.1 ▸ isNew.2, input, List.mem_append_right _ (List.mem_singleton_self _),
        isNew.1.symm⟩
    · obtain ⟨named, earlier, member, same⟩ := before.origin key entry found
      exact ⟨named, earlier, List.mem_append_left _ member, same⟩
  · refine List.pairwise_append.mpr ⟨before.single, List.pairwise_singleton _ _, ?_⟩
    intro earlier member new isNew same
    obtain rfl := List.mem_singleton.mp isNew
    exact other earlier member same
  · intro edge member
    rw [List.filterMap_append, List.mem_append] at member
    rcases member with earlier | new
    · exact before.known edge earlier
    · simp only [List.mem_filterMap, List.mem_singleton, exists_eq_left] at new
      exact known edge new

theorem compiled_nil : Compiled nodeMap nodeId [] [] where
  distinct := List.nodup_nil
  entry := by simp
  origin := by simp
  single := List.Pairwise.nil
  known := by simp

/-- All inputs of a node. -/
theorem compileInputs_fold
    {raws : List JsVal}
    {state final : InputState}
    {inputs : List CanvasInput}
    (before : Compiled nodeMap nodeId inputs state.1)
    (compiled : raws.foldlM (compileInput js nodeMap nodeId) state = some final) :
    Compiled nodeMap nodeId (inputs ++ raws.filterMap canvasInput?) final.1 ∧
      final.2 = state.2 ++ (raws.filterMap canvasInput?).filterMap (edgeOf nodeId) := by
  induction raws generalizing state inputs with
  | nil =>
      cases compiled
      simpa using before
  | cons raw rest inductionHypothesis =>
      rw [List.foldlM_cons, Option.bind_eq_bind, Option.bind_eq_some_iff] at compiled
      obtain ⟨next, first, compiled⟩ := compiled
      obtain ⟨input, dataType, isInput, absent, entries, edges, known⟩ := compileInput_some first
      have after := before.snoc absent dataType known
      rw [← entries] at after
      obtain ⟨all, allEdges⟩ := inductionHypothesis after compiled
      rw [List.filterMap_cons_some isInput]
      refine ⟨by simpa using all, ?_⟩
      rw [allEdges, edges, List.filterMap_cons]
      cases edgeOf nodeId input <;> simp

theorem compileInputs_some
    {entry : NodeEntry}
    {edges all : List DagEdge}
    {inputs : List (PyStr × SpecInput)}
    (compiled :
      compileInputs js nodeMap nodeId edges (entry.data.prop? "inputs") = some (inputs, all)) :
    Compiled nodeMap nodeId (canvasInputs (some entry.data)) inputs ∧
      all = edges ++ (canvasInputs (some entry.data)).filterMap (edgeOf nodeId) := by
  unfold compileInputs at compiled
  split at compiled
  · next raws isArray =>
    have read : canvasInputs (some entry.data) = raws.filterMap canvasInput? := by
      rw [canvasInputs, optional, Option.bind_some, isArray]
    rw [read]
    exact compileInputs_fold compiled_nil compiled
  · cases compiled

end Compiling

/-! ## All nodes -/

/-- A node of the specification, of what is known of it on the canvas. -/
def CompiledNode
    (nodeMap : List NodeEntry)
    (entry : NodeEntry)
    (node : SpecNode) : Prop :=
  node = { entry.compiled with inputs := node.inputs } ∧
    Compiled nodeMap entry.compiled.nodeId (canvasInputs (some entry.data)) node.inputs

/-- The node of an entry, as the canvas has it. -/
def canvasNodeOf (entry : NodeEntry) : CanvasNode :=
  ⟨entry.compiled.nodeId, canvasInputs (some entry.data)⟩

/-- Compiling the inputs of all nodes adds the edges of one node after the other. -/
theorem compileNodeInputs_some
    {js : Conversions}
    {nodeMap entries : List NodeEntry}
    {edges all : List DagEdge}
    {nodes : List SpecNode}
    (compiled : compileNodeInputs js nodeMap entries edges = some (nodes, all)) :
    List.Forall₂ (CompiledNode nodeMap) entries nodes ∧
      all = edges ++ bindings (entries.map canvasNodeOf) := by
  induction entries generalizing edges nodes with
  | nil =>
      cases compiled
      exact ⟨.nil, (List.append_nil _).symm⟩
  | cons entry rest inductionHypothesis =>
      simp only [compileNodeInputs, Option.bind_eq_bind, Option.bind_eq_some_iff] at compiled
      obtain ⟨⟨inputs, more⟩, first, ⟨others, final⟩, later, same⟩ := compiled
      cases same
      obtain ⟨here, edgesHere⟩ := compileInputs_some first
      obtain ⟨there, edgesThere⟩ := inductionHypothesis later
      refine ⟨.cons ⟨rfl, here⟩ there, ?_⟩
      rw [edgesThere, edgesHere, List.append_assoc]
      rfl

/-- What Core checks of a node beside its settings. -/
structure WellFormed (node : SpecNode) : Prop where
  nodeId : Core.DagSpec.isNodeId node.nodeId = true
  outputs : node.outputs ≠ []
  named : ∀ output ∈ node.outputs, output.name.isEmpty = false
  distinct : (node.outputs.map DagOutput.name).Nodup
  codeStr : ∀ code, node.codeStr = some code → code.isEmpty = false
  codeSer : ∀ code, node.codeSer = some code → code.isEmpty = false
  code : node.codeStr ≠ none ∨ node.codeSer ≠ none

theorem compileOutputs_some
    {js : Conversions}
    {raw : Option JsVal}
    {outputs : List DagOutput}
    (compiled : compileOutputs js raw = some outputs) :
    outputs ≠ [] ∧ (∀ output ∈ outputs, output.name.isEmpty = false) ∧
      (outputs.map DagOutput.name).Nodup := by
  unfold compileOutputs at compiled
  split at compiled
  · next items =>
    simp only [Option.bind_eq_bind, Option.bind_eq_some_iff, Option.guard_eq_some', exists_const]
      at compiled
    obtain ⟨given, results, read, distinct, same⟩ := compiled
    cases same
    refine ⟨?_, ?_, distinct⟩
    · rintro rfl
      cases forall₂_of_mapM read
      cases given
    · intro output member
      obtain ⟨item, _, made⟩ := exists_of_forall₂ (forall₂_of_mapM read) member
      simp only [compileOutput, Option.bind_eq_bind, Option.bind_eq_some_iff] at made
      obtain ⟨name, named, dataType, _, same⟩ := made
      cases same
      exact (text_eq_some named).2
  · cases compiled

/-- A node that is compiled is the node on the canvas, and Core takes its parts. -/
theorem compileNode_some
    {js : Conversions}
    {definitions : PyStr → Option JsVal}
    {raw : JsVal}
    {entry : NodeEntry}
    (compiled : compileNode js definitions raw = some entry) :
    canvasNode? raw = some (canvasNodeOf entry) ∧ WellFormed entry.compiled := by
  unfold compileNode at compiled
  simp only [Option.bind_eq_bind, Option.bind_eq_some_iff] at compiled
  obtain ⟨nodeId, isNodeId, data, isData, compiled⟩ := compiled
  split at compiled
  · simp only [Option.bind_eq_some_iff, Option.guard_eq_some', exists_const] at compiled
    obtain ⟨_, outputs, outputsRead, definition, _, code, resources, _, taskKind, _, taskName, _,
      same⟩ := compiled
    cases same
    obtain ⟨given, named, distinct⟩ := compileOutputs_some outputsRead
    unfold nodeIdOf at isNodeId
    split at isNodeId
    · next text isText =>
      split at isNodeId
      · next valid =>
        cases isNodeId
        refine ⟨by rw [canvasNode?, isText, isData]; rfl, valid, given, named, distinct, ?_, ?_,
          ?_⟩
        · intro code found
          rcases Option.or_eq_some_iff.mp found with found | ⟨_, found⟩
          · exact (text_eq_some found).2
          · exact (text_eq_some found).2
        · intro code found
          exact (text_eq_some found).2
        · rw [Bool.or_eq_true, Option.isSome_iff_ne_none, Option.isSome_iff_ne_none] at code
          exact code
      · cases isNodeId
    · cases isNodeId
  · cases compiled

theorem canvasNodes_of_compiled
    {js : Conversions}
    {definitions : PyStr → Option JsVal}
    {raws : List JsVal}
    {entries : List NodeEntry}
    (compiled :
      List.Forall₂ (fun raw entry => compileNode js definitions raw = some entry) raws entries) :
    raws.filterMap canvasNode? = entries.map canvasNodeOf := by
  induction compiled with
  | nil => rfl
  | cons here _ inductionHypothesis =>
      rw [List.filterMap_cons_some (compileNode_some here).1, inductionHypothesis, List.map_cons]

/-- What the compiler has made of a workflow. -/
structure CompiledSpec
    (workflow : JsVal)
    (spec : Spec)
    (nodeMap : List NodeEntry) : Prop where
  canvas : canvasNodes workflow = nodeMap.map canvasNodeOf
  wellFormed : ∀ entry ∈ nodeMap, WellFormed entry.compiled
  distinct : (nodeMap.map fun entry => entry.compiled.nodeId).Nodup
  given : nodeMap ≠ []
  nodes : List.Forall₂ (CompiledNode nodeMap) nodeMap spec.nodes
  edges : spec.edges = bindings (canvasNodes workflow)

theorem compiledSpec_of_some
    {js : Conversions}
    {workflow context : JsVal}
    {definitions : PyStr → Option JsVal}
    {spec : Spec}
    (compiled : compileWorkflowToDagSpec js workflow context definitions = some spec) :
    ∃ nodeMap, CompiledSpec workflow spec nodeMap := by
  unfold compileWorkflowToDagSpec at compiled
  split at compiled
  · next rawNodes reactFlowEdges isNodes _ =>
    simp only [Option.bind_eq_bind, Option.bind_eq_some_iff, Option.guard_eq_some', exists_const]
      at compiled
    obtain ⟨given, nodeMap, read, distinct, ⟨nodes, edges⟩, inputs, _, _, tags, _, name, _, same⟩ :=
      compiled
    cases same
    have related := forall₂_of_mapM read
    obtain ⟨compiledNodes, allEdges⟩ := compileNodeInputs_some inputs
    have canvas : canvasNodes workflow = nodeMap.map canvasNodeOf := by
      rw [canvasNodes, isNodes]
      exact canvasNodes_of_compiled related
    refine ⟨nodeMap, canvas, ?_, distinct, ?_, compiledNodes, ?_⟩
    · intro entry member
      obtain ⟨raw, _, made⟩ := exists_of_forall₂ related member
      exact (compileNode_some made).2
    · rintro rfl
      cases related
      cases given
    · rw [canvas]
      exact allEdges
  · cases compiled

end Maze.Playground
