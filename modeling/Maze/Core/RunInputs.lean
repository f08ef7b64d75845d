import Mathlib.Data.Finset.Basic
import Maze.Core.DagSpec

namespace Maze.Core.RunInputs

open Maze.Python
open Maze.Library

/-!
# Inputs of a run

A workflow is built with placeholders for what a run is to give. The client encodes them as
marked objects, the compiler validates these, and when the workflow is submitted they are
replaced by the inputs of the run, or by the defaults. The three traversals are written apart.
-/

/-- `RUN_INPUT_REF_MARKER`. -/
def runInputRefMarker : PyStr := "__maze_run_input__"

/-! ## The client -/

/-- A value that is no container. -/
abbrev Scalar :=
  { value : PyVal // (∀ items, value ≠ .list items) ∧ ∀ entries, value ≠ .dict entries }

/-- A value that is given to a task; a placeholder is made for the name of a parameter. -/
inductive Authored where
  | runInput (key : Identifier)
  | scalar (value : Scalar)
  | tuple (items : List Authored)
  | list (items : List Authored)
  | dict (entries : List (PyStr × Authored))

mutual

/-- `encode_run_inputs`: what is sent, and whether there is a placeholder in it. -/
def encodeRunInputs : Authored → PyVal × Bool
  | .runInput key =>
      (.dict [(runInputRefMarker, .bool true), ("key", .str key.val)], true)
  | .scalar value => (value.val, false)
  | .tuple items =>
      let encoded := encodeItems items
      (.list encoded.1, encoded.2)
  | .list items =>
      let encoded := encodeItems items
      (.list encoded.1, encoded.2)
  | .dict entries =>
      let encoded := encodeEntries entries
      (.dict encoded.1, encoded.2)

/-- The items of a list or of a tuple. -/
def encodeItems : List Authored → List PyVal × Bool
  | [] => ([], false)
  | item :: rest =>
      let here := encodeRunInputs item
      let later := encodeItems rest
      (here.1 :: later.1, here.2 || later.2)

/-- The entries of a `dict`. -/
def encodeEntries : List (PyStr × Authored) → List (PyStr × PyVal) × Bool
  | [] => ([], false)
  | (key, value) :: rest =>
      let here := encodeRunInputs value
      let later := encodeEntries rest
      ((key, here.1) :: later.1, here.2 || later.2)

end

/-! ## The core -/

/-- `_run_input_ref`: the key of a reference. -/
def runInputRef (entries : PyDict) : Except PyErr (Option PyStr) :=
  match PyDict.get? entries runInputRefMarker with
  | none => .ok none
  | some marker =>
      if marker = .bool true ∧
          (entries.map Prod.fst).toFinset = {runInputRefMarker, ("key" : PyStr)} then
        match PyDict.get entries "key" with
        | .str key => if key.isEmpty then .error .valueError else .ok (some key)
        | _ => .error .valueError
      else .error .valueError

/-- What a reference stands for. -/
def resolveReference
    (inputs : PyDict)
    (key : PyStr) :
    Except PyErr (PyVal × Finset PyStr) :=
  match PyDict.get? inputs key with
  | some value => .ok (value, {key})
  | none => .error .valueError

mutual

/-- `_resolve_run_input_refs`: the value without references, and the keys of these. -/
def resolveRunInputRefs
    (inputs : PyDict) :
    PyVal → Except PyErr (PyVal × Finset PyStr)
  | .dict entries => do
      match ← runInputRef entries with
      | some key => resolveReference inputs key
      | none => do
          let (resolved, referenced) ← resolveEntries inputs entries
          .ok (.dict resolved, referenced)
  | .list items => do
      let (resolved, referenced) ← resolveItems inputs items
      .ok (.list resolved, referenced)
  | value => .ok (value, ∅)

/-- The items of a list. -/
def resolveItems
    (inputs : PyDict) :
    List PyVal → Except PyErr (List PyVal × Finset PyStr)
  | [] => .ok ([], ∅)
  | item :: rest => do
      let (here, hereReferenced) ← resolveRunInputRefs inputs item
      let (later, laterReferenced) ← resolveItems inputs rest
      .ok (here :: later, hereReferenced ∪ laterReferenced)

/-- The entries of a `dict`. -/
def resolveEntries
    (inputs : PyDict) :
    List (PyStr × PyVal) → Except PyErr (List (PyStr × PyVal) × Finset PyStr)
  | [] => .ok ([], ∅)
  | (key, value) :: rest => do
      let (here, hereReferenced) ← resolveRunInputRefs inputs value
      let (later, laterReferenced) ← resolveEntries inputs rest
      .ok ((key, here) :: later, hereReferenced ∪ laterReferenced)

end

/-! ## Binding the inputs of a workflow -/

/-- `workflow_input_contract`; an input that is not required has a default. -/
structure InputContract where
  constants : List PyStr
  runtime : List (PyStr × Option PyVal)

/-- The tasks of a workflow. -/
abbrev Tasks := List (TaskId × CompiledTask)

/-- An input is set to what its references stand for, if it has some. -/
def boundInput
    (input : DagInput)
    (resolved : PyVal × Finset PyStr) :
    Except PyErr (DagInput × Finset PyStr) :=
  if resolved.2 = ∅ then .error .valueError
  else .ok
    ({ input with value := resolved.1, inputSchema := .fromUser, hasValue := true }, resolved.2)

/-- An input that is bound to inputs of the run is replaced. -/
def bindInput
    (inputs : PyDict)
    (input : DagInput) :
    Except PyErr (DagInput × Finset PyStr) :=
  match input.inputSchema with
  | .fromRun => do
      let resolved ← resolveRunInputRefs inputs input.value
      boundInput input resolved
  | _ => .ok (input, ∅)

/-- The inputs of a task. -/
def bindInputs
    (inputs : PyDict) :
    List (PyStr × DagInput) → Except PyErr (List (PyStr × DagInput) × Finset PyStr)
  | [] => .ok ([], ∅)
  | (name, input) :: rest => do
      let (here, hereReferences) ← bindInput inputs input
      let (later, laterReferences) ← bindInputs inputs rest
      .ok ((name, here) :: later, hereReferences ∪ laterReferences)

/-- The inputs of all tasks. -/
def bindTasks
    (inputs : PyDict) :
    Tasks → Except PyErr (Tasks × Finset PyStr)
  | [] => .ok ([], ∅)
  | (taskId, task) :: rest => do
      let (here, hereReferences) ← bindInputs inputs task.inputParams
      let (later, laterReferences) ← bindTasks inputs rest
      .ok ((taskId, { task with inputParams := here }) :: later,
        hereReferences ∪ laterReferences)

/-- The contract; without one a run takes no inputs. -/
def contractOf (contract : Option InputContract) : InputContract :=
  contract.getD ⟨[], []⟩

/-- The value of every input of the contract: what is given, or the default. -/
def effectiveInputs
    (contract : InputContract)
    (inputs : PyDict) : PyDict :=
  contract.runtime.map fun entry =>
    (entry.1, (PyDict.get? inputs entry.1).getD (entry.2.getD .null))

/-- The names that are given are inputs of the contract, and all that are required are given. -/
def Provides
    (contract : InputContract)
    (inputs : PyDict) : Prop :=
  (∀ key ∈ inputs.map Prod.fst, key ∉ contract.constants) ∧
    (∀ key ∈ inputs.map Prod.fst,
      key ∈ contract.constants ∨ key ∈ contract.runtime.map Prod.fst) ∧
    ∀ entry ∈ contract.runtime, entry.2 = none → entry.1 ∈ inputs.map Prod.fst

instance (contract : InputContract) (inputs : PyDict) : Decidable (Provides contract inputs) :=
  inferInstanceAs (Decidable (_ ∧ _ ∧ _))

/-- The references have to be the inputs of the contract. -/
def checkedBinding
    (contract : InputContract)
    (effective : PyDict)
    (bound : Tasks × Finset PyStr) :
    Except PyErr (PyDict × Tasks) :=
  if bound.2 = (contract.runtime.map Prod.fst).toFinset then .ok (effective, bound.1)
  else .error .valueError

/-- `_bind_workflow_run_inputs`: the inputs that are effective, and the tasks with them. -/
def bindWorkflowRunInputs
    (contract : Option InputContract)
    (tasks : Tasks)
    (inputs : Option PyDict) :
    Except PyErr (PyDict × Tasks) :=
  let contract := contractOf contract
  let inputs := inputs.getD []
  let effective := effectiveInputs contract inputs
  if Provides contract inputs then do
    let bound ← bindTasks effective tasks
    checkedBinding contract effective bound
  else .error .valueError

/-! ## What the placeholders stand for -/

mutual

/-- No `dict` of the value has the marker. -/
def MarkerFree : Authored → Prop
  | .runInput _ => True
  | .scalar _ => True
  | .tuple items => MarkerFreeItems items
  | .list items => MarkerFreeItems items
  | .dict entries => runInputRefMarker ∉ entries.map Prod.fst ∧ MarkerFreeEntries entries

def MarkerFreeItems : List Authored → Prop
  | [] => True
  | item :: rest => MarkerFree item ∧ MarkerFreeItems rest

def MarkerFreeEntries : List (PyStr × Authored) → Prop
  | [] => True
  | (_, value) :: rest => MarkerFree value ∧ MarkerFreeEntries rest

end

mutual

/-- The keys of the placeholders. -/
def placeholders : Authored → Finset PyStr
  | .runInput key => {key.val}
  | .scalar _ => ∅
  | .tuple items => placeholdersItems items
  | .list items => placeholdersItems items
  | .dict entries => placeholdersEntries entries

def placeholdersItems : List Authored → Finset PyStr
  | [] => ∅
  | item :: rest => placeholders item ∪ placeholdersItems rest

def placeholdersEntries : List (PyStr × Authored) → Finset PyStr
  | [] => ∅
  | (_, value) :: rest => placeholders value ∪ placeholdersEntries rest

end

mutual

/-- Every placeholder is replaced by its input, and a tuple by a list. -/
def substitute (inputs : PyDict) : Authored → PyVal
  | .runInput key => PyDict.get inputs key.val
  | .scalar value => value.val
  | .tuple items => .list (substituteItems inputs items)
  | .list items => .list (substituteItems inputs items)
  | .dict entries => .dict (substituteEntries inputs entries)

def substituteItems (inputs : PyDict) : List Authored → List PyVal
  | [] => []
  | item :: rest => substitute inputs item :: substituteItems inputs rest

def substituteEntries (inputs : PyDict) :
    List (PyStr × Authored) → List (PyStr × PyVal)
  | [] => []
  | (key, value) :: rest => (key, substitute inputs value) :: substituteEntries inputs rest

end

/-- The names of the inputs that are given. -/
def given (inputs : PyDict) : Finset PyStr :=
  (inputs.map Prod.fst).toFinset

theorem get?_isSome_iff
    (entries : PyDict)
    (key : PyStr) :
    (PyDict.get? entries key).isSome = true ↔ key ∈ given entries := by
  rw [given, List.mem_toFinset]
  induction entries with
  | nil => simp
  | cons entry rest inductionHypothesis =>
      obtain ⟨other, value⟩ := entry
      rw [PyDict.get?_cons, List.map_cons, List.mem_cons]
      by_cases here : key = other
      · simp [here]
      · simp [here, inductionHypothesis]

/-- Without the marker there is no reference. -/
theorem runInputRef_of_free
    {entries : PyDict}
    (free : runInputRefMarker ∉ given entries) :
    runInputRef entries = .ok none := by
  have absent : PyDict.get? entries runInputRefMarker = none := by
    rw [← Option.not_isSome_iff_eq_none, get?_isSome_iff]
    exact free
  rw [runInputRef, absent]

/-- What a placeholder is encoded as is a reference. -/
theorem runInputRef_placeholder (key : Identifier) :
    runInputRef [(runInputRefMarker, .bool true), ("key", .str key.val)] =
      .ok (some key.val) := by
  have differ : ¬("key" : PyStr) = runInputRefMarker := by
    simp [runInputRefMarker, PyStr.ofString_inj]
  simp [runInputRef, PyDict.get, differ, key.property]

/-! ## Resolving what is encoded -/

/-- Two calls that need inputs need the inputs of both. -/
theorem bind_both
    {First Second Both : Type}
    {first : Except PyErr (First × Finset PyStr)}
    {second : Except PyErr (Second × Finset PyStr)}
    {firstKeys secondKeys known : Finset PyStr}
    {here : First}
    {later : Second}
    (join : First → Second → Both)
    (firstCall : first = if firstKeys ⊆ known then .ok (here, firstKeys)
      else .error .valueError)
    (secondCall : second = if secondKeys ⊆ known then .ok (later, secondKeys)
      else .error .valueError) :
    (do
      let (here, hereKeys) ← first
      let (later, laterKeys) ← second
      .ok (join here later, hereKeys ∪ laterKeys)) =
      if firstKeys ∪ secondKeys ⊆ known then
        .ok (join here later, firstKeys ∪ secondKeys)
      else Except.error PyErr.valueError := by
  subst firstCall secondCall
  by_cases firstKnown : firstKeys ⊆ known
  · rw [if_pos firstKnown]
    by_cases secondKnown : secondKeys ⊆ known
    · rw [if_pos secondKnown, if_pos (Finset.union_subset firstKnown secondKnown)]
      rfl
    · rw [if_neg secondKnown, if_neg fun both =>
        secondKnown (Finset.subset_union_right.trans both)]
      rfl
  · rw [if_neg firstKnown, if_neg fun both =>
      firstKnown (Finset.subset_union_left.trans both)]
    rfl

/-- A call whose result is only wrapped needs the same inputs. -/
theorem bind_wrap
    {First Second : Type}
    {first : Except PyErr (First × Finset PyStr)}
    {keys known : Finset PyStr}
    {here : First}
    (wrap : First → Second)
    (call : first = if keys ⊆ known then .ok (here, keys) else .error .valueError) :
    (do
      let (here, hereKeys) ← first
      .ok (wrap here, hereKeys)) =
      if keys ⊆ known then .ok (wrap here, keys) else Except.error PyErr.valueError := by
  subst call
  split <;> rfl

/-- The keys of a `dict` are encoded as they are. -/
theorem given_encodeEntries (entries : List (PyStr × Authored)) :
    given (encodeEntries entries).1 = (entries.map Prod.fst).toFinset := by
  have keys : (encodeEntries entries).1.map Prod.fst = entries.map Prod.fst := by
    induction entries with
    | nil => rfl
    | cons entry rest inductionHypothesis =>
        obtain ⟨key, value⟩ := entry
        simp only [encodeEntries, List.map_cons, inductionHypothesis]
  rw [given, keys]

mutual

/-- What is encoded is resolved to the value with its placeholders replaced. -/
theorem resolve_encode
    (inputs : PyDict)
    (value : Authored)
    (free : MarkerFree value) :
    resolveRunInputRefs inputs (encodeRunInputs value).1 =
      if placeholders value ⊆ given inputs then
        .ok (substitute inputs value, placeholders value)
      else .error .valueError := by
  cases value with
  | runInput key =>
      simp only [encodeRunInputs, resolveRunInputRefs, runInputRef_placeholder, placeholders,
        substitute, Finset.singleton_subset_iff]
      change resolveReference inputs key.val = _
      have known := get?_isSome_iff inputs key.val
      rw [resolveReference, PyDict.get]
      cases found : PyDict.get? inputs key.val with
      | some value =>
          rw [found] at known
          rw [if_pos (known.mp rfl)]
          rfl
      | none =>
          rw [found] at known
          rw [if_neg fun inside => by cases known.mpr inside]
  | scalar value =>
      obtain ⟨value, noList, noDict⟩ := value
      simp only [encodeRunInputs, placeholders, substitute, Finset.empty_subset, if_true]
      cases value with
      | list items => exact absurd rfl (noList items)
      | dict entries => exact absurd rfl (noDict entries)
      | _ => rfl
  | tuple items =>
      exact bind_wrap PyVal.list (resolveItems_encode inputs items free)
  | list items =>
      exact bind_wrap PyVal.list (resolveItems_encode inputs items free)
  | dict entries =>
      obtain ⟨noMarker, free⟩ := free
      have plain : runInputRef (encodeEntries entries).1 = .ok none := by
        refine runInputRef_of_free ?_
        rw [given_encodeEntries, List.mem_toFinset]
        exact noMarker
      simp only [encodeRunInputs, resolveRunInputRefs, plain]
      exact bind_wrap PyVal.dict (resolveEntries_encode inputs entries free)

theorem resolveItems_encode
    (inputs : PyDict)
    (items : List Authored)
    (free : MarkerFreeItems items) :
    resolveItems inputs (encodeItems items).1 =
      if placeholdersItems items ⊆ given inputs then
        .ok (substituteItems inputs items, placeholdersItems items)
      else .error .valueError := by
  cases items with
  | nil => rfl
  | cons item rest =>
      exact bind_both List.cons (resolve_encode inputs item free.1)
        (resolveItems_encode inputs rest free.2)

theorem resolveEntries_encode
    (inputs : PyDict)
    (entries : List (PyStr × Authored))
    (free : MarkerFreeEntries entries) :
    resolveEntries inputs (encodeEntries entries).1 =
      if placeholdersEntries entries ⊆ given inputs then
        .ok (substituteEntries inputs entries, placeholdersEntries entries)
      else .error .valueError := by
  cases entries with
  | nil => rfl
  | cons entry rest =>
      obtain ⟨key, value⟩ := entry
      exact bind_both (fun here later => (key, here) :: later)
        (resolve_encode inputs value free.1) (resolveEntries_encode inputs rest free.2)

end

mutual

/-- The client finds out whether there is a placeholder. -/
theorem encode_found (value : Authored) :
    (encodeRunInputs value).2 = true ↔ placeholders value ≠ ∅ := by
  cases value with
  | runInput key => simp [encodeRunInputs, placeholders]
  | scalar value => simp [encodeRunInputs, placeholders]
  | tuple items => exact encodeItems_found items
  | list items => exact encodeItems_found items
  | dict entries => exact encodeEntries_found entries

theorem encodeItems_found (items : List Authored) :
    (encodeItems items).2 = true ↔ placeholdersItems items ≠ ∅ := by
  cases items with
  | nil => simp [encodeItems, placeholdersItems]
  | cons item rest =>
      simp only [encodeItems, placeholdersItems, Bool.or_eq_true, encode_found item,
        encodeItems_found rest, ne_eq, Finset.union_eq_empty]
      tauto

theorem encodeEntries_found (entries : List (PyStr × Authored)) :
    (encodeEntries entries).2 = true ↔ placeholdersEntries entries ≠ ∅ := by
  cases entries with
  | nil => simp [encodeEntries, placeholdersEntries]
  | cons entry rest =>
      obtain ⟨key, value⟩ := entry
      simp only [encodeEntries, placeholdersEntries, Bool.or_eq_true, encode_found value,
        encodeEntries_found rest, ne_eq, Finset.union_eq_empty]
      tauto

end

mutual

/-- Without a placeholder the encoding is the value itself. -/
theorem encode_of_none
    (inputs : PyDict)
    (value : Authored)
    (none : placeholders value = ∅) :
    (encodeRunInputs value).1 = substitute inputs value := by
  cases value with
  | runInput key => simp [placeholders] at none
  | scalar value => rfl
  | tuple items => exact congrArg PyVal.list (encodeItems_of_none inputs items none)
  | list items => exact congrArg PyVal.list (encodeItems_of_none inputs items none)
  | dict entries => exact congrArg PyVal.dict (encodeEntries_of_none inputs entries none)

theorem encodeItems_of_none
    (inputs : PyDict)
    (items : List Authored)
    (none : placeholdersItems items = ∅) :
    (encodeItems items).1 = substituteItems inputs items := by
  cases items with
  | nil => rfl
  | cons item rest =>
      obtain ⟨here, later⟩ := Finset.union_eq_empty.mp none
      simp only [encodeItems, substituteItems, encode_of_none inputs item here,
        encodeItems_of_none inputs rest later]

theorem encodeEntries_of_none
    (inputs : PyDict)
    (entries : List (PyStr × Authored))
    (none : placeholdersEntries entries = ∅) :
    (encodeEntries entries).1 = substituteEntries inputs entries := by
  cases entries with
  | nil => rfl
  | cons entry rest =>
      obtain ⟨key, value⟩ := entry
      obtain ⟨here, later⟩ := Finset.union_eq_empty.mp none
      simp only [encodeEntries, substituteEntries, encode_of_none inputs value here,
        encodeEntries_of_none inputs rest later]

end

/-! ## Binding what is encoded -/

/-- An input of a task as the client is given it. -/
inductive AuthoredInput where
  | fromTask (reference : PyStr)
  | value (value : Authored) (hasValue : Bool)

/-- The input of the task that the client sends. -/
def encodeInput
    (key dataType : PyStr) :
    AuthoredInput → DagInput
  | .fromTask reference => ⟨key, .fromTask, .str reference, dataType, true⟩
  | .value value hasValue =>
      let encoded := encodeRunInputs value
      ⟨key, if encoded.2 then .fromRun else .fromUser, encoded.1, dataType,
        if encoded.2 then false else hasValue⟩

/-- The input with the placeholders replaced. -/
def substituteInput
    (inputs : PyDict)
    (key dataType : PyStr) :
    AuthoredInput → DagInput
  | .fromTask reference => ⟨key, .fromTask, .str reference, dataType, true⟩
  | .value value hasValue =>
      ⟨key, .fromUser, substitute inputs value, dataType,
        if placeholders value = ∅ then hasValue else true⟩

/-- The placeholders of an input. -/
def AuthoredInput.placeholders : AuthoredInput → Finset PyStr
  | .fromTask _ => ∅
  | .value authored _ => RunInputs.placeholders authored

/-- The values that are given to the inputs have no marker in them. -/
def AuthoredInput.MarkerFree : AuthoredInput → Prop
  | .fromTask _ => True
  | .value authored _ => RunInputs.MarkerFree authored

/-- A task as the client is given it. -/
structure AuthoredTask where
  inputs : List (PyStr × PyStr × AuthoredInput)
  outputParams : List DagOutput

/-- A workflow as the client is given it. -/
abbrev AuthoredTasks := List (TaskId × AuthoredTask)

/-- The tasks with their inputs in one of the two forms. -/
def compile
    (form : PyStr → PyStr → AuthoredInput → DagInput)
    (tasks : AuthoredTasks) : Tasks :=
  tasks.map fun entry =>
    (entry.1, ⟨entry.2.inputs.map fun input => (input.1, form input.1 input.2.1 input.2.2),
      entry.2.outputParams⟩)

/-- The placeholders of the inputs of a task. -/
def AuthoredTask.placeholders (task : AuthoredTask) : Finset PyStr :=
  task.inputs.foldr (fun input keys => input.2.2.placeholders ∪ keys) ∅

/-- The placeholders of a workflow. -/
def workflowPlaceholders (tasks : AuthoredTasks) : Finset PyStr :=
  tasks.foldr (fun entry keys => entry.2.placeholders ∪ keys) ∅

/-- An input is bound to what its placeholders stand for. -/
theorem bindInput_encode
    (inputs : PyDict)
    (key dataType : PyStr)
    (input : AuthoredInput)
    (free : input.MarkerFree) :
    bindInput inputs (encodeInput key dataType input) =
      if input.placeholders ⊆ given inputs then
        .ok (substituteInput inputs key dataType input, input.placeholders)
      else .error .valueError := by
  cases input with
  | fromTask reference => exact (if_pos (Finset.empty_subset _)).symm
  | value value hasValue =>
      by_cases none : placeholders value = ∅
      · have found : (encodeRunInputs value).2 = false := by
          rw [← Bool.not_eq_true, encode_found]
          exact not_not.mpr none
        simp only [encodeInput, found, AuthoredInput.placeholders, none, substituteInput]
        simp only [bindInput, encode_of_none inputs value none]
        rfl
      · have found := (encode_found value).mpr none
        simp only [encodeInput, found, if_true, bindInput, resolve_encode inputs value free,
          AuthoredInput.placeholders, substituteInput]
        split
        · change boundInput _ _ = _
          rw [boundInput, if_neg none]
        · rfl

/-- The inputs of a task are bound to what their placeholders stand for. -/
theorem bindInputs_encode
    (inputs : PyDict)
    (authored : List (PyStr × PyStr × AuthoredInput))
    (free : ∀ input ∈ authored, input.2.2.MarkerFree) :
    bindInputs inputs
        (authored.map fun input => (input.1, encodeInput input.1 input.2.1 input.2.2)) =
      if authored.foldr (fun input keys => input.2.2.placeholders ∪ keys) ∅ ⊆ given inputs then
        .ok (authored.map fun input =>
            (input.1, substituteInput inputs input.1 input.2.1 input.2.2),
          authored.foldr (fun input keys => input.2.2.placeholders ∪ keys) ∅)
      else .error .valueError := by
  induction authored with
  | nil => exact (if_pos (Finset.empty_subset _)).symm
  | cons input rest inductionHypothesis =>
      obtain ⟨here, later⟩ := List.forall_mem_cons.mp free
      exact bind_both (fun here later => (input.1, here) :: later)
        (bindInput_encode inputs input.1 input.2.1 input.2.2 here) (inductionHypothesis later)

/-- The inputs of all tasks are bound to what their placeholders stand for. -/
theorem bindTasks_encode
    (inputs : PyDict)
    (tasks : AuthoredTasks)
    (free : ∀ entry ∈ tasks, ∀ input ∈ entry.2.inputs, input.2.2.MarkerFree) :
    bindTasks inputs (compile encodeInput tasks) =
      if workflowPlaceholders tasks ⊆ given inputs then
        .ok (compile (substituteInput inputs) tasks, workflowPlaceholders tasks)
      else .error .valueError := by
  induction tasks with
  | nil => exact (if_pos (Finset.empty_subset _)).symm
  | cons entry rest inductionHypothesis =>
      obtain ⟨here, later⟩ := List.forall_mem_cons.mp free
      exact bind_both (fun bound later => (entry.1, ⟨bound, entry.2.outputParams⟩) :: later)
        (bindInputs_encode inputs entry.2.inputs here) (inductionHypothesis later)

/-- The inputs that are effective are the ones of the contract. -/
theorem given_effectiveInputs
    (contract : InputContract)
    (inputs : PyDict) :
    given (effectiveInputs contract inputs) = (contract.runtime.map Prod.fst).toFinset := by
  simp [given, effectiveInputs, Function.comp_def]

/-- A workflow is bound where the inputs and the placeholders are the ones of the contract. -/
theorem bind_encode
    (contract : Option InputContract)
    (tasks : AuthoredTasks)
    (free : ∀ entry ∈ tasks, ∀ input ∈ entry.2.inputs, input.2.2.MarkerFree)
    (inputs : Option PyDict) :
    bindWorkflowRunInputs contract (compile encodeInput tasks) inputs =
      if Provides (contractOf contract) (inputs.getD []) ∧
          workflowPlaceholders tasks =
            ((contractOf contract).runtime.map Prod.fst).toFinset then
        .ok (effectiveInputs (contractOf contract) (inputs.getD []),
          compile (substituteInput (effectiveInputs (contractOf contract) (inputs.getD []))) tasks)
      else .error .valueError := by
  unfold bindWorkflowRunInputs
  dsimp only
  by_cases provides : Provides (contractOf contract) (inputs.getD [])
  · rw [if_pos provides, bindTasks_encode _ tasks free, given_effectiveInputs]
    by_cases same : workflowPlaceholders tasks =
        ((contractOf contract).runtime.map Prod.fst).toFinset
    · rw [if_pos same.subset, if_pos ⟨provides, same⟩]
      exact if_pos same
    · have differ : ¬(Provides (contractOf contract) (inputs.getD []) ∧
          workflowPlaceholders tasks =
            ((contractOf contract).runtime.map Prod.fst).toFinset) := fun both => same both.2
      rw [if_neg differ]
      split
      · exact if_neg same
      · rfl
  · rw [if_neg provides, if_neg fun both => provides both.1]

/-! ## The validator -/

mutual

/-- The keys of the references in a value. -/
def referenceKeys : PyVal → Finset PyStr
  | .dict entries =>
      match runInputRef entries with
      | .ok (some key) => {key}
      | .ok none => referenceKeysEntries entries
      | .error _ => ∅
  | .list items => referenceKeysItems items
  | _ => ∅

def referenceKeysItems : List PyVal → Finset PyStr
  | [] => ∅
  | item :: rest => referenceKeys item ∪ referenceKeysItems rest

def referenceKeysEntries : List (PyStr × PyVal) → Finset PyStr
  | [] => ∅
  | (_, value) :: rest => referenceKeys value ∪ referenceKeysEntries rest

end

/-- The compiler and the core know the same references. -/
theorem runInputRef_eq
    {entries : PyDict}
    (marked : runInputRefMarker ∈ given entries) :
    (DagSpec.isRunInputRef entries = true →
        ∃ key, runInputRef entries = .ok (some key)) ∧
      (DagSpec.isRunInputRef entries = false → runInputRef entries = .error .valueError) := by
  obtain ⟨marker, found⟩ := Option.isSome_iff_exists.mp ((get?_isSome_iff _ _).mpr marked)
  have isMarker : PyDict.get entries runInputRefMarker = marker := by
    rw [PyDict.get, found]
    rfl
  have keysIff (key : PyStr) (text : PyDict.get entries "key" = .str key) :
      (entries.all fun entry =>
        decide (entry.1 = runInputRefMarker) || decide (entry.1 = ("key" : PyStr))) = true ↔
        (entries.map Prod.fst).toFinset = {runInputRefMarker, ("key" : PyStr)} := by
    have keyed : ("key" : PyStr) ∈ given entries := by
      rw [← get?_isSome_iff]
      unfold PyDict.get at text
      cases there : PyDict.get? entries "key" with
      | none =>
          rw [there] at text
          cases text
      | some value => rfl
    rw [given] at marked keyed
    constructor
    · intro all
      refine Finset.Subset.antisymm (fun name inside => ?_) fun name inside => ?_
      · obtain ⟨entry, there, rfl⟩ := List.mem_map.mp (List.mem_toFinset.mp inside)
        simpa using List.all_eq_true.mp all entry there
      · rcases Finset.mem_insert.mp inside with rfl | isKey
        · exact marked
        · rw [Finset.mem_singleton.mp isKey]
          exact keyed
    · intro same
      refine List.all_eq_true.mpr fun entry there => ?_
      have inside : entry.1 ∈ (entries.map Prod.fst).toFinset :=
        List.mem_toFinset.mpr (List.mem_map_of_mem there)
      rw [same] at inside
      simpa using inside
  have shape : DagSpec.isRunInputRef entries =
      ((entries.all fun entry =>
        decide (entry.1 = runInputRefMarker) || decide (entry.1 = ("key" : PyStr))) &&
        decide (PyDict.get entries runInputRefMarker = .bool true) &&
        match PyDict.get entries "key" with
          | .str key => !key.isEmpty
          | _ => false) := rfl
  rw [shape, isMarker, runInputRef, found]
  cases text : PyDict.get entries "key" with
  | str key =>
      have same := keysIff key text
      simp only [Bool.and_eq_true, decide_eq_true_eq, Bool.not_eq_true', ← Bool.not_eq_true, same]
      by_cases whole : marker = .bool true ∧
          (entries.map Prod.fst).toFinset = {runInputRefMarker, ("key" : PyStr)}
      · rw [if_pos whole]
        by_cases empty : key.isEmpty = true
        · rw [if_pos empty]
          exact ⟨fun all => absurd empty all.2, fun _ => rfl⟩
        · rw [if_neg empty]
          exact ⟨fun _ => ⟨key, rfl⟩, fun fails => absurd ⟨⟨whole.2, whole.1⟩, empty⟩ fails⟩
      · rw [if_neg whole]
        exact ⟨fun all => absurd ⟨all.1.2, all.1.1⟩ whole, fun _ => rfl⟩
  | _ =>
      simp only [Bool.and_false]
      refine ⟨fun all => (by cases all), fun _ => ?_⟩
      split <;> rfl

/-- Two calls return if each does. -/
theorem both_ok
    {First Second Both : Type}
    (first : Except PyErr First)
    (second : Except PyErr Second)
    (join : First → Second → Both) :
    (∃ result, (do
      let here ← first
      let later ← second
      .ok (join here later)) = Except.ok result) ↔
      (∃ here, first = .ok here) ∧ ∃ later, second = .ok later := by
  cases first with
  | error raised => simp [Bind.bind, Except.bind]
  | ok here => cases second <;> simp [Bind.bind, Except.bind]

/-- A call whose result is only wrapped returns if it does. -/
theorem wrap_ok
    {First Second : Type}
    (first : Except PyErr First)
    (wrap : First → Second) :
    (∃ result, (do
      let here ← first
      .ok (wrap here)) = Except.ok result) ↔ ∃ here, first = .ok here := by
  cases first <;> simp [Bind.bind, Except.bind]

mutual

/-- The compiler accepts a value that the core resolves, given its keys. -/
theorem validate_iff
    (inputs : PyDict)
    (value : PyVal)
    (keys : referenceKeys value ⊆ given inputs) :
    (∃ count, DagSpec.validateRunInputRefs value = .ok count) ↔
      ∃ resolved, resolveRunInputRefs inputs value = .ok resolved := by
  cases value with
  | dict entries =>
      by_cases marked : runInputRefMarker ∈ given entries
      · obtain ⟨isRef, noRef⟩ := runInputRef_eq marked
        have there : (PyDict.get? entries "__maze_run_input__").isSome = true :=
          (get?_isSome_iff entries runInputRefMarker).mpr marked
        simp only [DagSpec.validateRunInputRefs, there, if_true, resolveRunInputRefs]
        cases valid : DagSpec.isRunInputRef entries with
        | true =>
            obtain ⟨key, isKey⟩ := isRef valid
            simp only [referenceKeys, isKey, Finset.singleton_subset_iff] at keys
            obtain ⟨input, found⟩ :=
              Option.isSome_iff_exists.mp ((get?_isSome_iff inputs key).mpr keys)
            refine iff_of_true ⟨1, rfl⟩ ⟨(input, {key}), ?_⟩
            rw [isKey]
            change resolveReference inputs key = _
            rw [resolveReference, found]
        | false =>
            rw [noRef valid]
            exact iff_of_false (fun ⟨_, returned⟩ => by cases returned)
              (fun ⟨_, returned⟩ => by cases returned)
      · have plain := runInputRef_of_free marked
        have absent : ¬(PyDict.get? entries "__maze_run_input__").isSome = true :=
          fun there => marked ((get?_isSome_iff entries runInputRefMarker).mp there)
        simp only [referenceKeys, plain] at keys
        simp only [DagSpec.validateRunInputRefs, if_neg absent, resolveRunInputRefs, plain]
        rw [validateEntries_iff inputs entries keys]
        exact (wrap_ok (resolveEntries inputs entries)
          fun resolved => (PyVal.dict resolved.1, resolved.2)).symm
  | list items =>
      refine (validateItems_iff inputs items keys).trans ?_
      exact (wrap_ok (resolveItems inputs items)
        fun resolved => (PyVal.list resolved.1, resolved.2)).symm
  | _ => exact iff_of_true ⟨0, rfl⟩ ⟨_, rfl⟩

theorem validateItems_iff
    (inputs : PyDict)
    (items : List PyVal)
    (keys : referenceKeysItems items ⊆ given inputs) :
    (∃ count, DagSpec.validateItems items = .ok count) ↔
      ∃ resolved, resolveItems inputs items = .ok resolved := by
  cases items with
  | nil => exact iff_of_true ⟨0, rfl⟩ ⟨_, rfl⟩
  | cons item rest =>
      obtain ⟨hereKeys, laterKeys⟩ := Finset.union_subset_iff.mp keys
      refine (both_ok _ _ fun here later => here + later).trans ?_
      rw [validate_iff inputs item hereKeys, validateItems_iff inputs rest laterKeys]
      exact (both_ok (resolveRunInputRefs inputs item) (resolveItems inputs rest)
        fun here later => (here.1 :: later.1, here.2 ∪ later.2)).symm

theorem validateEntries_iff
    (inputs : PyDict)
    (entries : List (PyStr × PyVal))
    (keys : referenceKeysEntries entries ⊆ given inputs) :
    (∃ count, DagSpec.validateEntries entries = .ok count) ↔
      ∃ resolved, resolveEntries inputs entries = .ok resolved := by
  cases entries with
  | nil => exact iff_of_true ⟨0, rfl⟩ ⟨_, rfl⟩
  | cons entry rest =>
      obtain ⟨key, value⟩ := entry
      obtain ⟨hereKeys, laterKeys⟩ := Finset.union_subset_iff.mp keys
      refine (both_ok _ _ fun here later => here + later).trans ?_
      rw [validate_iff inputs value hereKeys, validateEntries_iff inputs rest laterKeys]
      exact (both_ok (resolveRunInputRefs inputs value) (resolveEntries inputs rest)
        fun here later => ((key, here.1) :: later.1, here.2 ∪ later.2)).symm

end

/-- A placeholder in a list in a `dict`, beside a tuple. -/
def nestedValue : Authored :=
  .dict [("a", .list [.runInput ⟨"x", rfl⟩,
    .tuple [.scalar ⟨.int 1, fun _ same => (by cases same), fun _ same => (by cases same)⟩]])]

/-- The input looks like a reference itself. -/
def markedInput : PyDict :=
  [("x", .dict [("__maze_run_input__", .bool true), ("key", .str "x")])]

end Maze.Core.RunInputs
