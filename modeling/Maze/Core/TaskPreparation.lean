import Mathlib.Data.Nat.Size
import Maze.Core.ResourceHistory

namespace Maze.Core

open Maze.Python

/-!
# Preparing the resources of a task

`_prepare_task_resources` runs before a task is sent to the scheduler: it looks
at the checkpoint of the task's model, finds the context of the task, takes its
profile from the resource history and settles the GPU memory. The module states
for which tasks it returns.
-/

/-- An entry of `task_input["input_params"]`. -/
structure InputParam where
  key : PyStr
  inputSchema : PyStr
  value : PyVal

/-- What `CodeTask` keeps of a task of a workflow. -/
structure WorkflowTask where
  taskName : PyStr
  taskKind : TaskKind
  resources : PyDict
  declaredResources : PyDict
  modelAnchor : PyDict
  codeStr : PyVal
  codeSer : PyVal
  inputParams : List InputParam

/-- What `enrich_model_anchor` finds in the directory of a model. -/
structure Checkpoint where
  dtype : PyVal
  totalSize : Option PyVal
  revision : Option PyVal
  fingerprint : PyStr

/-- What the preparation calls outside of the program. -/
structure Primitives where
  /-- `str(value)`. -/
  str : PyVal → PyStr
  /-- The digest of a JSON value. -/
  fingerprint : PyVal → PyStr
  /-- `_code_dtype`, on the syntax tree of a code text. -/
  codeDtype : PyVal → Except PyErr PyStr

/-- The files that the preparation reads. -/
structure Environment where
  history : ResourceHistory.HistoryFile
  checkpoint : PyVal → Except PyErr (Option Checkpoint)

namespace TaskPreparation

open Resources ResourceHistory

/-- Add an entry that is known, unless the key is there already. -/
def setKnown
    (anchor : PyDict)
    (key : PyStr) :
    Option PyVal → PyDict
  | some value => anchor.setDefault key value
  | none => anchor

/-- `enrich_model_anchor`; no anchor is an empty one. -/
def enrichModelAnchor
    (environment : Environment)
    (anchor : PyDict) :
    Except PyErr PyDict :=
  if anchor.isEmpty then
    .ok []
  else do
    let name := (anchor.get "local_model").orElse
      ((anchor.get "model").orElse (.str ""))
    match ← environment.checkpoint name with
    | none => .ok anchor
    | some checkpoint =>
        let anchor := anchor.setDefault "dtype" checkpoint.dtype
        let anchor := setKnown anchor "estimated_weight_memory_bytes"
          checkpoint.totalSize
        let anchor := setKnown anchor "revision" checkpoint.revision
        .ok (anchor.setDefault "checkpoint_fingerprint"
          (.str checkpoint.fingerprint))

/-- `part in text`. -/
def contains (text part : PyStr) : Bool :=
  text.chars.tails.any fun rest => rest.take part.chars.length = part.chars

/-- `1 << (number - 1).bit_length()`. -/
def powerBucket (number : Nat) : Nat :=
  2 ^ (number - 1).size

/-- Set a feature. -/
def setFeature
    (features : List (PyStr × Nat))
    (name : PyStr)
    (value : Nat) :
    List (PyStr × Nat) :=
  (features.filter fun feature => feature.1 ≠ name) ++ [(name, value)]

/-- What `context_for_task` gathers from the inputs. -/
structure Gathered where
  dtype : PyStr
  textSize : Nat
  features : List (PyStr × Nat)

/-- One input of the loop of `context_for_task`. -/
def gather
    (gathered : Gathered)
    (param : InputParam) :
    Gathered :=
  if param.inputSchema ≠ PyStr.ofString "from_user" then
    gathered
  else
    let dtypeNames : List PyStr := ["dtype", "torch_dtype", "precision"]
    let textNames : List PyStr := ["text", "prompt", "question", "context"]
    let countNames : List PyStr :=
      ["max_tokens", "max_new_tokens", "batch_size", "sequence_length"]
    let counted :=
      if param.key ∈ countNames ∧ positiveInt param.value ≠ 0 then
        { gathered with
          features := setFeature gathered.features param.key
            (powerBucket (positiveInt param.value)) }
      else
        gathered
    match param.value with
    | .str value =>
        let gathered :=
          if param.key ∈ dtypeNames then { gathered with dtype := value }
          else gathered
        if textNames.any (contains param.key) then
          { gathered with textSize := gathered.textSize + value.chars.length }
        else
          { gathered with features := counted.features }
    | _ => counted

/-- `context_for_task`. -/
def contextForTask
    (primitives : Primitives)
    (task : WorkflowTask)
    (anchor : PyDict) :
    Except PyErr ResourceContext := do
  let codeDtype ← primitives.codeDtype (task.codeStr.orElse (.str ""))
  let gathered := task.inputParams.foldl gather ⟨codeDtype, 0, []⟩
  let features :=
    if gathered.textSize = 0 then gathered.features
    else setFeature gathered.features "text_chars"
      (powerBucket gathered.textSize)
  let features := features.insertionSort fun first second =>
    first.1.chars ≤ second.1.chars
  let model := (anchor.get "local_model").orElse (anchor.get "model")
  if model.truthy then
    .ok
      { scope := "model_instance"
        identity := primitives.fingerprint (.list
          [(anchor.get "checkpoint_fingerprint").orElse model,
            anchor.get "revision"])
        backend := primitives.str ((anchor.get "backend").orElse
          ((anchor.get "engine").orElse (.str "vllm")))
        dtype := primitives.str ((anchor.get "dtype").orElse
          ((anchor.get "torch_dtype").orElse (.str "")))
        features := features }
  else
    .ok
      { scope := "task"
        identity := primitives.fingerprint (.list
          [task.codeStr.orElse (.str ""), task.codeSer.orElse (.str "")])
        backend := ""
        dtype := gathered.dtype
        features := features }

/-- The entries that `_prepare_task_resources` puts into the task's data. -/
structure Prepared where
  declaredResources : PyDict
  resources : PyDict
  context : ResourceContext
  decision : ResourceDecision
  modelAnchor : PyDict

/-- The settled memory is noted in a given anchor. -/
def noteMemory
    (anchor effective : PyDict) :
    PyDict :=
  if anchor.isEmpty then
    anchor
  else
    let anchor := anchor.set "gpu_mem" (effective.get "gpu_mem")
    if (effective.get "gpu_mem_limit").truthy then
      anchor.set "gpu_mem_limit" (effective.get "gpu_mem_limit")
    else
      anchor

/-- `data.get("declared_resources") or data.get("resources") or {}`. -/
def declaredOf (task : WorkflowTask) : PyDict :=
  if task.declaredResources.isEmpty then task.resources
  else task.declaredResources

/-- `_prepare_task_resources`. -/
def prepareTaskResources
    (primitives : Primitives)
    (environment : Environment)
    (task : WorkflowTask) :
    Except PyErr Prepared := do
  let anchor ← enrichModelAnchor environment task.modelAnchor
  let _ ← normalizeTaskSemantics task.taskKind task.resources anchor
  let context ← contextForTask primitives task anchor
  let history ← lookup primitives.fingerprint environment.history context
  let decision ← recommendResources (declaredOf task) history anchor
  requireSchedulableResources task.taskKind decision.effective
    (noteMemory anchor decision.effective)
  .ok
    { declaredResources := decision.declared
      resources := decision.effective
      context := context
      decision := decision
      modelAnchor := noteMemory anchor decision.effective }

/-! ## When a task can be prepared -/

/-- The memory suits the kind: some for a GPU task, none and no model else. -/
def SuitsKind
    (kind : TaskKind)
    (anchor : PyDict)
    (needed : Nat) : Prop :=
  ∃ gpuMem, intValue (.int needed) 0 = .ok gpuMem ∧
    match kind with
    | .gpu => 0 < gpuMem
    | .cpu | .io => gpuMem ≤ 0 ∧ (anchor.get "local_model").truthy = false

/--
What the preparation of a task depends on: the checkpoint of its model can be
read, its resources still fit its kind, its code can be parsed, its profile can
be taken from the history, and the memory that it needs is within its limit and
suits its kind.
-/
structure Preparable
    (primitives : Primitives)
    (environment : Environment)
    (task : WorkflowTask)
    (anchor normalized effective history : PyDict)
    (context : ResourceContext)
    (estimate observed : Nat) : Prop where
  enriched : enrichModelAnchor environment task.modelAnchor = .ok anchor
  normal :
    normalizeTaskSemantics task.taskKind task.resources anchor = .ok normalized
  parsed : contextForTask primitives task anchor = .ok context
  known :
    lookup primitives.fingerprint environment.history context = .ok history
  declared : normalizeResources (declaredOf task) = .ok effective
  estimated : modelMemoryMib anchor = .ok estimate
  peak :
    ceilMib (positiveInt (history.get "success_peak_bytes")) peakMargin =
      .ok observed
  within : WithinLimit effective (neededMemory effective history estimate observed)
  suits :
    SuitsKind task.taskKind anchor
      (neededMemory effective history estimate observed)

/-- The task can be prepared. -/
def Schedulable
    (primitives : Primitives)
    (environment : Environment)
    (task : WorkflowTask) : Prop :=
  ∃ anchor normalized effective history context estimate observed,
    Preparable primitives environment task anchor normalized effective history
      context estimate observed

/-- The checks of a task's kind, on the settled memory. -/
theorem requireSchedulable_eq_ok_iff
    (kind : TaskKind)
    (effective anchor : PyDict)
    (needed : Nat) :
    requireSchedulableResources kind (effective.set "gpu_mem" (.int needed))
        anchor = .ok () ↔
      SuitsKind kind anchor needed := by
  have entry : (effective.set "gpu_mem" (.int needed)).get "gpu_mem" =
      .int needed := by
    simp [PyDict.get]
  simp only [requireSchedulableResources, validateTaskResources, bind_eq_ok,
    entry, SuitsKind]
  cases kind with
  | gpu =>
      constructor
      · rintro ⟨_, _, gpuMem, converted, positive⟩
        refine ⟨gpuMem, converted, ?_⟩
        by_contra none
        rw [if_pos ⟨rfl, Int.not_lt.mp none⟩] at positive
        cases positive
      · rintro ⟨gpuMem, converted, positive⟩
        refine ⟨(), ⟨gpuMem, converted, rfl⟩, gpuMem, converted, ?_⟩
        rw [if_neg]
        rintro ⟨_, none⟩
        exact absurd positive (Int.not_lt.mpr none)
  | cpu | io =>
      constructor
      · rintro ⟨_, ⟨gpuMem, converted, checked⟩, _⟩
        refine ⟨gpuMem, converted, ?_⟩
        dsimp only at checked ⊢
        split at checked
        · cases checked
        · rename_i none
          split at checked
          · cases checked
          · rename_i noModel
            exact ⟨Int.not_lt.mp none, by simpa using noModel⟩
      · rintro ⟨gpuMem, converted, none, noModel⟩
        refine ⟨(), ⟨gpuMem, converted, ?_⟩, gpuMem, converted, ?_⟩
        · rw [if_neg (Int.not_lt.mpr none), noModel]
          rfl
        · rfl

/-- Noting the memory in an anchor does not add a local model. -/
theorem noteMemory_localModel
    (anchor effective : PyDict) :
    (noteMemory anchor effective).get "local_model" =
      anchor.get "local_model" := by
  have memory : PyStr.ofString "local_model" ≠ PyStr.ofString "gpu_mem" := by
    decide
  have limit : PyStr.ofString "local_model" ≠ PyStr.ofString "gpu_mem_limit" := by
    decide
  unfold noteMemory
  split
  · rfl
  · dsimp only
    split
    · simp [PyDict.get, memory, limit]
    · simp [PyDict.get, memory]

/-- The preparation returns exactly for the schedulable tasks. -/
theorem prepareTaskResources_returns_iff
    (primitives : Primitives)
    (environment : Environment)
    (task : WorkflowTask) :
    (∃ prepared,
        prepareTaskResources primitives environment task = .ok prepared) ↔
      Schedulable primitives environment task := by
  have suits : ∀ (effective anchor : PyDict) (needed : Nat),
      requireSchedulableResources task.taskKind
          (effective.set "gpu_mem" (.int needed))
          (noteMemory anchor (effective.set "gpu_mem" (.int needed))) =
            .ok () ↔
        SuitsKind task.taskKind anchor needed := by
    intro effective anchor needed
    rw [requireSchedulable_eq_ok_iff]
    simp only [SuitsKind, noteMemory_localModel]
  constructor
  · rintro ⟨prepared, returned⟩
    simp only [prepareTaskResources, bind_eq_ok] at returned
    obtain ⟨anchor, enriched, normalized, normal, context, parsed, history,
      known, decision, recommended, _, required, _⟩ := returned
    obtain ⟨effective, estimate, observed, declared, estimated, peak, within,
      rfl⟩ := (recommendResources_eq_ok_iff _ _ _ _).mp recommended
    exact ⟨anchor, normalized, effective, history, context, estimate, observed,
      enriched, normal, parsed, known, declared, estimated, peak, within,
      (suits effective anchor _).mp required⟩
  · rintro ⟨anchor, normalized, effective, history, context, estimate, observed,
      preparable⟩
    have recommended := (recommendResources_eq_ok_iff (declaredOf task) history
      anchor _).mpr ⟨effective, estimate, observed, preparable.declared,
        preparable.estimated, preparable.peak, preparable.within, rfl⟩
    have required := (suits effective anchor _).mpr preparable.suits
    simp only [prepareTaskResources, bind_eq_ok]
    exact ⟨_, anchor, preparable.enriched, normalized, preparable.normal, context,
      preparable.parsed, history, preparable.known, _, recommended, (), required,
      rfl⟩

end TaskPreparation

end Maze.Core
