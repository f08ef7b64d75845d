import Maze.Core.NormalResources
import Maze.Python.Text

namespace Maze.Core.TaskSemantics

open Maze.Python
open Maze.Core.Resources hiding normalizeTaskSemantics

/-!
# The kind and the resources of a task

`normalize_task_semantics` takes the estimate for the model into the resources, and settles
the kind of the task: the one that is given, or the one that the resources and the model
suggest. A kind does not suit all resources.

The conversions of `_int_value` and of `positive_int` catch every `ValueError`, so the only
`ValueError` that is raised here is `ResourceSpecError`.
-/

/-! ## The functions -/

/--
`normalize_task_kind`, where `str` renders what is no text. Outside of ASCII no character
becomes a letter of a kind when it is lowered. An `int` that JSON holds has at most 4300
digits, so that `str` renders it.
-/
def normalizeTaskKind
    (str : PyVal → PyStr)
    (taskKind : PyVal)
    (resources anchor : PyDict) :
    Except PyErr TaskKind :=
  if taskKind = .null then do
    let gpuMem ← intValue (resources.get "gpu_mem") 0
    if 0 < gpuMem then .ok .gpu
    else if (anchor.get "local_model").truthy then .ok .gpu
    else .ok .cpu
  else
    let normalized : PyStr :=
      ⟨(Number.strip (taskKind.text str).chars).map Number.lower⟩
    match [TaskKind.cpu, .gpu, .io].find? fun kind => kind.text = normalized with
    | some kind => .ok kind
    | none => .error .valueError

/-- `normalize_task_semantics`. -/
def normalizeTaskSemantics
    (str : PyVal → PyStr)
    (taskKind : PyVal)
    (resources anchor : PyDict) :
    Except PyErr (TaskKind × PyDict) := do
  let normalized ← applyModelAnchorEstimate resources anchor
  let kind ← normalizeTaskKind str taskKind normalized anchor
  validateTaskResources kind normalized anchor
  .ok (kind, normalized)

/-! ## Normal forms -/

/-- The amounts are integers within their bounds, and nothing but the hints is beside them. -/
structure NormalForm (form : PyDict) : Prop where
  cpuNum : ∃ amount : ℕ, form.get "cpu_num" = .int amount ∧ 1 ≤ amount
  gpuMem : ∃ amount : ℕ, form.get "gpu_mem" = .int amount
  ioNum : ∃ amount : ℕ, form.get "io_num" = .int amount
  limit : form.get? "gpu_mem_limit" = none ∨
    ∃ amount : ℕ, form.get? "gpu_mem_limit" = some (.int amount) ∧ 0 < amount
  distinct : (form.map Prod.fst).Nodup
  keys : ∀ key ∈ form.map Prod.fst,
    key = "cpu_num" ∨ key = "gpu_mem" ∨ key = "io_num" ∨ key ∈ hintKeys

/--
Normalising ends in a normal form, which is then returned as it is, or in
`ResourceSpecError`.
-/
structure TotalAndIdempotent
    (str : PyVal → PyStr)
    (taskKind : PyVal)
    (resources anchor : PyDict) : Prop where
  resourcesRaise : ∀ raised,
    normalizeResources resources = .error raised → raised = .valueError
  resourcesReturn : ∀ form, normalizeResources resources = .ok form →
    NormalForm form ∧ normalizeResources form = .ok form
  semanticsRaise : ∀ raised,
    normalizeTaskSemantics str taskKind resources anchor = .error raised →
      raised = .valueError
  semanticsReturn : ∀ kind form,
    normalizeTaskSemantics str taskKind resources anchor = .ok (kind, form) →
      NormalForm form ∧
        normalizeTaskSemantics str (.str kind.text) form anchor = .ok (kind, form)

/-! ## What is converted -/

/-- The three amounts are read. -/
structure Readable (resources : PyDict) : Prop where
  cpuNum : ¬Overflows (given resources ["cpu_num", "cpu"])
  ioNum : ¬Overflows (given resources ["io_num"])
  gpuMem : ¬Overflows (given resources ["gpu_mem", "gpu_memory_mb"])

/-- No amount that is read is negative. -/
structure Nonnegative (resources : PyDict) : Prop where
  cpuNum : ∀ number,
    intValue (given resources ["cpu_num", "cpu"]) 1 = .ok number → 0 ≤ number
  ioNum : ∀ number,
    intValue (given resources ["io_num"]) 0 = .ok number → 0 ≤ number
  gpuMem : ∀ number,
    intValue (given resources ["gpu_mem", "gpu_memory_mb"]) 0 = .ok number → 0 ≤ number

/-- The limit is not given, or it is positive. -/
def LimitFits (resources : PyDict) : Prop :=
  (resources.get "gpu_mem_limit" = .null ∨ resources.get "gpu_mem_limit" = .str "") ∨
    ∃ limit, intValue (resources.get "gpu_mem_limit") 0 = .ok limit ∧ 0 < limit

/-- The weight of the model in bytes. -/
def weightBytes (anchor : PyDict) : ℕ :=
  positiveInt
    ((anchor.get "estimated_weight_memory_bytes").orElse (anchor.get "weight_bytes"))

/--
Nothing that is read overflows: neither the three amounts, nor the limit where the amounts
are accepted, nor the margin on the weight of the model where the limit is accepted too.
-/
structure Converts (resources anchor : PyDict) : Prop where
  amounts : Readable resources
  limit : Nonnegative resources → ¬Overflows (resources.get "gpu_mem_limit")
  weight : Nonnegative resources → LimitFits resources →
    weightBytes anchor * weightMargin < Double.overflowBound

section Conversion

variable {resources anchor : PyDict}

/-- An amount that is not read stops everything. -/
theorem normalizeResources_of_unreadable
    (unreadable : ¬Readable resources) :
    normalizeResources resources = .error .overflowError := by
  unfold normalizeResources
  rw [firstInt_eq, firstInt_eq, firstInt_eq]
  by_cases cpu : Overflows (given resources ["cpu_num", "cpu"])
  · rw [(intValue_total _ 1).2 cpu]
    rfl
  obtain ⟨cpuNum, cpuRead⟩ := (intValue_total _ 1).1 cpu
  rw [cpuRead]
  by_cases io : Overflows (given resources ["io_num"])
  · rw [(intValue_total _ 0).2 io]
    rfl
  obtain ⟨ioNum, ioRead⟩ := (intValue_total _ 0).1 io
  rw [ioRead]
  by_cases gpu : Overflows (given resources ["gpu_mem", "gpu_memory_mb"])
  · rw [(intValue_total _ 0).2 gpu]
    rfl
  exact absurd ⟨cpu, io, gpu⟩ unreadable

theorem Readable.read
    (readable : Readable resources) :
    ∃ cpuNum ioNum gpuMem,
      intValue (given resources ["cpu_num", "cpu"]) 1 = .ok cpuNum ∧
        intValue (given resources ["io_num"]) 0 = .ok ioNum ∧
        intValue (given resources ["gpu_mem", "gpu_memory_mb"]) 0 = .ok gpuMem := by
  obtain ⟨cpuNum, cpuRead⟩ := (intValue_total _ 1).1 readable.cpuNum
  obtain ⟨ioNum, ioRead⟩ := (intValue_total _ 0).1 readable.ioNum
  obtain ⟨gpuMem, gpuRead⟩ := (intValue_total _ 0).1 readable.gpuMem
  exact ⟨cpuNum, ioNum, gpuMem, cpuRead, ioRead, gpuRead⟩

/-- What follows once the amounts are read. -/
theorem normalizeResources_of_read
    {cpuNum ioNum gpuMem : ℤ}
    (cpuRead : intValue (given resources ["cpu_num", "cpu"]) 1 = .ok cpuNum)
    (ioRead : intValue (given resources ["io_num"]) 0 = .ok ioNum)
    (gpuRead : intValue (given resources ["gpu_mem", "gpu_memory_mb"]) 0 = .ok gpuMem) :
    normalizeResources resources =
      if cpuNum < 0 ∨ gpuMem < 0 ∨ ioNum < 0 then .error .valueError
      else if resources.get "gpu_mem_limit" = .null ∨
          resources.get "gpu_mem_limit" = .str "" then
        .ok (normalForm (if cpuNum ≤ 0 then 1 else cpuNum) gpuMem ioNum resources.get)
      else
        (do
          let limit ← intValue (resources.get "gpu_mem_limit") 0
          if limit ≤ 0 then .error .valueError
          else
            .ok (normalForm (if cpuNum ≤ 0 then 1 else cpuNum) gpuMem ioNum
              (Function.update resources.get "gpu_mem_limit" (.int limit)))) := by
  rw [normalizeResources_eq]
  exact normalizeResourcesBy_of_read cpuRead ioRead gpuRead

/-- Where nothing overflows, resources are normalized or refused for what they declare. -/
theorem normalizeResources_of_fits
    (readable : Readable resources)
    (limitFits : Nonnegative resources → ¬Overflows (resources.get "gpu_mem_limit")) :
    (∃ form, normalizeResources resources = .ok form ∧ Nonnegative resources ∧
      LimitFits resources) ∨ normalizeResources resources = .error .valueError := by
  obtain ⟨cpuNum, ioNum, gpuMem, cpuRead, ioRead, gpuRead⟩ := readable.read
  rw [normalizeResources_of_read cpuRead ioRead gpuRead]
  by_cases negative : cpuNum < 0 ∨ gpuMem < 0 ∨ ioNum < 0
  · exact .inr (if_pos negative)
  have nonnegative : Nonnegative resources := by
    refine ⟨fun number read => ?_, fun number read => ?_, fun number read => ?_⟩
    · obtain rfl := Except.ok.inj (cpuRead.symm.trans read)
      omega
    · obtain rfl := Except.ok.inj (ioRead.symm.trans read)
      omega
    · obtain rfl := Except.ok.inj (gpuRead.symm.trans read)
      omega
  rw [if_neg negative]
  by_cases absent : resources.get "gpu_mem_limit" = .null ∨
      resources.get "gpu_mem_limit" = .str ""
  · rw [if_pos absent]
    exact .inl ⟨_, rfl, nonnegative, .inl absent⟩
  · obtain ⟨limit, limitRead⟩ := (intValue_total _ 0).1 (limitFits nonnegative)
    rw [if_neg absent, limitRead]
    by_cases positive : limit ≤ 0
    · exact .inr (if_pos positive)
    · exact .inl ⟨_, if_neg positive, nonnegative, .inr ⟨limit, limitRead, by omega⟩⟩

theorem normalizeResources_of_accepted
    (readable : Readable resources)
    (nonnegative : Nonnegative resources)
    (limitFits : LimitFits resources) :
    ∃ form, normalizeResources resources = .ok form := by
  obtain ⟨cpuNum, ioNum, gpuMem, cpuRead, ioRead, gpuRead⟩ := readable.read
  have cpuNonneg := nonnegative.cpuNum _ cpuRead
  have ioNonneg := nonnegative.ioNum _ ioRead
  have gpuNonneg := nonnegative.gpuMem _ gpuRead
  rw [normalizeResources_of_read cpuRead ioRead gpuRead, if_neg (by omega)]
  rcases limitFits with absent | ⟨limit, limitRead, positive⟩
  · exact ⟨_, if_pos absent⟩
  · by_cases absent : resources.get "gpu_mem_limit" = .null ∨
        resources.get "gpu_mem_limit" = .str ""
    · exact ⟨_, if_pos absent⟩
    · rw [if_neg absent, limitRead]
      exact ⟨_, if_neg (by omega)⟩

/-- A limit that overflows is not caught. -/
theorem normalizeResources_of_largeLimit
    (readable : Readable resources)
    (nonnegative : Nonnegative resources)
    (large : Overflows (resources.get "gpu_mem_limit")) :
    normalizeResources resources = .error .overflowError := by
  obtain ⟨cpuNum, ioNum, gpuMem, cpuRead, ioRead, gpuRead⟩ := readable.read
  have cpuNonneg := nonnegative.cpuNum _ cpuRead
  have ioNonneg := nonnegative.ioNum _ ioRead
  have gpuNonneg := nonnegative.gpuMem _ gpuRead
  have given : ¬(resources.get "gpu_mem_limit" = .null ∨
      resources.get "gpu_mem_limit" = .str "") := by
    rw [overflows_iff] at large
    rintro (absent | blank)
    · rw [absent] at large
      cases large
    · rw [blank] at large
      exact absurd large (by decide)
  rw [normalizeResources_of_read cpuRead ioRead gpuRead, if_neg (by omega), if_neg given,
    (intValue_total _ 0).2 large]
  rfl

/-- The estimate for a model is found, or its weight is too large. -/
theorem modelMemoryMib_total (anchor : PyDict) :
    (weightBytes anchor * weightMargin < Double.overflowBound →
        ∃ estimate, modelMemoryMib anchor = .ok estimate) ∧
      (¬weightBytes anchor * weightMargin < Double.overflowBound →
        modelMemoryMib anchor = .error .overflowError) := by
  have margin : (1 : ℚ) ≤ weightMargin := by norm_num [weightMargin]
  obtain ⟨fits, large⟩ := ceilMib_total (representable_positiveInt
    ((anchor.get "estimated_weight_memory_bytes").orElse (anchor.get "weight_bytes"))) margin
  constructor
  · intro small
    obtain ⟨mib, converted⟩ := fits small
    exact ⟨_, bind_eq_ok.mpr ⟨mib, converted, rfl⟩⟩
  · intro overflow
    exact bind_eq_error.mpr (.inl (large overflow))

end Conversion

/-! ## Normal forms are kept -/

section Kept

variable {form anchor : PyDict}

theorem normal_of_normalizeResources
    {resources : PyDict}
    (normalized : normalizeResources resources = .ok form) :
    Normal Amount form := by
  rw [normalizeResources_eq] at normalized
  exact normal_of_normalizeResourcesBy reading_intOfFloat normalized

theorem normalizeResources_of_normal (normal : Normal Amount form) :
    normalizeResources form = .ok form := by
  rw [normalizeResources_eq]
  exact normalizeResourcesBy_of_normal reading_intOfFloat normal

theorem normalForm_of_normal (normal : Normal Amount form) : NormalForm form := by
  obtain ⟨cpuNum, gpuMem, ioNum, value, rfl, positive, cpuAmount, gpuAmount, ioAmount,
    settled⟩ := normal.shape
  have whole {number : ℤ} (amount : Amount number) : ((number.toNat : ℕ) : ℤ) = number :=
    Int.toNat_of_nonneg amount.1
  have found := get?_hint cpuNum gpuMem ioNum value
    (show ("gpu_mem_limit" : PyStr) ∈ hintKeys by decide)
  refine
    { cpuNum := ⟨cpuNum.toNat, by rw [get_cpuNum, whole cpuAmount], by omega⟩
      gpuMem := ⟨gpuMem.toNat, by rw [get_gpuMem, whole gpuAmount]⟩
      ioNum := ⟨ioNum.toNat, by rw [get_ioNum, whole ioAmount]⟩
      limit := ?_
      distinct := nodup_normalForm cpuNum gpuMem ioNum value
      keys := ?_ }
  · rcases settled with absent | ⟨limit, limitIs, limitPositive, limitAmount⟩
    · refine .inl ?_
      rw [found, hintEntry, if_pos absent]
      rfl
    · refine .inr ⟨limit.toNat, ?_, by omega⟩
      rw [found, hintEntry, limitIs, if_neg (by simp), whole limitAmount]
      rfl
  · intro key inside
    rw [normalForm, List.map_append] at inside
    rcases List.mem_append.mp inside with amount | hint
    · simp only [amounts, List.map_cons, List.map_nil, List.mem_cons, List.not_mem_nil,
        or_false] at amount
      tauto
    · obtain ⟨entry, listed, rfl⟩ := List.mem_map.mp hint
      obtain ⟨name, known, made⟩ := List.mem_filterMap.mp listed
      unfold hintEntry at made
      split at made <;> cases made
      exact .inr (.inr (.inr known))

/-- The estimate is taken into a normal form once. -/
theorem applyModelAnchorEstimate_of_normal
    {resources : PyDict}
    {estimate : ℕ}
    (normalized : normalizeResources resources = .ok form)
    (estimated : modelMemoryMib anchor = .ok estimate) :
    ∃ final, applyModelAnchorEstimate resources anchor = .ok final ∧ Normal Amount final ∧
      applyModelAnchorEstimate final anchor = .ok final := by
  have normal := normal_of_normalizeResources normalized
  by_cases none : estimate = 0
  · have kept {declared : PyDict} (same : normalizeResources declared = .ok form) :
        applyModelAnchorEstimate declared anchor = .ok form := by
      rw [applyModelAnchorEstimate, same, estimated]
      exact if_pos none
    exact ⟨form, kept normalized, normal, kept (normalizeResources_of_normal normal)⟩
  obtain ⟨cpuNum, gpuMem, ioNum, value, rfl, positive, cpuAmount, gpuAmount, ioAmount,
    settled⟩ := normal.shape
  have raised {declared : PyDict} {amount : ℤ}
      (same : normalizeResources declared = .ok (normalForm cpuNum amount ioNum value)) :
      applyModelAnchorEstimate declared anchor =
        .ok (normalForm cpuNum (max amount estimate) ioNum value) := by
    rw [applyModelAnchorEstimate, same, estimated]
    exact if_neg none
  have final : Normal Amount (normalForm cpuNum (max gpuMem estimate) ioNum value) :=
    ⟨_, _, _, _, rfl, positive, cpuAmount,
      gpuAmount.max (.ofNat (representable_modelMemoryMib estimated)), ioAmount, settled⟩
  refine ⟨_, raised normalized, final, ?_⟩
  rw [raised (normalizeResources_of_normal final), max_assoc, max_self]

theorem normalizeTaskKind_text
    (str : PyVal → PyStr)
    (kind : TaskKind)
    (resources anchor : PyDict) :
    normalizeTaskKind str (.str kind.text) resources anchor = .ok kind := by
  cases kind <;> rfl

/-- Both checks of a normal form refuse with `ResourceSpecError` only. -/
theorem normalizeTaskKind_error
    {str : PyVal → PyStr}
    {taskKind : PyVal}
    {raised : PyErr}
    (normal : Normal Amount form)
    (refused : normalizeTaskKind str taskKind form anchor = .error raised) :
    raised = .valueError := by
  obtain ⟨cpuNum, gpuMem, ioNum, value, rfl, _, _, gpuAmount, _, _⟩ := normal.shape
  unfold normalizeTaskKind at refused
  split at refused
  · rw [get_gpuMem, gpuAmount.intValue 0] at refused
    change (if 0 < gpuMem then Except.ok TaskKind.gpu else _) = _ at refused
    split at refused
    · cases refused
    · split at refused <;> cases refused
  · dsimp only at refused
    split at refused
    · cases refused
    · exact (Except.error.inj refused).symm

theorem validateTaskResources_error
    {kind : TaskKind}
    {raised : PyErr}
    (normal : Normal Amount form)
    (refused : validateTaskResources kind form anchor = .error raised) :
    raised = .valueError := by
  obtain ⟨cpuNum, gpuMem, ioNum, value, rfl, _, _, gpuAmount, _, _⟩ := normal.shape
  unfold validateTaskResources at refused
  rw [get_gpuMem, gpuAmount.intValue 0] at refused
  cases kind with
  | gpu => cases refused
  | cpu | io =>
      change (if 0 < gpuMem then Except.error PyErr.valueError else _) = _ at refused
      split at refused
      · exact (Except.error.inj refused).symm
      · split at refused
        · exact (Except.error.inj refused).symm
        · cases refused

end Kept

/-! ## The result -/

section Result

variable (str : PyVal → PyStr) (taskKind : PyVal) (resources anchor : PyDict)

/-- Whatever fits is normalized for good, or refused. -/
theorem total_of_converts (converts : Converts resources anchor) :
    TotalAndIdempotent str taskKind resources anchor := by
  have outcome := normalizeResources_of_fits converts.amounts converts.limit
  have resourcesRaise : ∀ raised,
      normalizeResources resources = .error raised → raised = .valueError := by
    intro raised refused
    rcases outcome with ⟨form, normalized, _⟩ | failed
    · rw [normalized] at refused
      cases refused
    · exact Except.error.inj (refused.symm.trans failed)
  -- The semantics are settled on a normal form, or nothing but the resources is refused.
  have settled : normalizeResources resources = .error .valueError ∨
      ∃ final, applyModelAnchorEstimate resources anchor = .ok final ∧ Normal Amount final ∧
        applyModelAnchorEstimate final anchor = .ok final := by
    rcases outcome with ⟨form, normalized, nonnegative, limitFits⟩ | failed
    · obtain ⟨estimate, estimated⟩ :=
        (modelMemoryMib_total anchor).1 (converts.weight nonnegative limitFits)
      exact .inr (applyModelAnchorEstimate_of_normal normalized estimated)
    · exact .inl failed
  refine
    { resourcesRaise := resourcesRaise
      resourcesReturn := fun form normalized => ?_
      semanticsRaise := fun raised refused => ?_
      semanticsReturn := fun kind form returned => ?_ }
  · have normal := normal_of_normalizeResources normalized
    exact ⟨normalForm_of_normal normal, normalizeResources_of_normal normal⟩
  · rcases settled with failed | ⟨final, applied, normal, _⟩
    · have stopped : normalizeTaskSemantics str taskKind resources anchor =
          .error .valueError := by
        rw [normalizeTaskSemantics, applyModelAnchorEstimate, failed]
        rfl
      exact Except.error.inj (refused.symm.trans stopped)
    · unfold normalizeTaskSemantics at refused
      rw [applied] at refused
      rcases bind_eq_error.mp refused with early | ⟨_, same, refused⟩
      · cases early
      cases same
      rcases bind_eq_error.mp refused with kindRefused | ⟨kind, _, refused⟩
      · exact normalizeTaskKind_error normal kindRefused
      rcases bind_eq_error.mp refused with unsuited | ⟨_, _, refused⟩
      · exact validateTaskResources_error normal unsuited
      · cases refused
  · obtain ⟨applied, appliedIs, returned⟩ := bind_eq_ok.mp returned
    obtain ⟨settledKind, _, returned⟩ := bind_eq_ok.mp returned
    obtain ⟨_, validated, same⟩ := bind_eq_ok.mp returned
    cases same
    rcases settled with failed | ⟨final, finalIs, normal, again⟩
    · rw [applyModelAnchorEstimate, failed] at appliedIs
      cases appliedIs
    · obtain rfl := Except.ok.inj (finalIs.symm.trans appliedIs)
      refine ⟨normalForm_of_normal normal, ?_⟩
      unfold normalizeTaskSemantics
      refine bind_eq_ok.mpr ⟨_, again, bind_eq_ok.mpr ⟨kind, ?_, ?_⟩⟩
      · exact normalizeTaskKind_text str kind final anchor
      · exact bind_eq_ok.mpr ⟨(), validated, rfl⟩

end Result

end Maze.Core.TaskSemantics
