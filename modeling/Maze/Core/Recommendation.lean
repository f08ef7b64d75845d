import Mathlib.Algebra.Order.Floor.Semiring
import Mathlib.Order.Bounds.Basic
import Maze.Core.NormalResources

namespace Maze.Core.Recommendation

open Maze.Python
open Maze.Core.Resources hiding positiveInt peakMargin weightMargin ceilMib modelMemoryMib
  settleMemory recommendResources

/-!
# The memory that is recommended

`recommend_resources` raises the GPU memory of a request to the largest of what is known
about the task, and after an attempt that ran out of memory beyond what the attempt had.
`apply_repair_action` asks it after such an attempt. Here amounts are exact: integers and
rationals are not rounded to doubles.
-/

/-! ## The functions -/

/-- `int(float(value))`, where an `int` and the decimals of a text are not rounded. -/
def exactInt : PyVal → Except PyErr ℤ
  | .int value => .ok value
  | .str value =>
      let (negative, text) := Number.sign (Number.strip value.chars)
      match Number.decimal? text with
      | some number => (Double.finite (if negative then -number else number)).trunc
      | none => Number.intOfFloat (.str value)
  | value => Number.intOfFloat value

/-- `positive_int`. -/
def positiveInt (value : PyVal) : ℕ :=
  match exactInt value with
  | .ok number => number.toNat
  | .error _ => 0

/-- `MIB`. -/
def mib : ℚ := 1024 * 1024

/-- `PEAK_MARGIN`. -/
def peakMargin : ℚ := 115 / 100

/-- `OOM_GROWTH`. -/
def oomGrowth : ℚ := 125 / 100

/-- `model_memory_mib`. -/
def modelMemoryMib (anchor : PyDict) : ℕ :=
  let weight := positiveInt
    ((anchor.get "estimated_weight_memory_bytes").orElse (anchor.get "weight_bytes"))
  max
    (max (positiveInt (anchor.get "gpu_mem"))
      (positiveInt (anchor.get "estimated_gpu_mem_mb")))
    (max (max (positiveInt (anchor.get "estimated_gpu_memory_mb"))
      (positiveInt (anchor.get "gpu_memory_mb"))) ⌈(weight : ℚ) * (12 / 10) / mib⌉₊)

/-- The memory that was allocated when the attempt failed; the peak where it is not known. -/
def allocatedBytes (failure : PyDict) : ℕ :=
  let peak := positiveInt (failure.get "peak_bytes")
  if positiveInt (failure.get "allocated_bytes") = 0 then peak
  else positiveInt (failure.get "allocated_bytes")

/-- The memory that the attempt asked for in vain. -/
def attemptedBytes (failure : PyDict) : ℕ :=
  positiveInt (failure.get "attempted_allocation_bytes")

/-- The amount after a failure, with its source. -/
def afterFailure
    (effective failure : PyDict)
    (current : ℕ × List PyStr) :
    ℕ × List PyStr :=
  let declared := positiveInt (effective.get "gpu_mem")
  let needed := allocatedBytes failure + attemptedBytes failure
  (max (max current.1 ⌈(needed : ℚ) * peakMargin / mib⌉₊)
    (max ⌈(declared : ℚ) * oomGrowth⌉₊ (declared + 256)),
    current.2 ++ [("oom_lower_bound" : PyStr)])

/-- The GPU memory that is settled on, and where it comes from. -/
def settleMemory
    (effective history anchor : PyDict)
    (failure : Option PyDict) :
    ℕ × List PyStr :=
  let peak := positiveInt (history.get "success_peak_bytes")
  let known :=
    raiseTo "oom_history" (positiveInt (history.get "oom_lower_bound_mib"))
      (raiseTo "observed_peak" ⌈(peak : ℚ) * peakMargin / mib⌉₊
        (raiseTo "model_weights" (modelMemoryMib anchor)
          (positiveInt (effective.get "gpu_mem"), ["declared"])))
  match failure with
  | none => known
  | some failure => afterFailure effective failure known

/-- `recommend_resources`. -/
def recommendResources
    (declared history anchor : PyDict)
    (failure : Option PyDict) :
    Except PyErr ResourceDecision := do
  let effective ← normalizeResourcesBy exactInt declared
  let settled := settleMemory effective history anchor failure
  let limit := positiveInt (effective.get "gpu_mem_limit")
  if limit ≠ 0 ∧ limit < settled.1 then
    .error .resourceLimitExceeded
  else
    .ok
      { declared := effective
        effective := effective.set "gpu_mem" (.int settled.1)
        sources := settled.2
        sampleCount := positiveInt (history.get "success_samples") }

/-- What `apply_repair_action` decides about an error of the category `resource`. -/
inductive RepairAction where
  | limitExceeded
  | reanchor (scope : PyVal) (decision : ResourceDecision)
  | retryUnchanged (requested : PyDict)

/-- What `apply_repair_action` reads of a task. -/
structure RepairTask where
  resources : PyDict
  declaredResources : Option PyDict
  modelAnchor : PyDict
  /-- What reading its resource context, or making one, returns or raises. -/
  context : Except PyErr Unit

/-- `failure.get("scope", "task") in {"task", "model_instance"}`. -/
def isTaskScope (scope : PyVal) : Except PyErr Bool :=
  match scope with
  | .list _ | .dict _ => .error .typeError
  | other => .ok (other = .str "task" ∨ other = .str "model_instance")

/-- The scope of a failure. -/
def scopeOf (failure : PyDict) : PyVal :=
  (failure.get? "scope").getD (.str "task")

/-- The request after a failure of the device, or the end of the retries. -/
def reanchor
    (task : RepairTask)
    (failure : PyDict) :
    Except PyErr RepairAction := do
  task.context
  match recommendResources task.resources [] task.modelAnchor (some failure) with
  | .error .resourceLimitExceeded => .ok .limitExceeded
  | .error raised => .error raised
  | .ok decision =>
      .ok (.reanchor (scopeOf failure)
        { decision with declared := task.declaredResources.getD task.resources })

/-- `apply_repair_action`, for a recoverable error of the category `resource`. -/
def applyRepairAction
    (task : RepairTask)
    (error : PyDict) :
    Except PyErr RepairAction :=
  match (error.get "memory_failure").orElse (.dict []) with
  | .dict failure =>
      if PyDict.get failure "device_type" = .str "cuda" then do
        let ofTask ← isTaskScope (scopeOf failure)
        if ofTask then reanchor task failure else .ok (.retryUnchanged task.resources)
      else
        .ok (.retryUnchanged task.resources)
  | _ => .error .attributeError

/-! ## The law -/

/-- The memory of a request. -/
def gpuMem (resources : PyDict) : ℕ :=
  positiveInt (resources.get "gpu_mem")

/-- What an amount has to reach after a failure. -/
structure Grown
    (effective failure : PyDict)
    (amount : ℕ) : Prop where
  step : gpuMem effective + 256 ≤ amount
  growth : (gpuMem effective : ℚ) * oomGrowth ≤ amount
  needed : ((allocatedBytes failure + attemptedBytes failure : ℕ) : ℚ) * peakMargin / mib ≤
    amount

/-- What an amount has to reach. -/
structure Required
    (effective history anchor : PyDict)
    (failure : Option PyDict)
    (amount : ℕ) : Prop where
  declared : gpuMem effective ≤ amount
  model : modelMemoryMib anchor ≤ amount
  peak : ((positiveInt (history.get "success_peak_bytes") : ℕ) : ℚ) * peakMargin / mib ≤ amount
  bound : positiveInt (history.get "oom_lower_bound_mib") ≤ amount
  failed : ∀ record ∈ failure, Grown effective record amount

/-- The request declares a limit, and the amount is beyond it. -/
def Exceeds
    (effective : PyDict)
    (amount : ℕ) : Prop :=
  ∃ limit : ℕ, effective.get "gpu_mem_limit" = .int limit ∧ limit < amount

/-- What one call does. -/
structure Recommends
    (declared history anchor : PyDict)
    (failure : Option PyDict) : Prop where
  refused : ∀ raised, normalizeResourcesBy exactInt declared = .error raised →
    recommendResources declared history anchor failure = .error raised
  settled : ∀ effective, normalizeResourcesBy exactInt declared = .ok effective →
    ∃ amount, IsLeast {amount | Required effective history anchor failure amount} amount ∧
      (recommendResources declared history anchor failure = .error .resourceLimitExceeded ↔
        Exceeds effective amount) ∧
      (¬Exceeds effective amount → ∃ sources,
        recommendResources declared history anchor failure =
          .ok
            { declared := effective
              effective := effective.set "gpu_mem" (.int amount)
              sources := sources
              sampleCount := positiveInt (history.get "success_samples") })

/-- A history in which no less is recorded. -/
structure HistoryLE (history other : PyDict) : Prop where
  peak : positiveInt (history.get "success_peak_bytes") ≤
    positiveInt (other.get "success_peak_bytes")
  bound : positiveInt (history.get "oom_lower_bound_mib") ≤
    positiveInt (other.get "oom_lower_bound_mib")

/-- A failure with no less memory allocated and none less attempted. -/
def FailureLE : Option PyDict → Option PyDict → Prop
  | none, _ => True
  | some _, none => False
  | some failure, some other =>
      allocatedBytes failure ≤ allocatedBytes other ∧
        attemptedBytes failure ≤ attemptedBytes other

/-- A failed attempt: what is known about the task, and what has failed. -/
structure Attempt where
  history : PyDict
  anchor : PyDict
  failure : PyDict

/-- The request for the attempt after a failed one. -/
def nextRequest
    (resources : PyDict)
    (attempt : Attempt) :
    Except PyErr PyDict := do
  let decision ← recommendResources resources attempt.history attempt.anchor
    (some attempt.failure)
  .ok decision.effective

/--
Every attempt after the first asks for at least 256 MiB more than the one before, or the
limit has refused one of them, and it does so in time.
-/
structure Grows
    (resources : PyDict)
    (attempts : List Attempt) : Prop where
  run : attempts.foldlM nextRequest resources = .error .resourceLimitExceeded ∨
    ∃ final, attempts.foldlM nextRequest resources = .ok final ∧
      gpuMem resources + 256 * attempts.length ≤ gpuMem final ∧
      (attempts ≠ [] → ¬Exceeds resources (gpuMem final))
  refused : attempts ≠ [] → Exceeds resources (gpuMem resources + 256 * attempts.length) →
    attempts.foldlM nextRequest resources = .error .resourceLimitExceeded

/-- The repair of a task asks for the next request, or the limit ends the retries. -/
structure Repairs
    (task : RepairTask)
    (failure : PyDict) : Prop where
  decided : ∀ scope decision, reanchor task failure = .ok (.reanchor scope decision) →
    nextRequest task.resources ⟨[], task.modelAnchor, failure⟩ = .ok decision.effective
  ended : reanchor task failure = .ok .limitExceeded →
    nextRequest task.resources ⟨[], task.modelAnchor, failure⟩ = .error .resourceLimitExceeded

/-! ## What is settled is the least that is required -/

theorem exactInt_reading : Reading exactInt (0 ≤ ·) where
  nonneg _ := id
  zero := le_rfl
  one := by norm_num
  returned _ _ _ := id
  back _ _ := rfl

@[simp] theorem positiveInt_natCast (number : ℕ) : positiveInt (.int number) = number := rfl

theorem settleMemory_isLeast
    (effective history anchor : PyDict)
    (failure : Option PyDict) :
    IsLeast {amount | Required effective history anchor failure amount}
      (settleMemory effective history anchor failure).1 := by
  have grown (record : PyDict) (amount : ℕ) : Grown effective record amount ↔
      gpuMem effective + 256 ≤ amount ∧ ⌈(gpuMem effective : ℚ) * oomGrowth⌉₊ ≤ amount ∧
        ⌈((allocatedBytes record + attemptedBytes record : ℕ) : ℚ) * peakMargin / mib⌉₊ ≤
          amount := by
    rw [Nat.ceil_le, Nat.ceil_le]
    exact ⟨fun ⟨step, growth, needed⟩ => ⟨step, growth, needed⟩,
      fun ⟨step, growth, needed⟩ => ⟨step, growth, needed⟩⟩
  have required (amount : ℕ) : Required effective history anchor failure amount ↔
      (settleMemory effective history anchor failure).1 ≤ amount := by
    have known : Required effective history anchor failure amount ↔
        gpuMem effective ≤ amount ∧ modelMemoryMib anchor ≤ amount ∧
          ⌈((positiveInt (history.get "success_peak_bytes") : ℕ) : ℚ) * peakMargin / mib⌉₊ ≤
            amount ∧ positiveInt (history.get "oom_lower_bound_mib") ≤ amount ∧
          ∀ record ∈ failure, Grown effective record amount := by
      rw [Nat.ceil_le]
      exact ⟨fun ⟨declared, model, peak, bound, failed⟩ =>
          ⟨declared, model, peak, bound, failed⟩,
        fun ⟨declared, model, peak, bound, failed⟩ =>
          ⟨declared, model, peak, bound, failed⟩⟩
    rw [known]
    cases failure with
    | none =>
        simp only [settleMemory, raiseTo_fst, max_le_iff, Option.mem_def, reduceCtorEq,
          false_implies, implies_true, and_true]
        exact ⟨fun ⟨declared, model, peak, bound⟩ => ⟨⟨⟨declared, model⟩, peak⟩, bound⟩,
          fun ⟨⟨⟨declared, model⟩, peak⟩, bound⟩ => ⟨declared, model, peak, bound⟩⟩
    | some record =>
        simp only [settleMemory, afterFailure, raiseTo_fst, max_le_iff, Option.mem_def,
          Option.some.injEq, forall_eq', grown]
        exact ⟨fun ⟨declared, model, peak, bound, step, growth, needed⟩ =>
            ⟨⟨⟨⟨⟨declared, model⟩, peak⟩, bound⟩, needed⟩, growth, step⟩,
          fun ⟨⟨⟨⟨⟨declared, model⟩, peak⟩, bound⟩, needed⟩, growth, step⟩ =>
            ⟨declared, model, peak, bound, step, growth, needed⟩⟩
  exact ⟨(required _).mpr le_rfl, fun amount reached => (required amount).mp reached⟩

/-! ## One call -/

section Call

variable {declared effective history anchor : PyDict} {failure : Option PyDict}

theorem normal_of_read
    (normalized : normalizeResourcesBy exactInt declared = .ok effective) :
    Normal (0 ≤ ·) effective :=
  normal_of_normalizeResourcesBy exactInt_reading normalized

/-- The limit of a normal request is absent or positive. -/
theorem limit_of_normal (normal : Normal (0 ≤ ·) effective) :
    effective.get "gpu_mem_limit" = .null ∨
      ∃ limit : ℕ, effective.get "gpu_mem_limit" = .int limit ∧ limit ≠ 0 := by
  obtain ⟨cpuNum, gpuMem, ioNum, value, rfl, _, _, _, _, settled⟩ := normal.shape
  have found := get?_hint cpuNum gpuMem ioNum value
    (show ("gpu_mem_limit" : PyStr) ∈ hintKeys by decide)
  rcases settled with absent | ⟨limit, limitIs, positive, _⟩
  · refine .inl ?_
    rw [PyDict.get, found, hintEntry, if_pos absent]
    rfl
  · refine .inr ⟨limit.toNat, ?_, by omega⟩
    rw [PyDict.get, found, hintEntry, limitIs, if_neg (by simp), Int.toNat_of_nonneg positive.le]
    rfl

theorem exceeds_iff
    (normal : Normal (0 ≤ ·) effective)
    (amount : ℕ) :
    (positiveInt (effective.get "gpu_mem_limit") ≠ 0 ∧
        positiveInt (effective.get "gpu_mem_limit") < amount) ↔ Exceeds effective amount := by
  unfold Exceeds
  rcases limit_of_normal normal with absent | ⟨limit, limitIs, positive⟩
  · rw [absent]
    exact ⟨fun ⟨given, _⟩ => absurd rfl given, fun ⟨_, given, _⟩ => by cases given⟩
  · rw [limitIs, positiveInt_natCast]
    constructor
    · rintro ⟨_, beyond⟩
      exact ⟨limit, rfl, beyond⟩
    · rintro ⟨other, same, beyond⟩
      have equal : limit = other := by simpa using same
      exact ⟨positive, equal ▸ beyond⟩

/-- Only the memory of a normal request is changed. -/
theorem normal_set
    (normal : Normal (0 ≤ ·) effective)
    (amount : ℕ) :
    Normal (0 ≤ ·) (effective.set "gpu_mem" (.int amount)) ∧
      gpuMem (effective.set "gpu_mem" (.int amount)) = amount ∧
      (effective.set "gpu_mem" (.int amount)).get "gpu_mem_limit" =
        effective.get "gpu_mem_limit" ∧
      (effective.set "gpu_mem" (.int amount)).set "gpu_mem" (.int amount) =
        effective.set "gpu_mem" (.int amount) := by
  obtain ⟨cpuNum, gpuMem, ioNum, value, rfl, positive, cpuWhole, _, ioWhole, settled⟩ :=
    normal.shape
  refine ⟨⟨cpuNum, amount, ioNum, value, rfl, positive, cpuWhole,
    Int.natCast_nonneg amount, ioWhole, settled⟩, rfl, ?_, rfl⟩
  rw [PyDict.get, PyDict.get?_set, if_neg (by decide)]
  rfl

/-- Once the request is normalized, only the limit is in the way. -/
theorem recommendResources_of_normalized
    (normalized : normalizeResourcesBy exactInt declared = .ok effective) :
    recommendResources declared history anchor failure =
      if positiveInt (effective.get "gpu_mem_limit") ≠ 0 ∧
          positiveInt (effective.get "gpu_mem_limit") <
            (settleMemory effective history anchor failure).1 then
        .error .resourceLimitExceeded
      else
        .ok
          { declared := effective
            effective := effective.set "gpu_mem"
              (.int (settleMemory effective history anchor failure).1)
            sources := (settleMemory effective history anchor failure).2
            sampleCount := positiveInt (history.get "success_samples") } := by
  rw [recommendResources, normalized]
  rfl

variable (declared history anchor failure) in
theorem recommends : Recommends declared history anchor failure := by
  constructor
  · intro raised refused
    rw [recommendResources, refused]
    rfl
  · intro effective normalized
    have normal := normal_of_read normalized
    refine ⟨_, settleMemory_isLeast effective history anchor failure, ?_, fun within => ?_⟩
    · rw [recommendResources_of_normalized normalized, ← exceeds_iff normal]
      split
      · next beyond => exact iff_of_true rfl beyond
      · next within => exact iff_of_false (fun same => by cases same) within
    · rw [← exceeds_iff normal] at within
      rw [recommendResources_of_normalized normalized, if_neg within]
      exact ⟨_, rfl⟩

/-- What a decision says, in terms of the least amount that is required. -/
theorem decision_spec
    {decision : ResourceDecision}
    (recommended : recommendResources declared history anchor failure = .ok decision) :
    normalizeResourcesBy exactInt declared = .ok decision.declared ∧
      Normal (0 ≤ ·) decision.declared ∧
      ∃ amount,
        IsLeast {amount | Required decision.declared history anchor failure amount} amount ∧
          ¬Exceeds decision.declared amount ∧
          decision.effective = decision.declared.set "gpu_mem" (.int amount) := by
  obtain ⟨effective, normalized, rest⟩ := bind_eq_ok.mp recommended
  have normal := normal_of_read normalized
  rw [recommendResources_of_normalized normalized] at recommended
  split at recommended
  · cases recommended
  · next within =>
    cases recommended
    rw [exceeds_iff normal] at within
    exact ⟨normalized, normal, _, settleMemory_isLeast effective history anchor failure,
      within, rfl⟩

/-- The decision is made again from what it returned. -/
theorem recommend_again
    {decision : ResourceDecision}
    (recommended : recommendResources declared history anchor none = .ok decision) :
    ∃ again, recommendResources decision.effective history anchor none = .ok again ∧
      again.declared = decision.effective ∧ again.effective = decision.effective := by
  obtain ⟨_, normal, amount, least, within, effectiveIs⟩ := decision_spec recommended
  obtain ⟨normalNext, memory, limit, twice⟩ := normal_set normal amount
  rw [← effectiveIs] at normalNext memory limit twice
  have kept := normalizeResourcesBy_of_normal exactInt_reading normalNext
  have still : IsLeast {next | Required decision.effective history anchor none next} amount := by
    refine ⟨?_, fun next required => memory ▸ required.declared⟩
    have held := least.1
    exact
      { declared := memory.le
        model := held.model
        peak := held.peak
        bound := held.bound
        failed := fun record given => by cases given }
  have settled : (settleMemory decision.effective history anchor none).1 = amount :=
    (settleMemory_isLeast _ _ _ _).unique still
  have allowed : ¬Exceeds decision.effective amount := by
    unfold Exceeds at within ⊢
    rwa [limit]
  rw [recommendResources_of_normalized kept, settled,
    if_neg ((exceeds_iff normalNext amount).not.mpr allowed)]
  exact ⟨_, rfl, rfl, twice⟩

/-- An amount that is required now was required with less history and a smaller failure. -/
theorem Required.mono
    {larger : PyDict}
    {worse : Option PyDict}
    {amount : ℕ}
    (more : HistoryLE history larger)
    (grew : FailureLE failure worse)
    (required : Required effective larger anchor worse amount) :
    Required effective history anchor failure amount := by
  have margin : 0 ≤ peakMargin := by norm_num [peakMargin]
  have unit : 0 ≤ mib := by norm_num [mib]
  have scaled {fewer bytes : ℕ} (less : fewer ≤ bytes) :
      (fewer : ℚ) * peakMargin / mib ≤ bytes * peakMargin / mib := by
    have cast : (fewer : ℚ) ≤ bytes := by exact_mod_cast less
    gcongr
  refine
    { declared := required.declared
      model := required.model
      peak := (scaled more.peak).trans required.peak
      bound := more.bound.trans required.bound
      failed := fun record given => ?_ }
  obtain rfl := Option.mem_def.mp given
  cases worse with
  | none => exact grew.elim
  | some other =>
      have grown := required.failed other rfl
      exact ⟨grown.step, grown.growth,
        (scaled (Nat.add_le_add grew.1 grew.2)).trans grown.needed⟩

/-- With less history and a smaller failure no more is recommended. -/
theorem recommend_mono
    {larger : PyDict}
    {worse : Option PyDict}
    {decision : ResourceDecision}
    (more : HistoryLE history larger)
    (grew : FailureLE failure worse)
    (recommended : recommendResources declared larger anchor worse = .ok decision) :
    ∃ smaller, recommendResources declared history anchor failure = .ok smaller ∧
      gpuMem smaller.effective ≤ gpuMem decision.effective := by
  obtain ⟨normalized, normal, amount, least, within, effectiveIs⟩ := decision_spec recommended
  have bound : (settleMemory decision.declared history anchor failure).1 ≤ amount :=
    (settleMemory_isLeast decision.declared history anchor failure).2
      (least.1.mono more grew)
  have allowed : ¬Exceeds decision.declared
      (settleMemory decision.declared history anchor failure).1 := by
    rintro ⟨limit, given, beyond⟩
    exact within ⟨limit, given, by omega⟩
  rw [recommendResources_of_normalized normalized,
    if_neg ((exceeds_iff normal _).not.mpr allowed)]
  refine ⟨_, rfl, ?_⟩
  rw [effectiveIs, (normal_set normal amount).2.1, (normal_set normal _).2.1]
  exact bound

end Call

/-! ## Successive failures -/

/-- After a failure the limit refuses, or the request has grown. -/
theorem nextRequest_step
    {resources : PyDict}
    (normal : Normal (0 ≤ ·) resources)
    (attempt : Attempt) :
    nextRequest resources attempt = .error .resourceLimitExceeded ∨
      ∃ next, nextRequest resources attempt = .ok next ∧ Normal (0 ≤ ·) next ∧
        gpuMem resources + 256 ≤ gpuMem next ∧
        next.get "gpu_mem_limit" = resources.get "gpu_mem_limit" ∧
        ¬Exceeds resources (gpuMem next) := by
  have kept := normalizeResourcesBy_of_normal exactInt_reading normal
  cases recommended : recommendResources resources attempt.history attempt.anchor
      (some attempt.failure) with
  | error raised =>
      refine .inl ?_
      rw [nextRequest, recommended]
      rw [recommendResources_of_normalized kept] at recommended
      split at recommended <;> cases recommended
      rfl
  | ok decision =>
      obtain ⟨normalized, _, amount, least, within, effectiveIs⟩ := decision_spec recommended
      obtain rfl := Except.ok.inj (kept.symm.trans normalized)
      obtain ⟨normalNext, memory, limit, _⟩ := normal_set normal amount
      rw [← effectiveIs] at normalNext memory limit
      refine .inr ⟨decision.effective, ?_, normalNext, ?_, limit, memory ▸ within⟩
      · rw [nextRequest, recommended]
        rfl
      · rw [memory]
        exact (least.1.failed attempt.failure rfl).step

/-- The run of the attempts, by induction on what is left of them. -/
theorem grows
    {resources : PyDict}
    (normal : Normal (0 ≤ ·) resources)
    (attempts : List Attempt) :
    Grows resources attempts := by
  have run : attempts.foldlM nextRequest resources = .error .resourceLimitExceeded ∨
      ∃ final, attempts.foldlM nextRequest resources = .ok final ∧
        gpuMem resources + 256 * attempts.length ≤ gpuMem final ∧
        (attempts ≠ [] → ¬Exceeds resources (gpuMem final)) := by
    induction attempts generalizing resources with
    | nil => exact .inr ⟨resources, rfl, by simp, fun some => absurd rfl some⟩
    | cons attempt rest inductionHypothesis =>
        rw [List.foldlM_cons, List.length_cons]
        rcases nextRequest_step normal attempt with
          refused | ⟨next, asked, normalNext, grown, limit, within⟩
        · rw [refused]
          exact .inl rfl
        rw [asked]
        rcases inductionHypothesis normalNext with refused | ⟨final, ran, larger, allowed⟩
        · exact .inl refused
        have reached : gpuMem resources + 256 * (rest.length + 1) ≤ gpuMem final :=
          calc
            gpuMem resources + 256 * (rest.length + 1)
                = gpuMem resources + 256 + 256 * rest.length := by ring
            _ ≤ gpuMem next + 256 * rest.length := Nat.add_le_add_right grown _
            _ ≤ gpuMem final := larger
        refine .inr ⟨final, ran, reached, fun _ => ?_⟩
        cases rest with
        | nil =>
            cases ran
            exact within
        | cons _ _ =>
            have bound := allowed (List.cons_ne_nil _ _)
            unfold Exceeds at bound ⊢
            rwa [limit] at bound
  refine ⟨run, fun some exceeds => ?_⟩
  rcases run with refused | ⟨final, _, larger, allowed⟩
  · exact refused
  · obtain ⟨limit, given, beyond⟩ := exceeds
    exact absurd ⟨limit, given, beyond.trans_le larger⟩ (allowed some)

theorem repairs
    (task : RepairTask)
    (failure : PyDict) :
    Repairs task failure := by
  constructor
  · intro scope decision repaired
    obtain ⟨_, _, repaired⟩ := bind_eq_ok.mp repaired
    unfold nextRequest
    split at repaired
    · cases repaired
    · cases repaired
    · next recommended =>
      cases repaired
      rw [recommended]
      rfl
  · intro ended
    obtain ⟨_, _, ended⟩ := bind_eq_ok.mp ended
    unfold nextRequest
    split at ended
    · next refused =>
      rw [refused]
      rfl
    · cases ended
    · cases ended

/--
What is recommended is the least amount that is required, within the limit; it grows with the
history and the failure, stays when it is asked for again, and grows with every failure.
-/
theorem recommendation_law
    (declared history anchor : PyDict)
    (failure : Option PyDict) :
    Recommends declared history anchor failure ∧
      (∀ larger worse decision, HistoryLE history larger → FailureLE failure worse →
        recommendResources declared larger anchor worse = .ok decision →
          ∃ smaller, recommendResources declared history anchor failure = .ok smaller ∧
            gpuMem smaller.effective ≤ gpuMem decision.effective) ∧
      (∀ decision, recommendResources declared history anchor none = .ok decision →
        ∃ again, recommendResources decision.effective history anchor none = .ok again ∧
          again.declared = decision.effective ∧ again.effective = decision.effective) ∧
      (∀ resources attempts, normalizeResourcesBy exactInt declared = .ok resources →
        Grows resources attempts) ∧
      ∀ task record, Repairs task record :=
  ⟨recommends declared history anchor failure,
    fun _ _ _ more grew recommended => recommend_mono more grew recommended,
    fun _ recommended => recommend_again recommended,
    fun _ attempts normalized => grows (normal_of_read normalized) attempts,
    repairs⟩

/-- Every size of the failure is at most that of the other. -/
structure SizesLE (failure other : PyDict) : Prop where
  peak : positiveInt (failure.get "peak_bytes") ≤ positiveInt (other.get "peak_bytes")
  allocated : positiveInt (failure.get "allocated_bytes") ≤
    positiveInt (other.get "allocated_bytes")
  attempted : attemptedBytes failure ≤ attemptedBytes other

/-- The peak counts only while no allocated memory is known. -/
theorem recommendResources_notMonotone :
    ¬∀ declared history anchor failure other smaller larger, SizesLE failure other →
      recommendResources declared history anchor (some failure) = .ok smaller →
        recommendResources declared history anchor (some other) = .ok larger →
          gpuMem smaller.effective ≤ gpuMem larger.effective := by
  intro monotone
  let failure : PyDict := [("peak_bytes", .int (2 ^ 30))]
  let other : PyDict := [("peak_bytes", .int (2 ^ 30)), ("allocated_bytes", .int 1)]
  have sizes : SizesLE failure other := ⟨by decide, by decide, by decide⟩
  have normal : normalizeResourcesBy exactInt [] = .ok (normalForm 1 0 0 (PyDict.get [])) := rfl
  have large : (settleMemory (normalForm 1 0 0 (PyDict.get [])) [] [] (some failure)).1 = 1178 := by
    decide +kernel
  have small : (settleMemory (normalForm 1 0 0 (PyDict.get [])) [] [] (some other)).1 = 256 := by
    decide +kernel
  have bound := monotone [] [] [] failure other _ _ sizes
    (recommendResources_of_normalized normal) (recommendResources_of_normalized normal)
  rw [large, small] at bound
  exact absurd bound (by decide)

end Maze.Core.Recommendation
