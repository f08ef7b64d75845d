import Maze.Python.Number

namespace Maze.Core

open Maze.Python

/-!
# Resources of tasks

`maze.core.workflow.resources` normalizes what a task declares, and
`maze.core.resource_policy` estimates the GPU memory that it needs: the largest
of the declared amount, the estimate for its model, the peak that earlier runs
have shown and the amount that was once too little.
-/

/-- `TASK_KINDS`. -/
inductive TaskKind where
  | cpu
  | gpu
  | io
  deriving DecidableEq

/-- The kind as it is stored. -/
def TaskKind.text : TaskKind → PyStr
  | .cpu => "cpu"
  | .gpu => "gpu"
  | .io => "io"

namespace Resources

/-- `RESOURCE_HINT_KEYS`. -/
def hintKeys : List PyStr :=
  ["target_node_id", "node_id", "avoid_node_ids", "required_capability",
    "gpu_mem_limit"]

/-- `_int_value`: an overflow is not caught. -/
def intValue
    (value : PyVal)
    (default : Int) :
    Except PyErr Int :=
  match Number.intOfFloat value with
  | .error .overflowError => .error .overflowError
  | .error _ => .ok default
  | .ok number => .ok number

/-- The first of the keys that is given and not `None`. -/
def firstInt
    (raw : PyDict)
    (keys : List PyStr)
    (default : Int) :
    Except PyErr Int :=
  match keys.find? fun key => raw.get key ≠ .null with
  | some key => intValue (raw.get key) default
  | none => .ok default

/-- The scheduling hints that are given. -/
def hints (raw : PyDict) : PyDict :=
  hintKeys.filterMap fun key =>
    if raw.get key = .null ∨ raw.get key = .str "" then none
    else some (key, raw.get key)

/-- `normalize_resources`. -/
def normalizeResources (raw : PyDict) : Except PyErr PyDict := do
  let cpuNum ← firstInt raw ["cpu_num", "cpu"] 1
  let ioNum ← firstInt raw ["io_num"] 0
  let gpuMem ← firstInt raw ["gpu_mem", "gpu_memory_mb"] 0
  if cpuNum < 0 ∨ gpuMem < 0 ∨ ioNum < 0 then
    .error .valueError
  else
    let amounts : PyDict :=
      [("cpu_num", .int (if cpuNum ≤ 0 then 1 else cpuNum)),
        ("gpu_mem", .int gpuMem), ("io_num", .int ioNum)]
    let normalized := amounts.update (hints raw)
    match normalized.get? "gpu_mem_limit" with
    | none => .ok normalized
    | some limit => do
        let limit ← intValue limit 0
        if limit ≤ 0 then
          .error .valueError
        else
          .ok (normalized.set "gpu_mem_limit" (.int limit))

/-- `positive_int`. -/
def positiveInt (value : PyVal) : Nat :=
  match Number.intOfFloat value with
  | .ok number => number.toNat
  | .error _ => 0

/-- The double `1.15`, `PEAK_MARGIN`. -/
def peakMargin : ℚ :=
  2589569785738035 / 2251799813685248

/-- The double `1.2`. -/
def weightMargin : ℚ :=
  5404319552844595 / 4503599627370496

/-- `math.ceil(bytes * margin / MIB)`. -/
def ceilMib
    (bytes : Nat)
    (margin : ℚ) :
    Except PyErr Nat := do
  let bytes ← Double.ofInt bytes
  let mib ← ((bytes.mul margin).mul (1 / 2 ^ 20)).ceil
  .ok mib.toNat

/-- `model_memory_mib`. -/
def modelMemoryMib (anchor : PyDict) : Except PyErr Nat := do
  let weight := positiveInt
    ((anchor.get "estimated_weight_memory_bytes").orElse
      (anchor.get "weight_bytes"))
  let weightMib ← ceilMib weight weightMargin
  .ok (max
    (max (positiveInt (anchor.get "gpu_mem"))
      (positiveInt (anchor.get "estimated_gpu_mem_mb")))
    (max (max (positiveInt (anchor.get "estimated_gpu_memory_mb"))
      (positiveInt (anchor.get "gpu_memory_mb"))) weightMib))

/-- `apply_model_anchor_estimate`. -/
def applyModelAnchorEstimate
    (resources anchor : PyDict) :
    Except PyErr PyDict := do
  let normalized ← normalizeResources resources
  let estimate ← modelMemoryMib anchor
  if estimate = 0 then
    .ok normalized
  else
    match normalized.get "gpu_mem" with
    | .int gpuMem => .ok (normalized.set "gpu_mem" (.int (max gpuMem estimate)))
    | _ => .error .typeError

/-- `validate_task_resources`. -/
def validateTaskResources
    (kind : TaskKind)
    (resources anchor : PyDict) :
    Except PyErr Unit := do
  let gpuMem ← intValue (resources.get "gpu_mem") 0
  match kind with
  | .gpu => .ok ()
  | .cpu | .io =>
      if 0 < gpuMem then .error .valueError
      else if (anchor.get "local_model").truthy then .error .valueError
      else .ok ()

/-- `normalize_task_semantics` for a task whose kind is known. -/
def normalizeTaskSemantics
    (kind : TaskKind)
    (resources anchor : PyDict) :
    Except PyErr PyDict := do
  let normalized ← applyModelAnchorEstimate resources anchor
  validateTaskResources kind normalized anchor
  .ok normalized

/-- `require_schedulable_resources`. -/
def requireSchedulableResources
    (kind : TaskKind)
    (resources anchor : PyDict) :
    Except PyErr Unit := do
  validateTaskResources kind resources anchor
  let gpuMem ← intValue (resources.get "gpu_mem") 0
  if kind = .gpu ∧ gpuMem ≤ 0 then .error .valueError else .ok ()

/-- `ResourceDecision` without its context. -/
structure ResourceDecision where
  declared : PyDict
  effective : PyDict
  sources : List PyStr
  sampleCount : Nat

/-- A larger amount replaces the amount, and its source is noted. -/
def raiseTo
    (source : PyStr)
    (amount : Nat)
    (current : Nat × List PyStr) :
    Nat × List PyStr :=
  if current.1 < amount then (amount, current.2 ++ [source]) else current

/-- The GPU memory that is settled on, and where it comes from. -/
def settleMemory
    (effective history : PyDict)
    (estimate observed : Nat) :
    Nat × List PyStr :=
  raiseTo "oom_history" (positiveInt (history.get "oom_lower_bound_mib"))
    (raiseTo "observed_peak" observed
      (raiseTo "model_weights" estimate
        (positiveInt (effective.get "gpu_mem"), ["declared"])))

/-- `recommend_resources` of a task that has not failed. -/
def recommendResources
    (declared history anchor : PyDict) :
    Except PyErr ResourceDecision := do
  let effective ← normalizeResources declared
  let estimate ← modelMemoryMib anchor
  let observed ← ceilMib (positiveInt (history.get "success_peak_bytes"))
    peakMargin
  let settled := settleMemory effective history estimate observed
  let limit := positiveInt (effective.get "gpu_mem_limit")
  if limit ≠ 0 ∧ limit < settled.1 then
    .error .resourceLimitExceeded
  else
    .ok
      { declared := effective
        effective := effective.set "gpu_mem" (.int settled.1)
        sources := settled.2
        sampleCount := positiveInt (history.get "success_samples") }

/-! ## The settled memory -/

/-- The memory that a task needs: the largest of what is known about it. -/
def neededMemory
    (effective history : PyDict)
    (estimate observed : Nat) :
    Nat :=
  max (max (positiveInt (effective.get "gpu_mem")) estimate)
    (max observed (positiveInt (history.get "oom_lower_bound_mib")))

/-- The memory is within the limit of the task, if it has one. -/
def WithinLimit
    (effective : PyDict)
    (needed : Nat) : Prop :=
  positiveInt (effective.get "gpu_mem_limit") = 0 ∨
    needed ≤ positiveInt (effective.get "gpu_mem_limit")

theorem raiseTo_fst
    (source : PyStr)
    (amount : Nat)
    (current : Nat × List PyStr) :
    (raiseTo source amount current).1 = max current.1 amount := by
  unfold raiseTo
  split
  · rename_i larger
    exact (Nat.max_eq_right (Nat.le_of_lt larger)).symm
  · rename_i smaller
    exact (Nat.max_eq_left (Nat.le_of_not_lt smaller)).symm

theorem settleMemory_fst
    (effective history : PyDict)
    (estimate observed : Nat) :
    (settleMemory effective history estimate observed).1 =
      neededMemory effective history estimate observed := by
  simp only [settleMemory, raiseTo_fst, neededMemory, Nat.max_assoc]

/-- Once everything is known, only the limit can be in the way. -/
theorem recommendResources_eq_ok_iff
    (declared history anchor : PyDict)
    (decision : ResourceDecision) :
    recommendResources declared history anchor = .ok decision ↔
      ∃ effective estimate observed,
        normalizeResources declared = .ok effective ∧
          modelMemoryMib anchor = .ok estimate ∧
          ceilMib (positiveInt (history.get "success_peak_bytes")) peakMargin =
            .ok observed ∧
          WithinLimit effective
            (neededMemory effective history estimate observed) ∧
          decision =
            { declared := effective
              effective := effective.set "gpu_mem"
                (.int (neededMemory effective history estimate observed))
              sources := (settleMemory effective history estimate observed).2
              sampleCount :=
                positiveInt (history.get "success_samples") } := by
  have limited : ∀ effective estimate observed,
      (¬ (positiveInt (effective.get "gpu_mem_limit") ≠ 0 ∧
          positiveInt (effective.get "gpu_mem_limit") <
            neededMemory effective history estimate observed)) ↔
        WithinLimit effective
          (neededMemory effective history estimate observed) := by
    intro effective estimate observed
    unfold WithinLimit
    omega
  simp only [recommendResources, bind_eq_ok, settleMemory_fst]
  constructor
  · rintro ⟨effective, normal, estimate, estimated, observed, peak, settled⟩
    split at settled
    · cases settled
    · rename_i within
      refine ⟨effective, estimate, observed, normal, estimated, peak,
        (limited effective estimate observed).mp within, ?_⟩
      exact (Except.ok.inj settled).symm
  · rintro ⟨effective, estimate, observed, normal, estimated, peak, within, rfl⟩
    refine ⟨effective, normal, estimate, estimated, observed, peak, ?_⟩
    rw [if_neg ((limited effective estimate observed).mpr within)]

end Resources

end Maze.Core
