import Maze.Core.ResourceAmounts

namespace Maze.Core.Resources

open Maze.Python

/-!
# Resources in normal form

Normalized resources hold the three amounts, whatever of the hints was given, and nothing
else. Whatever `int(float(value))` reads, it reads an amount that it returned once more, so
normalized resources are normalized already. How it reads is left open: as doubles, or as
exact numbers.
-/

/-! ## Reading an amount -/

section Reading

variable (read : PyVal → Except PyErr ℤ)

/-- `_int_value`, where `read` is `int(float(value))`. -/
def intValueBy
    (value : PyVal)
    (default : ℤ) :
    Except PyErr ℤ :=
  match read value with
  | .error .overflowError => .error .overflowError
  | .error _ => .ok default
  | .ok number => .ok number

/-- The first of the keys that is given and not `None`, with its value. -/
def given
    (raw : PyDict)
    (keys : List PyStr) :
    PyVal :=
  ((keys.find? fun key => raw.get key ≠ .null).map raw.get).getD .null

/-- `normalize_resources`, where `read` is `int(float(value))`. -/
def normalizeResourcesBy (raw : PyDict) : Except PyErr PyDict := do
  let cpuNum ← intValueBy read (given raw ["cpu_num", "cpu"]) 1
  let ioNum ← intValueBy read (given raw ["io_num"]) 0
  let gpuMem ← intValueBy read (given raw ["gpu_mem", "gpu_memory_mb"]) 0
  if cpuNum < 0 ∨ gpuMem < 0 ∨ ioNum < 0 then
    .error .valueError
  else
    let amounts : PyDict :=
      [("cpu_num", .int (if cpuNum ≤ 0 then 1 else cpuNum)),
        ("gpu_mem", .int gpuMem), ("io_num", .int ioNum)]
    let normalized := amounts.update (hints raw)
    match normalized.get? "gpu_mem_limit" with
    | none => .ok normalized
    | some limit => do
        let limit ← intValueBy read limit 0
        if limit ≤ 0 then
          .error .valueError
        else
          .ok (normalized.set "gpu_mem_limit" (.int limit))

/-- What is read and not negative is an amount, and an amount is read back. -/
structure Reading (Amount : ℤ → Prop) : Prop where
  nonneg : ∀ number, Amount number → 0 ≤ number
  zero : Amount 0
  one : Amount 1
  returned : ∀ value number, read value = .ok number → 0 ≤ number → Amount number
  back : ∀ number, Amount number → read (.int number) = .ok number

end Reading

/-- The value has no `int`: its `float` is infinite, or it is an `int` that is too large. -/
def Overflows (value : PyVal) : Prop :=
  Number.float value = .error .overflowError ∨
    ∃ negative, Number.float value = .ok (.infinity negative)

/-- An `int` that is not negative and came from a `float`. -/
def Amount (number : ℤ) : Prop :=
  0 ≤ number ∧ Double.Representable number.toNat

theorem firstInt_eq
    (raw : PyDict)
    (keys : List PyStr)
    (default : ℤ) :
    firstInt raw keys default = intValue (given raw keys) default := by
  unfold firstInt given
  cases keys.find? fun key => raw.get key ≠ .null with
  | some key => rfl
  | none => rfl

/-- The amounts of the program are read as doubles. -/
theorem normalizeResources_eq (raw : PyDict) :
    normalizeResources raw = normalizeResourcesBy Number.intOfFloat raw := by
  unfold normalizeResources
  rw [firstInt_eq, firstInt_eq, firstInt_eq]
  rfl

theorem reading_intOfFloat : Reading Number.intOfFloat Amount where
  nonneg _ amount := amount.1
  zero := ⟨le_rfl, by exact_mod_cast Double.Representable.zero⟩
  one :=
    ⟨by norm_num, by exact_mod_cast Double.representable_of_le (by norm_num : 1 ≤ 2 ^ 53)⟩
  returned _ _ converted nonneg := ⟨nonneg, Number.representable_of_intOfFloat converted⟩
  back number amount := by
    have read := Number.intOfFloat_of_representable amount.2
    rwa [Int.toNat_of_nonneg amount.1] at read

theorem overflows_iff (value : PyVal) :
    Overflows value ↔ Number.intOfFloat value = .error .overflowError := by
  unfold Overflows Number.intOfFloat
  rw [bind_eq_error]
  constructor
  · rintro (raised | ⟨negative, infinite⟩)
    · exact .inl raised
    · exact .inr ⟨_, infinite, rfl⟩
  · rintro (raised | ⟨double, converted, truncated⟩)
    · exact .inl raised
    · cases double with
      | nan => cases truncated
      | infinity negative => exact .inr ⟨negative, converted⟩
      | finite value => cases truncated

/-- Only a value that overflows is not read. -/
theorem intValue_total
    (value : PyVal)
    (default : ℤ) :
    (¬Overflows value → ∃ number, intValue value default = .ok number) ∧
      (Overflows value → intValue value default = .error .overflowError) := by
  rw [overflows_iff]
  unfold intValue
  constructor
  · intro fits
    cases read : Number.intOfFloat value with
    | ok number => exact ⟨number, rfl⟩
    | error raised =>
        cases raised with
        | overflowError => exact absurd read fits
        | _ => exact ⟨default, rfl⟩
  · intro overflow
    rw [overflow]

theorem Amount.ofNat
    {number : ℕ}
    (double : Double.Representable number) :
    Amount number :=
  ⟨Int.natCast_nonneg number, by simpa using double⟩

theorem Amount.max
    {first second : ℤ}
    (one : Amount first)
    (other : Amount second) :
    Amount (max first second) := by
  rcases max_choice first second with left | right
  · rwa [left]
  · rwa [right]

/-- An amount is read back. -/
theorem Amount.intValue
    {number : ℤ}
    (amount : Amount number)
    (default : ℤ) :
    intValue (.int number) default = .ok number := by
  rw [Resources.intValue, reading_intOfFloat.back number amount]

/-! ## The normal form -/

/-- The entry for a hint. -/
def hintEntry
    (value : PyStr → PyVal)
    (key : PyStr) :
    Option (PyStr × PyVal) :=
  if value key = .null ∨ value key = .str "" then none else some (key, value key)

/-- The three amounts. -/
def amounts (cpuNum gpuMem ioNum : ℤ) : PyDict :=
  [("cpu_num", .int cpuNum), ("gpu_mem", .int gpuMem), ("io_num", .int ioNum)]

/-- The amounts and the hints that are given. -/
def normalForm
    (cpuNum gpuMem ioNum : ℤ)
    (value : PyStr → PyVal) :
    PyDict :=
  amounts cpuNum gpuMem ioNum ++ hintKeys.filterMap (hintEntry value)

theorem get?_hints
    (keys : List PyStr)
    (value : PyStr → PyVal)
    (key : PyStr) :
    PyDict.get? (keys.filterMap (hintEntry value)) key =
      if key ∈ keys then (hintEntry value key).map Prod.snd else none := by
  induction keys with
  | nil => rfl
  | cons first rest inductionHypothesis =>
      by_cases absent : value first = .null ∨ value first = .str ""
      · have dropped : hintEntry value first = none := if_pos absent
        rw [List.filterMap_cons_none dropped, inductionHypothesis]
        by_cases here : key = first
        · subst here
          rw [if_pos List.mem_cons_self, dropped]
          split <;> rfl
        · simp [here]
      · have kept : hintEntry value first = some (first, value first) := if_neg absent
        rw [List.filterMap_cons_some kept, PyDict.get?_cons]
        by_cases here : key = first
        · subst here
          rw [if_pos rfl, if_pos List.mem_cons_self, kept]
          rfl
        · rw [if_neg here, inductionHypothesis]
          simp [here]

/-- A hint that is given is replaced in its place. -/
theorem set_hints
    {keys : List PyStr}
    (distinct : keys.Nodup)
    {value : PyStr → PyVal}
    {key : PyStr}
    (listed : key ∈ keys)
    {new : PyVal}
    (present : ¬(value key = .null ∨ value key = .str ""))
    (given : ¬(new = .null ∨ new = .str "")) :
    PyDict.set (keys.filterMap (hintEntry value)) key new =
      keys.filterMap (hintEntry (Function.update value key new)) := by
  induction keys with
  | nil => cases listed
  | cons first rest inductionHypothesis =>
      obtain ⟨fresh, distinct⟩ := List.nodup_cons.mp distinct
      by_cases here : key = first
      · subst here
        have kept : hintEntry value key = some (key, value key) := if_neg present
        have replaced : hintEntry (Function.update value key new) key = some (key, new) := by
          unfold hintEntry
          rw [Function.update_self, if_neg given]
        have others : rest.filterMap (hintEntry (Function.update value key new)) =
            rest.filterMap (hintEntry value) := by
          refine List.filterMap_congr fun other inside => ?_
          have differ : other ≠ key := fun same => fresh (same ▸ inside)
          unfold hintEntry
          rw [Function.update_of_ne differ]
        rw [List.filterMap_cons_some kept, List.filterMap_cons_some replaced, PyDict.set,
          if_pos rfl, others]
      · have later := (List.mem_cons.mp listed).resolve_left here
        have same : hintEntry (Function.update value key new) first = hintEntry value first := by
          unfold hintEntry
          rw [Function.update_of_ne (Ne.symm here)]
        rw [List.filterMap_cons, List.filterMap_cons, same]
        split
        · exact inductionHypothesis distinct later
        · next entry found =>
          have named : entry.1 = first := by
            unfold hintEntry at found
            split at found <;> cases found
            rfl
          rw [← inductionHypothesis distinct later]
          obtain ⟨name, old⟩ := entry
          rw [PyDict.set, if_neg fun back => here (back.symm.trans named)]

section Lookups

variable (cpuNum gpuMem ioNum : ℤ) (value : PyStr → PyVal)

@[simp] theorem get_cpuNum :
    PyDict.get (normalForm cpuNum gpuMem ioNum value) "cpu_num" = .int cpuNum := rfl

@[simp] theorem get_gpuMem :
    PyDict.get (normalForm cpuNum gpuMem ioNum value) "gpu_mem" = .int gpuMem := rfl

@[simp] theorem get_ioNum :
    PyDict.get (normalForm cpuNum gpuMem ioNum value) "io_num" = .int ioNum := rfl

theorem get?_hint
    {key : PyStr}
    (listed : key ∈ hintKeys) :
    PyDict.get? (normalForm cpuNum gpuMem ioNum value) key =
      (hintEntry value key).map Prod.snd := by
  have other : ∀ name ∈ hintKeys, name ≠ "cpu_num" ∧ name ≠ "gpu_mem" ∧ name ≠ "io_num" := by
    decide
  obtain ⟨cpu, gpu, io⟩ := other key listed
  have skipped : PyDict.get? (normalForm cpuNum gpuMem ioNum value) key =
      PyDict.get? (hintKeys.filterMap (hintEntry value)) key := by
    rw [normalForm, amounts, List.cons_append, List.cons_append, List.cons_append,
      List.nil_append, PyDict.get?_cons, PyDict.get?_cons, PyDict.get?_cons, if_neg cpu,
      if_neg gpu, if_neg io]
  rw [skipped, get?_hints, if_pos listed]

theorem hintEntry_get
    {key : PyStr}
    (listed : key ∈ hintKeys) :
    hintEntry (PyDict.get (normalForm cpuNum gpuMem ioNum value)) key = hintEntry value key := by
  have found := get?_hint cpuNum gpuMem ioNum value listed
  by_cases absent : value key = .null ∨ value key = .str ""
  · have none : hintEntry value key = none := if_pos absent
    rw [none] at found ⊢
    refine if_pos (.inl ?_)
    rw [PyDict.get, found]
    rfl
  · have some : hintEntry value key = some (key, value key) := if_neg absent
    rw [some] at found ⊢
    have same : PyDict.get (normalForm cpuNum gpuMem ioNum value) key = value key := by
      rw [PyDict.get, found]
      rfl
    unfold hintEntry
    rw [same, if_neg absent]

/-- The hints of a normal form are its own. -/
theorem hints_normalForm :
    hints (normalForm cpuNum gpuMem ioNum value) = hintKeys.filterMap (hintEntry value) :=
  List.filterMap_congr fun _ listed => hintEntry_get cpuNum gpuMem ioNum value listed

theorem set_limit
    {limit : PyVal}
    (present : ¬(value "gpu_mem_limit" = .null ∨ value "gpu_mem_limit" = .str ""))
    (given : ¬(limit = .null ∨ limit = .str "")) :
    PyDict.set (normalForm cpuNum gpuMem ioNum value) "gpu_mem_limit" limit =
      normalForm cpuNum gpuMem ioNum (Function.update value "gpu_mem_limit" limit) := by
  have replaced := @set_hints hintKeys (by decide) value _ (by decide) limit present given
  rw [normalForm, normalForm, ← replaced]
  rfl

theorem nodup_normalForm :
    ((normalForm cpuNum gpuMem ioNum value).map Prod.fst).Nodup := by
  have named (keys : List PyStr) :
      ((keys.filterMap (hintEntry value)).map Prod.fst).Sublist keys := by
    induction keys with
    | nil => exact .slnil
    | cons first rest inductionHypothesis =>
        rw [List.filterMap_cons]
        split
        · exact inductionHypothesis.cons first
        · next entry found =>
          unfold hintEntry at found
          split at found <;> cases found
          exact inductionHypothesis.cons_cons first
  have distinct :
      (("cpu_num" : PyStr) :: "gpu_mem" :: "io_num" :: hintKeys).Nodup := by decide
  refine distinct.sublist ?_
  rw [normalForm, List.map_append]
  exact (List.Sublist.refl _).append (named hintKeys)

end Lookups

/-! ## What is normalized is in normal form -/

section Normal

variable {read : PyVal → Except PyErr ℤ} {Whole : ℤ → Prop}

/-- The limit is absent, or a positive amount. -/
def LimitSettled
    (Whole : ℤ → Prop)
    (value : PyStr → PyVal) : Prop :=
  (value "gpu_mem_limit" = .null ∨ value "gpu_mem_limit" = .str "") ∨
    ∃ limit : ℤ, value "gpu_mem_limit" = .int limit ∧ 0 < limit ∧ Whole limit

/-- Resources as `normalize_resources` returns them. -/
structure Normal
    (Whole : ℤ → Prop)
    (form : PyDict) : Prop where
  shape : ∃ (cpuNum gpuMem ioNum : ℤ) (value : PyStr → PyVal),
    form = normalForm cpuNum gpuMem ioNum value ∧ 1 ≤ cpuNum ∧ Whole cpuNum ∧
      Whole gpuMem ∧ Whole ioNum ∧ LimitSettled Whole value

/-- Once the amounts are read, a negative one and the limit are left. -/
theorem normalizeResourcesBy_of_read
    {raw : PyDict}
    {cpuNum ioNum gpuMem : ℤ}
    (cpuRead : intValueBy read (given raw ["cpu_num", "cpu"]) 1 = .ok cpuNum)
    (ioRead : intValueBy read (given raw ["io_num"]) 0 = .ok ioNum)
    (gpuRead : intValueBy read (given raw ["gpu_mem", "gpu_memory_mb"]) 0 = .ok gpuMem) :
    normalizeResourcesBy read raw =
      if cpuNum < 0 ∨ gpuMem < 0 ∨ ioNum < 0 then .error .valueError
      else if raw.get "gpu_mem_limit" = .null ∨ raw.get "gpu_mem_limit" = .str "" then
        .ok (normalForm (if cpuNum ≤ 0 then 1 else cpuNum) gpuMem ioNum raw.get)
      else
        (do
          let limit ← intValueBy read (raw.get "gpu_mem_limit") 0
          if limit ≤ 0 then .error .valueError
          else
            .ok (normalForm (if cpuNum ≤ 0 then 1 else cpuNum) gpuMem ioNum
              (Function.update raw.get "gpu_mem_limit" (.int limit)))) := by
  have settled (cpu : ℤ) : PyDict.update (amounts cpu gpuMem ioNum) (hints raw) =
      normalForm cpu gpuMem ioNum raw.get :=
    PyDict.update_of_nodup _ _ (nodup_normalForm cpu gpuMem ioNum raw.get)
  unfold normalizeResourcesBy
  rw [cpuRead, ioRead, gpuRead]
  change (if cpuNum < 0 ∨ gpuMem < 0 ∨ ioNum < 0 then Except.error PyErr.valueError
    else match PyDict.get? (PyDict.update
        (amounts (if cpuNum ≤ 0 then 1 else cpuNum) gpuMem ioNum) (hints raw)) "gpu_mem_limit" with
      | none => .ok (PyDict.update
          (amounts (if cpuNum ≤ 0 then 1 else cpuNum) gpuMem ioNum) (hints raw))
      | some limit => (do
          let limit ← intValueBy read limit 0
          if limit ≤ 0 then .error .valueError
          else .ok (PyDict.set (PyDict.update
            (amounts (if cpuNum ≤ 0 then 1 else cpuNum) gpuMem ioNum) (hints raw))
              "gpu_mem_limit" (.int limit)))) = _
  rw [settled, get?_hint _ _ _ _ (by decide)]
  by_cases absent : raw.get "gpu_mem_limit" = .null ∨ raw.get "gpu_mem_limit" = .str ""
  · have dropped : hintEntry raw.get "gpu_mem_limit" = none := if_pos absent
    rw [dropped, if_pos absent]
    rfl
  · have kept : hintEntry raw.get "gpu_mem_limit" =
        some (("gpu_mem_limit" : PyStr), raw.get "gpu_mem_limit") := if_neg absent
    have placed (limit : ℤ) := set_limit (if cpuNum ≤ 0 then 1 else cpuNum) gpuMem ioNum raw.get
      absent (show ¬(PyVal.int limit = .null ∨ PyVal.int limit = .str "") by simp)
    rw [kept, if_neg absent]
    simp only [Option.map_some, placed]

/-- What is read and not negative is an amount. -/
theorem Reading.amount
    (reading : Reading read Whole)
    {value : PyVal}
    {default number : ℤ}
    (fallback : Whole default)
    (found : intValueBy read value default = .ok number)
    (nonneg : 0 ≤ number) :
    Whole number := by
  unfold intValueBy at found
  split at found
  · cases found
  · cases found
    exact fallback
  · next converted =>
    cases found
    exact reading.returned _ _ converted nonneg

theorem Reading.intValueBy
    (reading : Reading read Whole)
    {number : ℤ}
    (amount : Whole number)
    (default : ℤ) :
    intValueBy read (.int number) default = .ok number := by
  rw [Resources.intValueBy, reading.back number amount]

/-- What is returned is in normal form. -/
theorem normal_of_normalizeResourcesBy
    (reading : Reading read Whole)
    {raw form : PyDict}
    (normalized : normalizeResourcesBy read raw = .ok form) :
    Normal Whole form := by
  have returned := normalized
  unfold normalizeResourcesBy at returned
  obtain ⟨cpuNum, cpuRead, returned⟩ := bind_eq_ok.mp returned
  obtain ⟨ioNum, ioRead, returned⟩ := bind_eq_ok.mp returned
  obtain ⟨gpuMem, gpuRead, -⟩ := bind_eq_ok.mp returned
  rw [normalizeResourcesBy_of_read cpuRead ioRead gpuRead] at normalized
  split at normalized
  · cases normalized
  next nonneg =>
  have cpuAmount : Whole cpuNum := reading.amount reading.one cpuRead (by omega)
  have ioAmount : Whole ioNum := reading.amount reading.zero ioRead (by omega)
  have gpuAmount : Whole gpuMem := reading.amount reading.zero gpuRead (by omega)
  have raised : 1 ≤ (if cpuNum ≤ 0 then 1 else cpuNum) ∧
      Whole (if cpuNum ≤ 0 then 1 else cpuNum) := by
    split
    · exact ⟨le_rfl, reading.one⟩
    · exact ⟨by omega, cpuAmount⟩
  split at normalized
  · next absent =>
    cases normalized
    exact ⟨_, _, _, _, rfl, raised.1, raised.2, gpuAmount, ioAmount, .inl absent⟩
  · obtain ⟨limit, limitRead, normalized⟩ := bind_eq_ok.mp normalized
    split at normalized
    · cases normalized
    · next positive =>
      cases normalized
      refine ⟨_, _, _, _, rfl, raised.1, raised.2, gpuAmount, ioAmount, .inr ⟨limit, ?_⟩⟩
      exact ⟨Function.update_self _ _ _, by omega,
        reading.amount reading.zero limitRead (by omega)⟩

/-- A normal form is returned as it is. -/
theorem normalizeResourcesBy_of_normal
    (reading : Reading read Whole)
    {form : PyDict}
    (normal : Normal Whole form) :
    normalizeResourcesBy read form = .ok form := by
  obtain ⟨cpuNum, gpuMem, ioNum, value, rfl, positive, cpuAmount, gpuAmount, ioAmount,
    settled⟩ := normal.shape
  have cpuRead : intValueBy read
      (given (normalForm cpuNum gpuMem ioNum value) ["cpu_num", "cpu"]) 1 = .ok cpuNum :=
    reading.intValueBy cpuAmount 1
  have ioRead : intValueBy read
      (given (normalForm cpuNum gpuMem ioNum value) ["io_num"]) 0 = .ok ioNum :=
    reading.intValueBy ioAmount 0
  have gpuRead : intValueBy read
      (given (normalForm cpuNum gpuMem ioNum value) ["gpu_mem", "gpu_memory_mb"]) 0 =
        .ok gpuMem :=
    reading.intValueBy gpuAmount 0
  have cpuNonneg := reading.nonneg _ cpuAmount
  have gpuNonneg := reading.nonneg _ gpuAmount
  have ioNonneg := reading.nonneg _ ioAmount
  have found := get?_hint cpuNum gpuMem ioNum value
    (show ("gpu_mem_limit" : PyStr) ∈ hintKeys by decide)
  have same : normalForm cpuNum gpuMem ioNum
      (PyDict.get (normalForm cpuNum gpuMem ioNum value)) =
        normalForm cpuNum gpuMem ioNum value := by
    have hinted := hints_normalForm cpuNum gpuMem ioNum value
    change hintKeys.filterMap (hintEntry _) = _ at hinted
    rw [normalForm, hinted]
    rfl
  rw [normalizeResourcesBy_of_read cpuRead ioRead gpuRead, if_neg (by omega),
    if_neg (by omega : ¬cpuNum ≤ 0)]
  rcases settled with absent | ⟨limit, limitIs, limitPositive, limitAmount⟩
  · have none : PyDict.get (normalForm cpuNum gpuMem ioNum value) "gpu_mem_limit" = .null := by
      rw [PyDict.get, found, hintEntry, if_pos absent]
      rfl
    rw [if_pos (.inl none), same]
  · have some : PyDict.get (normalForm cpuNum gpuMem ioNum value) "gpu_mem_limit" =
        .int limit := by
      rw [PyDict.get, found, hintEntry, limitIs, if_neg (by simp)]
      rfl
    have kept : Function.update (PyDict.get (normalForm cpuNum gpuMem ioNum value))
        "gpu_mem_limit" (.int limit) = PyDict.get (normalForm cpuNum gpuMem ioNum value) := by
      rw [← some, Function.update_eq_self]
    rw [some, if_neg (by simp), reading.intValueBy limitAmount 0]
    change (if limit ≤ 0 then Except.error PyErr.valueError else _) = _
    rw [if_neg (by omega), kept, same]

end Normal

end Maze.Core.Resources
