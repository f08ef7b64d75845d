import Maze.Core.HistoryRecords

namespace Maze.Core.ResourceHistory

open Maze.Python
open Maze.Core.Resources
open Maze.Core.TaskPreparation

/-!
# Tasks that a history makes unschedulable

A task that can be prepared without a history meets the recorded peak and the recorded
lower bound of its context. They raise its request, and the request then passes the
checks of its kind once more. A GPU task passes them with any request. A task of another
kind passes them only with none, so a recorded amount stops it.
-/

/-! ## The history that a file shows -/

/-- The entries of a profile in the parsed file. -/
structure Shows
    (fields : PyDict)
    (profile : Profile) : Prop where
  samples : fields.get? "success_samples" = some (.int profile.successSamples)
  peak : fields.get? "success_peak_bytes" = some (.int profile.successPeakBytes)
  lowerBound : fields.get? "oom_lower_bound_mib" = some (.int profile.oomLowerBoundMib)

/-- The parsed file has exactly the profiles of the store. -/
def Holds
    (file : HistoryFile)
    (store : Store) : Prop :=
  ∃ data entries, load file = .ok data ∧ data.get "profiles" = .dict entries ∧
    ∀ key, match store.profiles.lookup key with
      | none => PyDict.get? entries key = none
      | some profile =>
          ∃ fields, PyDict.get? entries key = some (.dict fields) ∧ Shows fields profile

/-- A store in which nothing has been recorded. -/
def Store.empty : Store := ⟨[], []⟩

/-- Without a file nothing has been recorded. -/
theorem absent_holds : Holds .absent Store.empty :=
  ⟨empty, [], rfl, rfl, fun _ => rfl⟩

/-- The largest recorded amount for the context, with the one of its model. -/
def known
    (fingerprint : PyVal → PyStr)
    (store : Store)
    (context : ResourceContext)
    (amount : Profile → ℕ) :
    ℕ :=
  let own := ((store.profiles.lookup (context.key fingerprint)).map amount).getD 0
  if context.scope = PyStr.ofString "model_instance" ∧ context.features ≠ [] then
    max own ((((store.profiles.lookup
      ({ context with features := [] }.key fingerprint)).map amount).getD 0))
  else
    own

/-- The entry of a profile that is not there counts as zero. -/
def Reads
    (fields : PyDict)
    (key : PyStr)
    (amount : ℕ) : Prop :=
  fields.get? key = some (.int amount) ∨ fields.get? key = none ∧ amount = 0

theorem Reads.intEntry
    {fields : PyDict}
    {key : PyStr}
    {amount : ℕ}
    (reads : Reads fields key amount) :
    intEntry fields key = .ok (amount : ℤ) := by
  rcases reads with found | ⟨absent, rfl⟩
  · rw [ResourceHistory.intEntry, found]
    rfl
  · rw [ResourceHistory.intEntry, absent]
    rfl

theorem Reads.positiveInt
    {fields : PyDict}
    {key : PyStr}
    {amount : ℕ}
    (reads : Reads fields key amount) :
    positiveInt (fields.get key) = Resources.positiveInt (.int amount) := by
  rcases reads with found | ⟨absent, rfl⟩
  · rw [PyDict.get, found]
    rfl
  · rw [PyDict.get, absent]
    decide +kernel

/-- The profile of a key, as `lookup` takes it from the parsed file. -/
theorem Holds.fields
    {store : Store}
    {entries : PyDict}
    (holds : ∀ key, match store.profiles.lookup key with
      | none => PyDict.get? entries key = none
      | some profile =>
          ∃ fields, PyDict.get? entries key = some (.dict fields) ∧ Shows fields profile)
    (key : PyStr) :
    ∃ fields, (PyDict.get? entries key).getD (.dict []) = .dict fields ∧
      Reads fields "success_samples"
        (((store.profiles.lookup key).map Profile.successSamples).getD 0) ∧
      Reads fields "success_peak_bytes"
        (((store.profiles.lookup key).map Profile.successPeakBytes).getD 0) ∧
      Reads fields "oom_lower_bound_mib"
        (((store.profiles.lookup key).map Profile.oomLowerBoundMib).getD 0) := by
  have here := holds key
  cases found : store.profiles.lookup key with
  | none =>
      rw [found] at here
      exact ⟨[], by rw [here]; rfl, .inr ⟨rfl, rfl⟩, .inr ⟨rfl, rfl⟩, .inr ⟨rfl, rfl⟩⟩
  | some profile =>
      rw [found] at here
      obtain ⟨fields, entry, shows_⟩ := here
      exact ⟨fields, by rw [entry]; rfl, .inl shows_.samples, .inl shows_.peak,
        .inl shows_.lowerBound⟩

/-- Joining two profiles takes the larger amounts. -/
theorem joinBase_of_reads
    {own base : PyDict}
    {peak basePeak bound baseBound samples baseSamples : ℕ}
    (readsPeak : Reads own "success_peak_bytes" peak)
    (readsBasePeak : Reads base "success_peak_bytes" basePeak)
    (readsBound : Reads own "oom_lower_bound_mib" bound)
    (readsBaseBound : Reads base "oom_lower_bound_mib" baseBound)
    (readsSamples : Reads own "success_samples" samples)
    (readsBaseSamples : Reads base "success_samples" baseSamples) :
    ∃ history, joinBase own base = .ok history ∧
      history.get "success_peak_bytes" = .int (max peak basePeak : ℕ) ∧
      history.get "oom_lower_bound_mib" = .int (max bound baseBound : ℕ) := by
  have peakBound : PyStr.ofString "success_peak_bytes" ≠
      PyStr.ofString "oom_lower_bound_mib" := by decide
  have peakSamples : PyStr.ofString "success_peak_bytes" ≠
      PyStr.ofString "success_samples" := by decide
  have boundSamples : PyStr.ofString "oom_lower_bound_mib" ≠
      PyStr.ofString "success_samples" := by decide
  have joined : joinBase own base =
      .ok (((own.set "success_peak_bytes" (.int (max (peak : ℤ) basePeak))).set
        "oom_lower_bound_mib" (.int (max (bound : ℤ) baseBound))).set
          "success_samples" (.int ((samples : ℤ) + baseSamples))) := by
    simp only [joinBase, readsPeak.intEntry, readsBasePeak.intEntry, readsBound.intEntry,
      readsBaseBound.intEntry, readsSamples.intEntry, readsBaseSamples.intEntry, bind,
      Except.bind]
  refine ⟨_, joined, ?_, ?_⟩
  · simp [PyDict.get, peakBound, peakSamples]
  · simp [PyDict.get, boundSamples]

/-- What `lookup` returns for a file that holds the store. -/
theorem lookup_of_holds
    {file : HistoryFile}
    {store : Store}
    (fingerprint : PyVal → PyStr)
    (holds : Holds file store)
    (context : ResourceContext) :
    ∃ history, lookup fingerprint file context = .ok history ∧
      positiveInt (history.get "success_peak_bytes") =
        positiveInt (.int (known fingerprint store context Profile.successPeakBytes)) ∧
      positiveInt (history.get "oom_lower_bound_mib") =
        positiveInt (.int (known fingerprint store context Profile.oomLowerBoundMib)) := by
  obtain ⟨data, entries, loaded, profiles, shown⟩ := holds
  obtain ⟨own, ownEntry, ownSamples, ownPeak, ownBound⟩ :=
    Holds.fields shown (context.key fingerprint)
  obtain ⟨base, baseEntry, baseSamples, basePeak, baseBound⟩ :=
    Holds.fields shown ({ context with features := [] }.key fingerprint)
  by_cases joined : context.scope = PyStr.ofString "model_instance" ∧ context.features ≠ []
  · obtain ⟨history, returned, peak, bound⟩ := joinBase_of_reads ownPeak basePeak ownBound
      baseBound ownSamples baseSamples
    refine ⟨history, ?_, ?_, ?_⟩
    · simp only [lookup, loaded, profiles, ownEntry, baseEntry, dictOf, bind, Except.bind,
        if_pos joined, returned]
    · rw [peak, known, if_pos joined]
    · rw [bound, known, if_pos joined]
  · refine ⟨own, ?_, ?_, ?_⟩
    · simp only [lookup, loaded, profiles, ownEntry, dictOf, bind, Except.bind, if_neg joined]
    · rw [known, if_neg joined]
      exact ownPeak.positiveInt
    · rw [known, if_neg joined]
      exact ownBound.positiveInt

/-! ## Tasks that met no history -/

/-- The context of a task; no history is asked. -/
def contextOf
    (primitives : Primitives)
    (checkpoint : PyVal → Except PyErr (Option Checkpoint))
    (task : WorkflowTask) :
    Except PyErr ResourceContext := do
  let anchor ← enrichModelAnchor ⟨.absent, checkpoint⟩ task.modelAnchor
  contextForTask primitives task anchor

/-- The `gpu_mem_limit` that the task declares; zero for none. -/
def declaredLimit (task : WorkflowTask) : ℕ :=
  match normalizeResources (declaredOf task) with
  | .ok declared => positiveInt (declared.get "gpu_mem_limit")
  | .error _ => 0

/--
The recorded amounts suit the task: the margin on the peak does not leave the range of a
`float`, and the task is a GPU task, or nothing is recorded, or what is recorded exceeds
the limit that the task declares.
-/
def Compatible
    (kind : TaskKind)
    (limit peak lowerBound : ℕ) : Prop :=
  ∃ observed, ceilMib peak peakMargin = .ok observed ∧
    (kind = .gpu ∨ peak = 0 ∧ positiveInt (.int lowerBound) = 0 ∨
      limit ≠ 0 ∧ limit < max observed (positiveInt (.int lowerBound)))

/--
The task that was prepared without a history is prepared with at least the same amount,
which suits its kind, or its limit is exceeded.
-/
def Kept
    (primitives : Primitives)
    (environment : Environment)
    (task : WorkflowTask)
    (without : Prepared) : Prop :=
  (∃ prepared least amount,
      prepareTaskResources primitives environment task = .ok prepared ∧
        without.resources.get "gpu_mem" = .int least ∧
        prepared.resources.get "gpu_mem" = .int amount ∧ least ≤ amount ∧
        requireSchedulableResources task.taskKind prepared.resources
          prepared.modelAnchor = .ok ()) ∨
    prepareTaskResources primitives environment task = .error .resourceLimitExceeded

/-- What the task asks for by itself. -/
def ownMemory
    (effective : PyDict)
    (estimate : ℕ) :
    ℕ :=
  max (positiveInt (effective.get "gpu_mem")) estimate

/-- The amounts that are gathered are doubles, and so is the largest of them. -/
theorem ownMemory_representable
    {effective anchor : PyDict}
    {estimate : ℕ}
    (estimated : modelMemoryMib anchor = .ok estimate) :
    Double.Representable (ownMemory effective estimate) :=
  Representable_max (representable_positiveInt _) (representable_modelMemoryMib estimated)

/-- What the preparation knows before it asks the history. -/
structure Asked
    (primitives : Primitives)
    (checkpoint : PyVal → Except PyErr (Option Checkpoint))
    (task : WorkflowTask)
    (anchor normalized effective : PyDict)
    (context : ResourceContext)
    (estimate : ℕ) : Prop where
  enriched : ∀ file, enrichModelAnchor ⟨file, checkpoint⟩ task.modelAnchor = .ok anchor
  normal :
    normalizeTaskSemantics task.taskKind task.resources anchor = .ok normalized
  parsed : contextForTask primitives task anchor = .ok context
  declared : normalizeResources (declaredOf task) = .ok effective
  estimated : modelMemoryMib anchor = .ok estimate

section Preparation

variable {primitives : Primitives} {checkpoint : PyVal → Except PyErr (Option Checkpoint)}
  {task : WorkflowTask} {anchor normalized effective history : PyDict}
  {context : ResourceContext} {estimate : ℕ} {file : HistoryFile}

/-- What the preparation does with the history that it has looked up. -/
theorem prepareTaskResources_of_asked
    (asked : Asked primitives checkpoint task anchor normalized effective context estimate)
    (known : lookup primitives.fingerprint file context = .ok history) :
    prepareTaskResources primitives ⟨file, checkpoint⟩ task = (do
      let decision ← recommendResources (declaredOf task) history anchor
      requireSchedulableResources task.taskKind decision.effective
        (noteMemory anchor decision.effective)
      .ok
        { declaredResources := decision.declared
          resources := decision.effective
          context := context
          decision := decision
          modelAnchor := noteMemory anchor decision.effective }) := by
  simp only [prepareTaskResources, asked.enriched file, asked.normal, asked.parsed, known,
    bind, Except.bind]

/-- A peak whose margin leaves the range of a `float` raises another error. -/
theorem prepareTaskResources_of_overflow
    {raised : PyErr}
    (asked : Asked primitives checkpoint task anchor normalized effective context estimate)
    (known : lookup primitives.fingerprint file context = .ok history)
    (overflow : ceilMib (positiveInt (history.get "success_peak_bytes")) peakMargin =
      .error raised) :
    prepareTaskResources primitives ⟨file, checkpoint⟩ task = .error raised := by
  rw [prepareTaskResources_of_asked asked known]
  simp only [recommendResources, asked.declared, asked.estimated, overflow, bind,
    Except.bind]

/-- An amount above the limit is reported as such. -/
theorem prepareTaskResources_of_exceeded
    {observed : ℕ}
    (asked : Asked primitives checkpoint task anchor normalized effective context estimate)
    (known : lookup primitives.fingerprint file context = .ok history)
    (peak : ceilMib (positiveInt (history.get "success_peak_bytes")) peakMargin =
      .ok observed)
    (exceeded : ¬WithinLimit effective (neededMemory effective history estimate observed)) :
    prepareTaskResources primitives ⟨file, checkpoint⟩ task =
      .error .resourceLimitExceeded := by
  have limited : positiveInt (effective.get "gpu_mem_limit") ≠ 0 ∧
      positiveInt (effective.get "gpu_mem_limit") <
        (settleMemory effective history estimate observed).1 := by
    rw [settleMemory_fst]
    unfold WithinLimit at exceeded
    omega
  rw [prepareTaskResources_of_asked asked known]
  simp only [recommendResources, asked.declared, asked.estimated, peak, bind, Except.bind,
    if_pos limited]

/-- Below the limit the checks of the kind decide. -/
theorem prepareTaskResources_of_within
    {observed : ℕ}
    (asked : Asked primitives checkpoint task anchor normalized effective context estimate)
    (known : lookup primitives.fingerprint file context = .ok history)
    (peak : ceilMib (positiveInt (history.get "success_peak_bytes")) peakMargin =
      .ok observed)
    (within : WithinLimit effective (neededMemory effective history estimate observed)) :
    ∃ prepared : Prepared,
      prepared.resources = effective.set "gpu_mem"
          (.int (neededMemory effective history estimate observed)) ∧
        prepared.modelAnchor = noteMemory anchor prepared.resources ∧
        prepareTaskResources primitives ⟨file, checkpoint⟩ task =
          (requireSchedulableResources task.taskKind prepared.resources
            prepared.modelAnchor >>= fun _ => .ok prepared) := by
  obtain ⟨decision, recommended, settled⟩ : ∃ decision : ResourceDecision,
      recommendResources (declaredOf task) history anchor = .ok decision ∧
        decision.effective = effective.set "gpu_mem"
          (.int (neededMemory effective history estimate observed)) :=
    ⟨_, (recommendResources_eq_ok_iff (declaredOf task) history anchor _).mpr
      ⟨effective, estimate, observed, asked.declared, asked.estimated, peak, within, rfl⟩,
      rfl⟩
  refine ⟨⟨decision.declared, decision.effective, context, decision,
    noteMemory anchor decision.effective⟩, settled, rfl, ?_⟩
  rw [prepareTaskResources_of_asked asked known, recommended]
  rfl

/-- The checks of the kind, after the memory has been noted in the anchor. -/
theorem requireSchedulable_noteMemory_iff
    (needed : ℕ)
    (noted : PyDict) :
    requireSchedulableResources task.taskKind (effective.set "gpu_mem" (.int needed))
        (noteMemory anchor noted) = .ok () ↔
      SuitsKind task.taskKind anchor needed := by
  rw [requireSchedulable_eq_ok_iff]
  simp only [SuitsKind, noteMemory_localModel]

/-- A request that is a double suits a GPU task if it asks for memory, and others if not. -/
theorem suitsKind_iff
    {needed : ℕ}
    (double : Double.Representable needed) :
    SuitsKind task.taskKind anchor needed ↔
      if task.taskKind = .gpu then needed ≠ 0
      else needed = 0 ∧ (anchor.get "local_model").truthy = false := by
  simp only [SuitsKind, intValue_of_representable double, Except.ok.injEq,
    exists_eq_left']
  cases task.taskKind with
  | gpu => simp [Nat.pos_iff_ne_zero]
  | cpu | io => simp

/-- `_int_value` does not speak of a limit. -/
theorem intValue_error
    {value : PyVal}
    {default : ℤ} :
    intValue value default ≠ .error .resourceLimitExceeded := by
  unfold intValue
  split <;> simp

/-- The checks of the kind do not speak of a limit. -/
theorem requireSchedulable_error
    {kind : TaskKind}
    {resources : PyDict} :
    requireSchedulableResources kind resources anchor ≠
      .error .resourceLimitExceeded := by
  intro refused
  have validates : validateTaskResources kind resources anchor ≠
      .error .resourceLimitExceeded := by
    intro refused
    rcases bind_eq_error.mp refused with converted | ⟨gpuMem, _, refused⟩
    · exact intValue_error converted
    · cases kind with
      | gpu => cases refused
      | cpu | io =>
          dsimp only at refused
          split at refused
          · cases refused
          · split at refused <;> cases refused
  rcases bind_eq_error.mp refused with refused | ⟨_, _, refused⟩
  · exact validates refused
  · rcases bind_eq_error.mp refused with converted | ⟨gpuMem, _, refused⟩
    · exact intValue_error converted
    · split at refused <;> cases refused

/-- The conversion of a peak does not speak of a limit. -/
theorem ceilMib_error
    {bytes : ℕ}
    {margin : ℚ} :
    ceilMib bytes margin ≠ .error .resourceLimitExceeded := by
  intro refused
  rcases bind_eq_error.mp refused with floated | ⟨double, _, refused⟩
  · unfold Double.ofInt at floated
    split at floated <;> cases floated
  · rcases bind_eq_error.mp refused with ceiled | ⟨ceiling, _, refused⟩
    · unfold Double.ceil at ceiled
      split at ceiled <;> cases ceiled
    · cases refused

/-- A task that was accepted without a history, in terms of what was known then. -/
theorem asked_of_accepted
    {without : Prepared}
    (accepted : prepareTaskResources primitives ⟨.absent, checkpoint⟩ task = .ok without) :
    ∃ anchor normalized effective context estimate,
      Asked primitives checkpoint task anchor normalized effective context estimate ∧
        WithinLimit effective (ownMemory effective estimate) ∧
        SuitsKind task.taskKind anchor (ownMemory effective estimate) ∧
        without.resources = effective.set "gpu_mem" (.int (ownMemory effective estimate)) := by
  have returned := accepted
  simp only [prepareTaskResources, bind_eq_ok] at returned
  obtain ⟨anchor, enriched, normalized, normal, context, parsed, history, found, decision,
    recommended, _, _, _⟩ := returned
  obtain ⟨effective, estimate, observed, declared, estimated, peak, within, _⟩ :=
    (recommendResources_eq_ok_iff _ _ _ _).mp recommended
  have asked : Asked primitives checkpoint task anchor normalized effective context
      estimate := ⟨fun _ => enriched, normal, parsed, declared, estimated⟩
  obtain ⟨history', found', noPeak, noBound⟩ :=
    lookup_of_holds primitives.fingerprint absent_holds context
  obtain rfl := Except.ok.inj (found.symm.trans found')
  have unknown (amount : Profile → ℕ) :
      known primitives.fingerprint Store.empty context amount = 0 := by
    unfold known
    split <;> rfl
  rw [unknown, Nat.cast_zero, positiveInt_zero] at noPeak noBound
  rw [noPeak, ceilMib_zero] at peak
  obtain rfl := Except.ok.inj peak
  have needed : neededMemory effective history estimate 0 = ownMemory effective estimate := by
    rw [neededMemory, noBound, Nat.max_self, Nat.max_zero]
    rfl
  have peak' : ceilMib (positiveInt (history.get "success_peak_bytes")) peakMargin =
      .ok 0 := by rw [noPeak, ceilMib_zero]
  obtain ⟨prepared, resources, noted, same⟩ :=
    prepareTaskResources_of_within asked found peak' within
  rw [needed] at resources within
  rw [accepted] at same
  obtain ⟨_, schedulable, same⟩ := bind_eq_ok.mp same.symm
  obtain rfl := Except.ok.inj same
  refine ⟨anchor, normalized, effective, context, estimate, asked, within, ?_, resources⟩
  rw [noted, resources] at schedulable
  exact (requireSchedulable_noteMemory_iff _ _).mp schedulable

/-- The recorded peak of a context was a `float` once. -/
theorem representable_known
    {store : Store}
    (sound : Sound store)
    (fingerprint : PyVal → PyStr)
    (context : ResourceContext) :
    Double.Representable (known fingerprint store context Profile.successPeakBytes) := by
  have one (key : PyStr) : Double.Representable
      (((store.profiles.lookup key).map Profile.successPeakBytes).getD 0 : ℕ) := by
    cases found : store.profiles.lookup key with
    | none => exact_mod_cast Double.Representable.zero
    | some profile =>
        obtain ⟨before, after, split, _⟩ := List.lookup_eq_some_iff.mp found
        refine sound (key, profile) ?_
        rw [split]
        simp
  unfold known
  split
  · exact Representable_max (one _) (one _)
  · exact one _

/--
A task that is accepted without a history is still accepted with a recorded one, for at
least the same request, or its limit is exceeded, exactly if what is recorded for its
context suits it.
-/
theorem recorded_history_kept_iff
    {without : Prepared}
    (accepted : prepareTaskResources primitives ⟨.absent, checkpoint⟩ task = .ok without)
    (calls : List RecordCall)
    (holds : Holds file (recordAll primitives.fingerprint calls Store.empty)) :
    Kept primitives ⟨file, checkpoint⟩ task without ↔
      ∃ context, contextOf primitives checkpoint task = .ok context ∧
        Compatible task.taskKind (declaredLimit task)
          (known primitives.fingerprint
            (recordAll primitives.fingerprint calls Store.empty) context
            Profile.successPeakBytes)
          (known primitives.fingerprint
            (recordAll primitives.fingerprint calls Store.empty) context
            Profile.oomLowerBoundMib) := by
  have sound : Sound (recordAll primitives.fingerprint calls Store.empty) :=
    Sound.recordAll (fun _ member => by cases member) calls
  generalize recordAll primitives.fingerprint calls Store.empty = store at holds sound
  obtain ⟨anchor, normalized, effective, context, estimate, asked, within, suits,
    resources⟩ := asked_of_accepted accepted
  have contextIs : contextOf primitives checkpoint task = .ok context := by
    simp only [contextOf, asked.enriched, asked.parsed, bind, Except.bind]
  have limitIs : declaredLimit task = positiveInt (effective.get "gpu_mem_limit") := by
    rw [declaredLimit, asked.declared]
  obtain ⟨history, found, peakIs, boundIs⟩ :=
    lookup_of_holds primitives.fingerprint holds context
  rw [positiveInt_of_representable (representable_known sound _ context)] at peakIs
  simp only [contextIs, Except.ok.injEq, exists_eq_left', limitIs]
  generalize known primitives.fingerprint store context Profile.successPeakBytes = peak
    at peakIs
  generalize known primitives.fingerprint store context Profile.oomLowerBoundMib = bound
    at boundIs
  cases observedIs : ceilMib peak peakMargin with
  | error raised =>
      have raises := prepareTaskResources_of_overflow asked found (peakIs ▸ observedIs)
      constructor
      · rintro (⟨_, _, _, returned, _⟩ | exceeded)
        · rw [raises] at returned
          cases returned
        · rw [raises] at exceeded
          obtain rfl := Except.error.inj exceeded
          exact (ceilMib_error observedIs).elim
      · rintro ⟨observed, converted, _⟩
        rw [observedIs] at converted
        cases converted
  | ok observed =>
      have converted : ceilMib (positiveInt (history.get "success_peak_bytes")) peakMargin =
          .ok observed := peakIs ▸ observedIs
      have margin : (1 : ℚ) ≤ peakMargin := by norm_num [peakMargin]
      have unobserved : observed = 0 ↔ peak = 0 := by
        constructor
        · intro zero
          by_contra given
          exact (ceilMib_spec margin observedIs).2 given zero
        · rintro rfl
          rw [ceilMib_zero] at observedIs
          exact (Except.ok.inj observedIs).symm
      have needed : neededMemory effective history estimate observed =
          max (ownMemory effective estimate) (max observed (positiveInt (.int bound))) := by
        rw [neededMemory, boundIs]
        rfl
      have own : Double.Representable (ownMemory effective estimate) :=
        ownMemory_representable asked.estimated
      have double : Double.Representable
          (neededMemory effective history estimate observed) := by
        rw [needed]
        exact Representable_max own (Representable_max (ceilMib_spec margin observedIs).1
          (representable_positiveInt _))
      by_cases fits : WithinLimit effective (neededMemory effective history estimate observed)
      · obtain ⟨prepared, settled, noted, returned⟩ :=
          prepareTaskResources_of_within asked found converted fits
        have schedulable : requireSchedulableResources task.taskKind prepared.resources
              prepared.modelAnchor = .ok () ↔
            (if task.taskKind = .gpu then
              neededMemory effective history estimate observed ≠ 0
            else neededMemory effective history estimate observed = 0 ∧
              (anchor.get "local_model").truthy = false) := by
          rw [noted, settled, requireSchedulable_noteMemory_iff, suitsKind_iff double]
        rw [suitsKind_iff own] at suits
        have kept : Kept primitives ⟨file, checkpoint⟩ task without ↔
            requireSchedulableResources task.taskKind prepared.resources
              prepared.modelAnchor = .ok () := by
          constructor
          · rintro (⟨_, _, _, accepted', _, _, _, _⟩ | exceeded)
            · rw [returned] at accepted'
              obtain ⟨_, checked, _⟩ := bind_eq_ok.mp accepted'
              exact checked
            · rw [returned] at exceeded
              rcases bind_eq_error.mp exceeded with refused | ⟨_, _, refused⟩
              · exact absurd refused requireSchedulable_error
              · cases refused
          · intro checked
            refine .inl ⟨prepared, ownMemory effective estimate,
              neededMemory effective history estimate observed, ?_, ?_, ?_, ?_, checked⟩
            · rw [returned, checked]
              rfl
            · rw [resources]
              simp [PyDict.get]
            · rw [settled]
              simp [PyDict.get]
            · rw [needed]
              exact_mod_cast Nat.le_max_left _ _
        rw [kept, schedulable]
        rw [needed] at fits ⊢
        unfold WithinLimit at fits
        constructor
        · intro suitable
          refine ⟨observed, observedIs, ?_⟩
          split at suitable
          · next gpu => exact .inl gpu
          · refine .inr (.inl ⟨unobserved.mp ?_, ?_⟩) <;> omega
        · rintro ⟨observed', converted', compatible⟩
          obtain rfl := Except.ok.inj (observedIs.symm.trans converted')
          rcases compatible with gpu | ⟨noPeak, noBound⟩ | ⟨limited, exceeds⟩
          · rw [if_pos gpu] at suits ⊢
            omega
          · rw [unobserved.mpr noPeak, noBound, Nat.max_self, Nat.max_zero]
            exact suits
          · omega
      · have exceeded := prepareTaskResources_of_exceeded asked found converted fits
        refine ⟨fun _ => ⟨observed, observedIs, .inr (.inr ?_)⟩, fun _ => .inr exceeded⟩
        rw [needed] at fits
        unfold WithinLimit at fits within
        omega

end Preparation

/-! ## A CPU task that has used a GPU -/

deriving instance DecidableEq for ResourceContext, ResourceDecision, Prepared, Profile,
  Store

/-- A CPU task that declares no resources. -/
def cpuTask : WorkflowTask where
  taskName := "b"
  taskKind := .cpu
  resources := []
  declaredResources := []
  modelAnchor := []
  codeStr := .str "def b(): pass"
  codeSer := .null
  inputParams := []

/-- The digests are those of the code of the task and of its context. -/
def cpuPrimitives : Primitives where
  str := fun _ => ""
  fingerprint := fun value =>
    if value = .list [.str "def b(): pass", .str ""] then
      "3552f9ad655366a0522894daa96f5c8a74a013f65cec1b0fc69ab894a3ab202d"
    else
      "5a045cf701fb0799396b68c2ab8fc011bc43dee8ba32b5d191278f4e1e231205"
  codeDtype := fun _ => .ok ""

/-- A successful attempt of the task, in which its process has used this much of a GPU. -/
def measuredCall (peak : ℕ) : RecordCall where
  status := "succeeded"
  requestedResources := []
  metrics := [("gpu_memory_peak_allocated_bytes", .int peak), ("memory_scope", .str "task")]
  error := none
  context := some
    ⟨"task", "3552f9ad655366a0522894daa96f5c8a74a013f65cec1b0fc69ab894a3ab202d", "", "", []⟩
  observationId := none
  requiredGpuMemMib := 0
  recordedTime := 0
  saved := true

/-- The file after an attempt that has used no GPU. -/
def unusedHistory : HistoryFile :=
  .content (Utf8.encodePoints (PyStr.ofString
    "\x7b\"schema_version\": 3, \"profiles\": \x7b\"5a045cf701fb0799396b68c2ab8fc011bc43dee8ba32b5d191278f4e1e231205\": \x7b\"oom_lower_bound_mib\": 0, \"success_peak_bytes\": 0, \"success_samples\": 1\x7d\x7d\x7d").chars)

/-- The file after an attempt that has used one MiB. -/
def measuredHistory : HistoryFile :=
  .content (Utf8.encodePoints (PyStr.ofString
    "\x7b\"schema_version\": 3, \"profiles\": \x7b\"5a045cf701fb0799396b68c2ab8fc011bc43dee8ba32b5d191278f4e1e231205\": \x7b\"oom_lower_bound_mib\": 0, \"success_peak_bytes\": 1048576, \"success_samples\": 1\x7d\x7d\x7d").chars)

/-- What the task is prepared with when there is no history. -/
def cpuPrepared : Prepared where
  declaredResources := [("cpu_num", .int 1), ("gpu_mem", .int 0), ("io_num", .int 0)]
  resources := [("cpu_num", .int 1), ("gpu_mem", .int 0), ("io_num", .int 0)]
  context :=
    ⟨"task", "3552f9ad655366a0522894daa96f5c8a74a013f65cec1b0fc69ab894a3ab202d", "", "", []⟩
  decision :=
    { declared := [("cpu_num", .int 1), ("gpu_mem", .int 0), ("io_num", .int 0)]
      effective := [("cpu_num", .int 1), ("gpu_mem", .int 0), ("io_num", .int 0)]
      sources := ["declared"]
      sampleCount := 0 }
  modelAnchor := []

theorem cpuTask_accepted :
    prepareTaskResources cpuPrimitives ⟨.absent, fun _ => .ok none⟩ cpuTask =
      .ok cpuPrepared := by
  decide +kernel

/-- The store after one attempt of the task. -/
def measuredStore (peak : ℕ) : Store :=
  ⟨[("5a045cf701fb0799396b68c2ab8fc011bc43dee8ba32b5d191278f4e1e231205",
    ⟨1, peak, 0, 0⟩)], []⟩

/-- A file whose only profile is the one of the task. -/
theorem holds_measuredStore
    {file : HistoryFile}
    {peak : ℕ}
    (loaded : (load file).toOption.any (fun data =>
      decide (data.get "profiles" = .dict
        [("5a045cf701fb0799396b68c2ab8fc011bc43dee8ba32b5d191278f4e1e231205",
          .dict [("oom_lower_bound_mib", .int 0), ("success_peak_bytes", .int peak),
            ("success_samples", .int 1)])])) = true) :
    Holds file (measuredStore peak) := by
  cases read : load file with
  | error raised =>
      rw [read] at loaded
      cases loaded
  | ok data =>
      rw [read] at loaded
      refine ⟨data, _, read, of_decide_eq_true loaded, fun key => ?_⟩
      by_cases same :
          key = PyStr.ofString "5a045cf701fb0799396b68c2ab8fc011bc43dee8ba32b5d191278f4e1e231205"
      · simp only [measuredStore, Library.Dict.lookup_cons, same, if_true, PyDict.get?_cons]
        exact ⟨_, rfl, ⟨rfl, rfl, rfl⟩⟩
      · simp [measuredStore, Library.Dict.lookup_cons, same]

theorem recordAll_measuredCall_zero :
    recordAll cpuPrimitives.fingerprint [measuredCall 0] Store.empty = measuredStore 0 := by
  decide +kernel

theorem recordAll_measuredCall :
    recordAll cpuPrimitives.fingerprint [measuredCall 1048576] Store.empty =
      measuredStore 1048576 := by
  decide +kernel

theorem unusedHistory_holds :
    Holds unusedHistory
      (recordAll cpuPrimitives.fingerprint [measuredCall 0] Store.empty) := by
  rw [recordAll_measuredCall_zero]
  exact holds_measuredStore (by decide +kernel)

theorem measuredHistory_holds :
    Holds measuredHistory
      (recordAll cpuPrimitives.fingerprint [measuredCall 1048576] Store.empty) := by
  rw [recordAll_measuredCall]
  exact holds_measuredStore (by decide +kernel)

/-- An attempt that has used no GPU leaves the task as it was. -/
theorem unused_history_kept :
    Kept cpuPrimitives ⟨unusedHistory, fun _ => .ok none⟩ cpuTask cpuPrepared := by
  refine (recorded_history_kept_iff cpuTask_accepted [measuredCall 0]
    unusedHistory_holds).mpr ⟨cpuPrepared.context, by decide +kernel, ?_⟩
  rw [recordAll_measuredCall_zero]
  exact ⟨0, by decide +kernel, .inr (.inl (by decide +kernel))⟩

/--
The CPU task is accepted without a history. After one successful attempt in which its
process has used one MiB of a GPU, preparing it raises another error than
`ResourceLimitExceeded`.
-/
theorem measured_history_refused :
    prepareTaskResources cpuPrimitives ⟨.absent, fun _ => .ok none⟩ cpuTask =
        .ok cpuPrepared ∧
      Holds measuredHistory
        (recordAll cpuPrimitives.fingerprint [measuredCall 1048576] Store.empty) ∧
      ¬Kept cpuPrimitives ⟨measuredHistory, fun _ => .ok none⟩ cpuTask cpuPrepared := by
  refine ⟨cpuTask_accepted, measuredHistory_holds, ?_⟩
  have refused : prepareTaskResources cpuPrimitives ⟨measuredHistory, fun _ => .ok none⟩
      cpuTask = .error .valueError := by
    decide +kernel
  rintro (⟨_, _, _, returned, _⟩ | exceeded)
  · rw [refused] at returned
    cases returned
  · rw [refused] at exceeded
    cases exceeded

end Maze.Core.ResourceHistory
