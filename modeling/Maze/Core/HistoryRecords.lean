import Maze.Core.ResourceAmounts
import Maze.Core.TaskPreparation
import Maze.Library.Dict

namespace Maze.Core.ResourceHistory

open Maze.Python
open Maze.Library
open Maze.Core.Resources

/-!
# Recording in the resource history

`ResourceHistoryStore.record` keeps, for the context of a task, the largest peak of its
successful attempts and the largest amount that was once too little. The preparation of
a later task turns both into its request. What a recorded profile means for a task that
could be scheduled without it is stated here.
-/

/-! ## The recorder -/

/-- `GPU_PEAK_KEYS`. -/
def gpuPeakKeys : List PyStr :=
  ["gpu_memory_peak_reserved_bytes", "gpu_memory_peak_allocated_bytes",
    "peak_cuda_reserved_bytes", "peak_cuda_allocated_bytes", "gpu_memory_observed_bytes"]

/-- `MAX_PROFILES`. -/
def maxProfiles : ℕ := 1024

/-- `MAX_OBSERVATION_IDS`. -/
def maxObservationIds : ℕ := 8192

/-- A profile; only the entries that decisions are made from, and its time. -/
structure Profile where
  successSamples : ℕ
  successPeakBytes : ℕ
  oomLowerBoundMib : ℕ
  lastObservedTime : ℚ

/-- What `resource_history.json` keeps of the profiles. -/
structure Store where
  profiles : List (PyStr × Profile)
  observationIds : List PyStr

/-- The arguments of `record`, and whether `_save` can write the file. -/
structure RecordCall where
  status : PyStr
  requestedResources : PyDict
  metrics : PyDict
  /-- `None` unless the error is a dictionary. -/
  error : Option PyDict
  context : Option ResourceContext
  observationId : Option PyStr
  requiredGpuMemMib : ℤ
  recordedTime : ℚ
  saved : Bool

/-- `_peak_gpu_bytes`. -/
def peakGpuBytes (metrics : PyDict) : Except PyErr ℤ := do
  let values ← gpuPeakKeys.mapM fun key => intValue (metrics.get key) 0
  match values with
  | [] => .ok 0
  | first :: rest => .ok (rest.foldl max first)

/-- `observed_peak_bytes`. -/
def observedPeakBytes (metrics : PyDict) : Option ℕ :=
  match gpuPeakKeys.filterMap fun key => (metrics.get? key).map positiveInt with
  | [] => none
  | first :: rest => some (rest.foldl max first)

/-- Whether the error says that the memory was missed while a model was loaded. -/
def failedWhileLoading (error : Option PyDict) : Except PyErr Bool :=
  match ((error.getD []).get? "memory_failure").getD (.dict []) with
  | .dict failure => .ok (PyDict.get failure "phase" = .str "load")
  | _ => .error .attributeError

/-- Whether the amount that a failed attempt needed says something about its context. -/
def countsForContext
    (call : RecordCall)
    (context : ResourceContext) :
    Except PyErr Bool :=
  if context.scope = PyStr.ofString "task" ∨ context.features ≠ [] then .ok true
  else failedWhileLoading call.error

/-- The peak of a successful attempt is noted if it was measured in the same scope. -/
def notePeak
    (call : RecordCall)
    (context : ResourceContext)
    (profile : Profile) :
    Profile :=
  match observedPeakBytes call.metrics with
  | some peak =>
      if call.status = PyStr.ofString "succeeded" ∧
          (call.metrics.get? "memory_scope").getD (.str "task") = .str context.scope then
        { profile with
          successSamples := profile.successSamples + 1
          successPeakBytes := max profile.successPeakBytes peak }
      else
        profile
  | none => profile

/-- The amount that a failed attempt needed is noted. -/
def noteLowerBound
    (call : RecordCall)
    (context : ResourceContext)
    (profile : Profile) :
    Except PyErr Profile := do
  if call.status ≠ PyStr.ofString "succeeded" ∧ call.requiredGpuMemMib ≠ 0 then
    let counts ← countsForContext call context
    if counts then
      .ok { profile with
        oomLowerBoundMib :=
          (max (profile.oomLowerBoundMib : ℤ) call.requiredGpuMemMib).toNat }
    else
      .ok profile
  else
    .ok profile

/-- The key of the profile that was observed the longest ago. -/
def oldest : List (PyStr × Profile) → Option PyStr
  | [] => none
  | first :: rest =>
      some (rest.foldl (fun best entry =>
        if entry.2.lastObservedTime < best.2.lastObservedTime then entry else best)
          first).1

/-- The oldest profile is given up when there are too many. -/
def prune (profiles : List (PyStr × Profile)) : List (PyStr × Profile) :=
  if maxProfiles < profiles.length then
    match oldest profiles with
    | some key => Dict.erase profiles key
    | none => profiles
  else
    profiles

/-- The profile of the context, if the call has one, is brought up to date. -/
def recordProfile
    (fingerprint : PyVal → PyStr)
    (call : RecordCall)
    (profiles : List (PyStr × Profile)) :
    Except PyErr (List (PyStr × Profile)) :=
  match call.context with
  | none => .ok profiles
  | some context => do
      let key := context.key fingerprint
      let profile := (profiles.lookup key).getD ⟨0, 0, 0, 0⟩
      let profile ← noteLowerBound call context (notePeak call context profile)
      .ok (prune
        (Dict.set profiles key { profile with lastObservedTime := call.recordedTime }))

/-- `ResourceHistoryStore.record`; the file is written with sorted keys. -/
def record
    (fingerprint : PyVal → PyStr)
    (call : RecordCall)
    (store : Store) :
    Except PyErr Store := do
  let _ ← normalizeResources call.requestedResources
  let _ ← peakGpuBytes call.metrics
  let observationIds := call.observationId.toList.filter fun id => !id.isEmpty
  if observationIds.any store.observationIds.contains then
    .ok store
  else
    let profiles ← recordProfile fingerprint call store.profiles
    let ids := store.observationIds ++ observationIds
    if call.saved then
      .ok
        { profiles := profiles.insertionSort fun first second =>
            first.1.chars ≤ second.1.chars
          observationIds := ids.drop (ids.length - maxObservationIds) }
    else
      .error .osError

/-- Calls one after the other; one that raises has changed nothing. -/
def recordAll
    (fingerprint : PyVal → PyStr)
    (calls : List RecordCall)
    (store : Store) :
    Store :=
  calls.foldl (fun store call =>
    match record fingerprint call store with
    | .ok next => next
    | .error _ => store) store

/-! ## What is recorded -/

/-- Every recorded peak was a `float` once. -/
def Sound (store : Store) : Prop :=
  ∀ entry ∈ store.profiles, Double.Representable entry.2.successPeakBytes

theorem representable_observedPeakBytes
    {metrics : PyDict}
    {peak : ℕ}
    (observed : observedPeakBytes metrics = some peak) :
    Double.Representable peak := by
  have values : ∀ value ∈ gpuPeakKeys.filterMap fun key =>
      (metrics.get? key).map positiveInt, Double.Representable value := by
    intro value member
    obtain ⟨key, _, given⟩ := List.mem_filterMap.mp member
    obtain ⟨entry, _, rfl⟩ := Option.map_eq_some_iff.mp given
    exact representable_positiveInt entry
  have largest (rest : List ℕ) :
      (∀ value ∈ rest, Double.Representable value) → ∀ first : ℕ,
        Double.Representable first → Double.Representable (rest.foldl max first : ℕ) := by
    induction rest with
    | nil => exact fun _ _ => id
    | cons value rest inductionHypothesis =>
        intro members first double
        exact inductionHypothesis (fun other member =>
          members other (List.mem_cons_of_mem _ member)) (max first value)
          (Representable_max double (members value List.mem_cons_self))
  unfold observedPeakBytes at observed
  split at observed
  · cases observed
  · next first rest listed =>
    obtain rfl := Option.some.inj observed
    rw [listed] at values
    exact largest rest (fun value member => values value (List.mem_cons_of_mem _ member))
      first (values first List.mem_cons_self)

theorem representable_notePeak
    {profile : Profile}
    (call : RecordCall)
    (context : ResourceContext)
    (double : Double.Representable profile.successPeakBytes) :
    Double.Representable (notePeak call context profile).successPeakBytes := by
  unfold notePeak
  split
  · next observed =>
    split
    · exact Representable_max double (representable_observedPeakBytes observed)
    · exact double
  · exact double

theorem successPeakBytes_noteLowerBound
    {call : RecordCall}
    {context : ResourceContext}
    {profile noted : Profile}
    (returned : noteLowerBound call context profile = .ok noted) :
    noted.successPeakBytes = profile.successPeakBytes := by
  unfold noteLowerBound at returned
  split at returned
  · obtain ⟨counts, _, returned⟩ := bind_eq_ok.mp returned
    split at returned <;> cases returned <;> rfl
  · cases returned
    rfl

theorem mem_of_mem_prune
    {profiles : List (PyStr × Profile)}
    {entry : PyStr × Profile}
    (member : entry ∈ prune profiles) :
    entry ∈ profiles := by
  unfold prune at member
  split at member
  · split at member
    · exact List.mem_of_mem_filter member
    · exact member
  · exact member

/-- One call keeps the recorded peaks sound. -/
theorem Sound.record
    {fingerprint : PyVal → PyStr}
    {call : RecordCall}
    {store next : Store}
    (sound : Sound store)
    (returned : record fingerprint call store = .ok next) :
    Sound next := by
  simp only [ResourceHistory.record, bind_eq_ok] at returned
  obtain ⟨_, _, _, _, returned⟩ := returned
  split at returned
  · cases returned
    exact sound
  · obtain ⟨profiles, recorded, returned⟩ := bind_eq_ok.mp returned
    split at returned
    · cases returned
      intro entry member
      replace member : entry ∈ profiles := (List.mem_insertionSort _).mp member
      unfold recordProfile at recorded
      split at recorded
      · cases recorded
        exact sound entry member
      · next context _ =>
          simp only [bind_eq_ok] at recorded
          obtain ⟨profile, noted, recorded⟩ := recorded
          cases recorded
          rcases Dict.mem_set (mem_of_mem_prune member) with same | member
          · rw [same]
            dsimp only
            rw [successPeakBytes_noteLowerBound noted]
            apply representable_notePeak
            cases found : store.profiles.lookup (context.key fingerprint) with
            | none => exact_mod_cast Double.Representable.zero
            | some old =>
                obtain ⟨before, after, split, _⟩ := List.lookup_eq_some_iff.mp found
                refine sound (context.key fingerprint, old) ?_
                rw [split]
                simp
          · exact sound entry member
    · cases returned

/-- Any sequence of calls keeps the recorded peaks sound. -/
theorem Sound.recordAll
    {fingerprint : PyVal → PyStr}
    {store : Store}
    (sound : Sound store)
    (calls : List RecordCall) :
    Sound (recordAll fingerprint calls store) := by
  induction calls generalizing store with
  | nil => exact sound
  | cons call rest inductionHypothesis =>
      rw [ResourceHistory.recordAll, List.foldl_cons]
      apply inductionHypothesis
      split
      · next returned => exact sound.record returned
      · exact sound

end Maze.Core.ResourceHistory
