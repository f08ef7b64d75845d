import Maze.Core.HistoryArchive

namespace Maze.Core.HistoryArchive

open Maze.Core.Resources
open Maze.Core.ResourceHistory
  (HistoryFile ResourceContext Profile Store Holds Shows load lookup notePeak noteLowerBound
    observedPeakBytes countsForContext maxProfiles maxObservationIds)
open Maze.Library
open Maze.Python

/-!
# What the resource history keeps

However often `record` is called, what it has seen of a context is not forgotten while its
profile is there, only what was observed the longest ago is given up, and what a later
request asks for is at least what earlier attempts have shown.
-/

/-! ## Containers -/

section Containers

variable {Record : Type} {time : Record → Decimal}

/-- The record that is found is one of them, and none was observed before it. -/
theorem oldest_spec
    (first : PyStr × Record)
    (rest : List (PyStr × Record)) :
    let best := rest.foldl (fun best entry =>
      if seconds (time entry.2) < seconds (time best.2) then entry else best) first
    best ∈ first :: rest ∧
      ∀ entry ∈ first :: rest, seconds (time best.2) ≤ seconds (time entry.2) := by
  induction rest generalizing first with
  | nil => simp
  | cons second rest inductionHypothesis =>
      dsimp only
      rw [List.foldl_cons]
      split
      · next earlier =>
        obtain ⟨member, least⟩ := inductionHypothesis second
        refine ⟨List.mem_cons_of_mem _ member, fun entry inside => ?_⟩
        rcases List.mem_cons.mp inside with rfl | inside
        · exact (least second List.mem_cons_self).trans earlier.le
        · exact least entry inside
      · next notEarlier =>
        obtain ⟨member, least⟩ := inductionHypothesis first
        refine ⟨?_, fun entry inside => ?_⟩
        · rcases List.mem_cons.mp member with same | member
          · rw [same]
            exact List.mem_cons_self
          · exact List.mem_cons_of_mem _ (List.mem_cons_of_mem _ member)
        · rcases List.mem_cons.mp inside with rfl | inside
          · exact least entry List.mem_cons_self
          · rcases List.mem_cons.mp inside with rfl | inside
            · exact (least first List.mem_cons_self).trans (not_lt.mp notEarlier)
            · exact least entry (List.mem_cons_of_mem _ inside)

/-- Records with one for a key, not too many and none from the future. -/
structure Container
    (time : Record → Decimal)
    (now : ℚ)
    (records : List (PyStr × Record)) : Prop where
  distinct : (records.map Prod.fst).Nodup
  bounded : records.length ≤ maxProfiles
  past : ∀ entry ∈ records, seconds (time entry.2) ≤ now

/-- A record is given up for a new one if there is no room and none is older. -/
def GivenUp
    (time : Record → Decimal)
    (before after : List (PyStr × Record))
    (record : Record) : Prop :=
  before.length = maxProfiles ∧
    ∀ entry ∈ after, seconds (time record) ≤ seconds (time entry.2)

/-- What is left when a record was put into a container and the container was pruned. -/
structure Put
    (time : Record → Decimal)
    (before after : List (PyStr × Record))
    (key : PyStr)
    (record : Record) : Prop where
  here : after.lookup key = some record
  others : ∀ other ≠ key, ∀ old, before.lookup other = some old →
    after.lookup other = some old ∨ after.lookup other = none ∧ GivenUp time before after old
  old : ∀ other ≠ key, ∀ old, after.lookup other = some old → before.lookup other = some old

/-- The oldest record of a container with a new one at its end is an old one. -/
theorem oldest_concat
    {now : ℚ}
    {records : List (PyStr × Record)}
    (container : Container time now records)
    (nonempty : records ≠ [])
    (key : PyStr)
    {record : Record}
    (later : now ≤ seconds (time record)) :
    ∃ best ∈ records, oldest time (records ++ [(key, record)]) = some best.1 ∧
      ∀ entry ∈ records ++ [(key, record)], seconds (time best.2) ≤ seconds (time entry.2) := by
  cases records with
  | nil => exact absurd rfl nonempty
  | cons first rest =>
      obtain ⟨member, least⟩ := @oldest_spec _ time first rest
      have before := (container.past _ member).trans later
      refine ⟨_, member, ?_, ?_⟩
      · rw [List.cons_append, oldest, List.foldl_append, List.foldl_cons, List.foldl_nil,
          if_neg (not_lt.mpr before)]
      · intro entry inside
        rcases List.mem_append.mp inside with old | new
        · exact least entry old
        · rw [List.mem_singleton.mp new]
          exact before

theorem put_prune
    {now : ℚ}
    {records : List (PyStr × Record)}
    (container : Container time now records)
    (key : PyStr)
    {record : Record}
    (later : now ≤ seconds (time record)) :
    Container time (seconds (time record)) (prune time (Dict.set records key record)) ∧
      Put time records (prune time (Dict.set records key record)) key record := by
  have distinct := Dict.nodup_set key record container.distinct
  have past : ∀ entry ∈ Dict.set records key record,
      seconds (time entry.2) ≤ seconds (time record) := by
    intro entry member
    rcases Dict.mem_set member with rfl | old
    · exact le_rfl
    · exact (container.past entry old).trans later
  have length := Dict.length_set records key record
  unfold prune
  by_cases full : maxProfiles < (Dict.set records key record).length
  · -- only a new key can make a container too large
    have fresh : key ∉ records.map Prod.fst := by
      intro known
      rw [if_pos known] at length
      have := container.bounded
      omega
    rw [if_neg fresh] at length
    have exactly : records.length = maxProfiles := by
      have := container.bounded
      omega
    have nonempty : records ≠ [] := by
      rintro rfl
      cases exactly
    obtain ⟨best, member, isOldest, least⟩ := oldest_concat container nonempty key later
    have whole := Dict.set_of_absent fresh record
    have apart : key ≠ best.1 := by
      rintro rfl
      exact fresh (List.mem_map_of_mem member)
    have known : best ∈ Dict.set records key record := by
      rw [whole]
      exact List.mem_append_left _ member
    rw [if_pos full, whole, isOldest, ← whole]
    dsimp only
    refine ⟨⟨Dict.nodup_erase best.1 distinct, ?_, ?_⟩, ?_, ?_, ?_⟩
    · have fewer : (Dict.erase (Dict.set records key record) best.1).length <
          (Dict.set records key record).length :=
        List.length_filter_lt_length_iff_exists.mpr ⟨best, known, by simp⟩
      omega
    · exact fun entry inside => past entry (List.mem_of_mem_filter inside)
    · rw [Dict.lookup_erase, if_neg apart, Dict.lookup_set, if_pos rfl]
    · intro other differ old found
      rw [Dict.lookup_erase, Dict.lookup_set, if_neg differ]
      split
      · next same =>
        refine .inr ⟨rfl, exactly, fun entry inside => ?_⟩
        have isBest : old = best.2 := by
          rw [same, (Dict.lookup_eq_some_iff container.distinct _ _).mpr member] at found
          exact (Option.some.inj found).symm
        rw [isBest]
        exact least entry (whole ▸ List.mem_of_mem_filter inside)
      · exact .inl found
    · intro other differ old found
      rw [Dict.lookup_erase, Dict.lookup_set, if_neg differ] at found
      split at found
      · cases found
      · exact found
  · rw [if_neg full]
    refine ⟨⟨distinct, not_lt.mp full, past⟩, ?_, ?_, ?_⟩
    · rw [Dict.lookup_set, if_pos rfl]
    · intro other differ old found
      rw [Dict.lookup_set, if_neg differ]
      exact .inl found
    · intro other differ old found
      rwa [Dict.lookup_set, if_neg differ] at found

/-- Sorting the keys does not change what is found. -/
theorem lookup_sorted
    {records : List (PyStr × Record)}
    (distinct : (records.map Prod.fst).Nodup)
    (sorted : Record → Record)
    (key : PyStr) :
    ((byKey records).map (Prod.map id sorted)).lookup key = (records.lookup key).map sorted := by
  have ordered : (byKey records).lookup key = records.lookup key := by
    have orderedDistinct : ((byKey records).map Prod.fst).Nodup :=
      ((List.perm_insertionSort _ records).map Prod.fst).nodup_iff.mpr distinct
    refine Option.ext fun record => ?_
    rw [Dict.lookup_eq_some_iff orderedDistinct, Dict.lookup_eq_some_iff distinct, byKey,
      List.mem_insertionSort]
  rw [← ordered]
  exact Dict.lookup_map (byKey records) (fun _ => sorted) key

theorem Container.sorted
    {now : ℚ}
    {records : List (PyStr × Record)}
    (container : Container time now records)
    {sorted : Record → Record}
    (same : ∀ record, time (sorted record) = time record) :
    Container time now ((byKey records).map (Prod.map id sorted)) where
  distinct := by
    rw [List.map_map]
    exact ((List.perm_insertionSort _ records).map Prod.fst).nodup_iff.mpr container.distinct
  bounded := by
    rw [List.length_map, byKey, List.length_insertionSort]
    exact container.bounded
  past := by
    intro entry member
    obtain ⟨old, inside, rfl⟩ := List.mem_map.mp member
    rw [Prod.map_snd, same]
    exact container.past old ((List.mem_insertionSort _).mp inside)

/-- Records are kept and grow, or the oldest is given up for a new one. -/
def Kept
    (time : Record → Decimal)
    (atMost : Record → Record → Prop)
    (before after : List (PyStr × Record)) : Prop :=
  ∀ key record, before.lookup key = some record →
    (∃ now, after.lookup key = some now ∧ atMost record now) ∨
      after.lookup key = none ∧ GivenUp time before after record

theorem Put.kept
    {atMost : Record → Record → Prop}
    {before after : List (PyStr × Record)}
    {key : PyStr}
    {record : Record}
    (put : Put time before after key record)
    (reflexive : ∀ record, atMost record record)
    (grown : ∀ old, before.lookup key = some old → atMost old record) :
    Kept time atMost before after := by
  intro other old found
  by_cases same : other = key
  · subst same
    exact .inl ⟨record, put.here, grown old found⟩
  · exact (put.others other same old found).imp_left fun kept => ⟨old, kept, reflexive old⟩

/-- What holds of the new record and of the old ones holds of what is left. -/
theorem Put.forall
    {before after : List (PyStr × Record)}
    {key : PyStr}
    {record : Record}
    (put : Put time before after key record)
    (beforeDistinct : (before.map Prod.fst).Nodup)
    (afterDistinct : (after.map Prod.fst).Nodup)
    {holds : Record → Prop}
    (here : holds record)
    (others : ∀ entry ∈ before, holds entry.2) :
    ∀ entry ∈ after, holds entry.2 := by
  intro entry member
  have found := (Dict.lookup_eq_some_iff afterDistinct _ _).mpr member
  by_cases same : entry.1 = key
  · rw [same, put.here] at found
    exact Option.some.inj found ▸ here
  · exact others entry
      ((Dict.lookup_eq_some_iff beforeDistinct _ _).mp (put.old entry.1 same entry.2 found))

theorem Container.mono
    {now later : ℚ}
    {records : List (PyStr × Record)}
    (container : Container time now records)
    (le : now ≤ later) :
    Container time later records :=
  { container with past := fun entry member => (container.past entry member).trans le }

theorem Kept.refl
    {atMost : Record → Record → Prop}
    (reflexive : ∀ record, atMost record record)
    (records : List (PyStr × Record)) :
    Kept time atMost records records :=
  fun _ record found => .inl ⟨record, found, reflexive record⟩

theorem Kept.sorted
    {atMost : Record → Record → Prop}
    {before after : List (PyStr × Record)}
    (kept : Kept time atMost before after)
    (distinct : (after.map Prod.fst).Nodup)
    {sorted : Record → Record}
    (same : ∀ record, time (sorted record) = time record)
    (grows : ∀ {old record}, atMost old record → atMost old (sorted record)) :
    Kept time atMost before ((byKey after).map (Prod.map id sorted)) := by
  intro key old found
  rw [lookup_sorted distinct]
  rcases kept key old found with ⟨now, here, grown⟩ | ⟨gone, full, least⟩
  · exact .inl ⟨sorted now, by rw [here]; rfl, grows grown⟩
  · refine .inr ⟨by rw [gone]; rfl, full, fun entry member => ?_⟩
    obtain ⟨original, inside, rfl⟩ := List.mem_map.mp member
    rw [Prod.map_snd, same]
    exact least original ((List.mem_insertionSort _).mp inside)

end Containers

/-! ## Profiles -/

/-- A successful attempt has shown a peak of the context. -/
def ShowsPeak
    (call : ObservationCall)
    (context : ResourceContext)
    (peak : ℕ) : Prop :=
  call.status = PyStr.ofString "succeeded" ∧ observedPeakBytes call.metrics = some peak ∧
    (PyDict.get? call.metrics "memory_scope").getD (.str "task") = .str context.scope

/-- A failed attempt has shown that the context needs an amount. -/
def ShowsRequired
    (call : ObservationCall)
    (context : ResourceContext) : Prop :=
  call.status ≠ PyStr.ofString "succeeded" ∧ call.requiredGpuMemMib ≠ 0 ∧
    countsForContext call.facts context = .ok true

theorem notePeak_spec
    (call : ObservationCall)
    (context : ResourceContext)
    (profile : Profile) :
    profile.successSamples ≤ (notePeak call.facts context profile).successSamples ∧
      profile.successPeakBytes ≤ (notePeak call.facts context profile).successPeakBytes ∧
      (notePeak call.facts context profile).oomLowerBoundMib = profile.oomLowerBoundMib ∧
      ∀ peak, ShowsPeak call context peak →
        peak ≤ (notePeak call.facts context profile).successPeakBytes := by
  unfold notePeak
  split
  · next seen observed =>
    split
    · next counts =>
      refine ⟨Nat.le_succ _, le_max_left _ _, rfl, fun peak shown => ?_⟩
      rw [show observedPeakBytes call.facts.metrics = some peak from shown.2.1] at observed
      obtain rfl := Option.some.inj observed
      exact le_max_right _ _
    · next silent =>
      exact ⟨le_rfl, le_rfl, rfl, fun peak shown => absurd ⟨shown.1, shown.2.2⟩ silent⟩
  · next silent =>
    refine ⟨le_rfl, le_rfl, rfl, fun peak shown => ?_⟩
    rw [show observedPeakBytes call.facts.metrics = some peak from shown.2.1] at silent
    cases silent

theorem noteLowerBound_spec
    {call : ObservationCall}
    {context : ResourceContext}
    {profile noted : Profile}
    (returned : noteLowerBound call.facts context profile = .ok noted) :
    noted.successSamples = profile.successSamples ∧
      noted.successPeakBytes = profile.successPeakBytes ∧
      profile.oomLowerBoundMib ≤ noted.oomLowerBoundMib ∧
      (ShowsRequired call context → call.requiredGpuMemMib ≤ noted.oomLowerBoundMib) ∧
      ∀ bound : ℕ, profile.oomLowerBoundMib ≤ bound → call.requiredGpuMemMib ≤ bound →
        noted.oomLowerBoundMib ≤ bound := by
  unfold noteLowerBound at returned
  split at returned
  · next failed =>
    obtain ⟨counts, counted, returned⟩ := bind_eq_ok.mp returned
    split at returned
    · cases returned
      refine ⟨rfl, rfl, ?_, fun _ => ?_, fun bound old new => ?_⟩
      · dsimp only
        omega
      · change call.requiredGpuMemMib ≤ ((max (profile.oomLowerBoundMib : ℤ)
          call.requiredGpuMemMib).toNat : ℤ)
        omega
      · change (max (profile.oomLowerBoundMib : ℤ) call.requiredGpuMemMib).toNat ≤ bound
        omega
    · next silent =>
      cases returned
      refine ⟨rfl, rfl, le_rfl, fun shown => ?_, fun _ old _ => old⟩
      rw [shown.2.2, Except.ok.injEq] at counted
      exact absurd counted.symm silent
  · next silent =>
    cases returned
    exact ⟨rfl, rfl, le_rfl, fun shown => absurd ⟨shown.1, shown.2.1⟩ silent,
      fun _ old _ => old⟩

/-- Nothing that a profile shows has become less. -/
def ProfileEntry.AtMost (old new : ProfileEntry) : Prop :=
  old.successSamples ≤ new.successSamples ∧ old.successPeakBytes ≤ new.successPeakBytes ∧
    old.oomLowerBoundMib ≤ new.oomLowerBoundMib

theorem ProfileEntry.AtMost.refl (entry : ProfileEntry) : entry.AtMost entry :=
  ⟨le_rfl, le_rfl, le_rfl⟩

theorem ProfileEntry.AtMost.trans
    {first second third : ProfileEntry}
    (one : first.AtMost second)
    (other : second.AtMost third) :
    first.AtMost third :=
  ⟨one.1.trans other.1, one.2.1.trans other.2.1, one.2.2.trans other.2.2⟩

/-- The amounts that a later conversion to `float` keeps. -/
def ProfileEntry.Exact
    (bound : ℕ)
    (entry : ProfileEntry) : Prop :=
  Double.Representable entry.successPeakBytes ∧ entry.oomLowerBoundMib ≤ bound

/-- What a call makes of the profiles. -/
theorem recordProfile_spec
    {fingerprint : PyVal → PyStr}
    {call : ObservationCall}
    {now : ℚ}
    {profiles after : List (PyStr × ProfileEntry)}
    (container : Container ProfileEntry.lastObservedTime now profiles)
    (later : now ≤ seconds call.recordedTime)
    (recorded : recordProfile fingerprint call profiles = .ok after) :
    Container ProfileEntry.lastObservedTime (seconds call.recordedTime) after ∧
      Kept ProfileEntry.lastObservedTime ProfileEntry.AtMost profiles after ∧
      (∀ context, call.context = some context →
        ∃ entry, after.lookup (context.key fingerprint) = some entry ∧
          (∀ peak, ShowsPeak call context peak → peak ≤ entry.successPeakBytes) ∧
          (ShowsRequired call context → call.requiredGpuMemMib ≤ entry.oomLowerBoundMib)) ∧
      ∀ bound : ℕ, call.requiredGpuMemMib ≤ bound →
        (∀ entry ∈ profiles, entry.2.Exact bound) → ∀ entry ∈ after, entry.2.Exact bound := by
  unfold recordProfile at recorded
  split at recorded
  · next none =>
    cases recorded
    refine ⟨container.mono later, Kept.refl ProfileEntry.AtMost.refl _, fun context given => ?_,
      fun _ _ exact' => exact'⟩
    rw [none] at given
    cases given
  · next context isContext =>
    obtain ⟨noted, lowered, recorded⟩ := bind_eq_ok.mp recorded
    cases recorded
    generalize isEntry : (profiles.lookup (context.key fingerprint)).getD _ = entry at *
    have peaks := notePeak_spec call context entry.profile
    have bounds := noteLowerBound_spec lowered
    obtain ⟨after, put⟩ := @put_prune _ ProfileEntry.lastObservedTime _ _ container
      (context.key fingerprint)
      { context := entry.context
        successSamples := noted.successSamples
        successPeakBytes := noted.successPeakBytes
        oomLowerBoundMib := noted.oomLowerBoundMib
        lastObservedTime := call.recordedTime } later
    refine ⟨after, put.kept ProfileEntry.AtMost.refl ?_, ?_, ?_⟩
    · intro old found
      rw [found, Option.getD_some] at isEntry
      subst isEntry
      refine ⟨?_, ?_, ?_⟩
      · exact peaks.1.trans bounds.1.ge
      · exact peaks.2.1.trans bounds.2.1.ge
      · exact peaks.2.2.1.ge.trans bounds.2.2.1
    · intro other given
      rw [isContext] at given
      obtain rfl := Option.some.inj given
      refine ⟨_, put.here, fun peak shown => ?_, bounds.2.2.2.1⟩
      exact (peaks.2.2.2 peak shown).trans bounds.2.1.ge
    · intro bound small exact'
      refine put.forall container.distinct after.distinct ?_ exact'
      have before : entry.Exact bound := by
        cases found : profiles.lookup (context.key fingerprint) with
        | none =>
            rw [found] at isEntry
            subst isEntry
            exact ⟨by exact_mod_cast Double.Representable.zero, Nat.zero_le _⟩
        | some old =>
            rw [found, Option.getD_some] at isEntry
            subst isEntry
            exact exact' _ ((Dict.lookup_eq_some_iff container.distinct _ _).mp found)
      constructor
      · dsimp only
        rw [bounds.2.1]
        exact ResourceHistory.representable_notePeak call.facts context before.1
      · exact bounds.2.2.2.2 bound (peaks.2.2.1.le.trans before.2) small

/-! ## The records of tasks and models -/

/-- Nothing that a record counts has become less. -/
def Aggregate.AtMost (old new : Aggregate) : Prop :=
  old.runs ≤ new.runs ∧ old.successes ≤ new.successes ∧ old.failures ≤ new.failures ∧
    old.peakGpuMemoryBytes ≤ new.peakGpuMemoryBytes

theorem Aggregate.AtMost.refl (record : Aggregate) : record.AtMost record :=
  ⟨le_rfl, le_rfl, le_rfl, le_rfl⟩

theorem prune_updateRecord
    (call : ObservationCall)
    (peak : ℤ)
    {now : ℚ}
    {bucket : List (PyStr × Aggregate)}
    (container : Container Aggregate.lastObservedTime now bucket)
    (later : now ≤ seconds call.recordedTime)
    (key : PyStr) :
    Container Aggregate.lastObservedTime (seconds call.recordedTime)
        (prune Aggregate.lastObservedTime (updateRecord call peak bucket key)) ∧
      Kept Aggregate.lastObservedTime Aggregate.AtMost bucket
        (prune Aggregate.lastObservedTime (updateRecord call peak bucket key)) := by
  unfold updateRecord
  generalize isRecord : (bucket.lookup key).getD _ = record
  obtain ⟨after, put⟩ := @put_prune _ Aggregate.lastObservedTime _ _ container key
    { record with
      runs := record.runs + 1
      successes := if call.success then record.successes + 1 else record.successes
      failures := if call.success then record.failures else record.failures + 1
      peakGpuMemoryBytes :=
        if peak ≠ 0 then (max (record.peakGpuMemoryBytes : ℤ) peak).toNat
        else record.peakGpuMemoryBytes
      lastStatus := call.status
      lastErrorType := call.errorType
      lastObservedTime := call.recordedTime } later
  refine ⟨after, put.kept Aggregate.AtMost.refl fun old found => ?_⟩
  rw [found, Option.getD_some] at isRecord
  subst isRecord
  refine ⟨Nat.le_succ _, ?_, ?_, ?_⟩ <;> dsimp only <;> split <;> omega

/-- A container that is not too large is not pruned. -/
theorem prune_of_bounded
    {now : ℚ}
    {bucket : List (PyStr × Aggregate)}
    (container : Container Aggregate.lastObservedTime now bucket) :
    prune Aggregate.lastObservedTime bucket = bucket :=
  if_neg (not_lt.mpr container.bounded)

/-! ## The whole history -/

/-- A history within its bounds, none of it from the future. -/
structure Sound
    (now : ℚ)
    (archive : Archive) : Prop where
  models : Container Aggregate.lastObservedTime now archive.models
  tasks : Container Aggregate.lastObservedTime now archive.tasks
  profiles : Container ProfileEntry.lastObservedTime now archive.profiles
  recent : archive.recentObservations.length ≤ maxRecent
  ids : archive.observationIds.length ≤ maxObservationIds

theorem sound_empty (now : ℚ) : Sound now .empty where
  models := ⟨List.nodup_nil, Nat.zero_le _, by simp [Archive.empty]⟩
  tasks := ⟨List.nodup_nil, Nat.zero_le _, by simp [Archive.empty]⟩
  profiles := ⟨List.nodup_nil, Nat.zero_le _, by simp [Archive.empty]⟩
  recent := Nat.zero_le _
  ids := Nat.zero_le _

/-- What a call that is recorded makes of the history. -/
structure Recorded
    (fingerprint : PyVal → PyStr)
    (call : ObservationCall)
    (before after : Archive) : Prop where
  models : Kept Aggregate.lastObservedTime Aggregate.AtMost before.models after.models
  tasks : Kept Aggregate.lastObservedTime Aggregate.AtMost before.tasks after.tasks
  profiles : Kept ProfileEntry.lastObservedTime ProfileEntry.AtMost
    before.profiles after.profiles
  recent : ∃ requestedResources peak, after.recentObservations =
    Json.sortItems (lastItems maxRecent
      (before.recentObservations ++ [call.observation requestedResources peak]))
  ids : after.observationIds =
    if call.ids = [] then before.observationIds
    else lastItems maxObservationIds (before.observationIds ++ call.ids)
  shown : ∀ context, call.context = some context →
    ∃ entry, after.profiles.lookup (context.key fingerprint) = some entry ∧
      (∀ peak, ShowsPeak call context peak → peak ≤ entry.successPeakBytes) ∧
      (ShowsRequired call context → call.requiredGpuMemMib ≤ entry.oomLowerBoundMib)

theorem length_lastItems
    {Item : Type}
    (count : ℕ)
    (items : List Item) :
    (lastItems count items).length ≤ count := by
  rw [lastItems, List.length_drop]
  omega

/-- Items that were given up before are given up in the end. -/
theorem lastItems_append
    {Item : Type}
    (count : ℕ)
    (first second : List Item) :
    lastItems count (lastItems count first ++ second) = lastItems count (first ++ second) := by
  have le : first.length - count ≤ first.length := Nat.sub_le _ _
  unfold lastItems
  rw [← List.drop_append_of_le_length le, List.drop_drop, List.length_drop, List.length_append]
  congr 1
  omega

theorem length_sortItems (items : List PyVal) :
    (Json.sortItems items).length = items.length := by
  induction items with
  | nil => rfl
  | cons first rest inductionHypothesis =>
      rw [Json.sortItems, List.length_cons, inductionHypothesis, List.length_cons]

theorem observe_spec
    {fingerprint format : PyVal → PyStr}
    {call : ObservationCall}
    {requestedResources : PyDict}
    {peak : ℤ}
    {now : ℚ}
    {archive observed : Archive}
    (sound : Sound now archive)
    (later : now ≤ seconds call.recordedTime)
    (returned : archive.observe fingerprint format call requestedResources peak = .ok observed) :
    Sound (seconds call.recordedTime) observed.sorted ∧
      Recorded fingerprint call archive observed.sorted ∧
      ∀ bound : ℕ, call.requiredGpuMemMib ≤ bound →
        (∀ entry ∈ archive.profiles, entry.2.Exact bound) →
          ∀ entry ∈ observed.sorted.profiles, entry.2.Exact bound := by
  obtain ⟨profiles, recorded, returned⟩ := bind_eq_ok.mp returned
  cases returned
  obtain ⟨profilesAfter, profilesKept, shown, exact'⟩ :=
    recordProfile_spec sound.profiles later recorded
  obtain ⟨tasksAfter, tasksKept⟩ := prune_updateRecord call peak sound.tasks later
    ((call.taskName.filter fun name => !name.isEmpty).getD call.taskId)
  have models : Container Aggregate.lastObservedTime (seconds call.recordedTime)
        (prune Aggregate.lastObservedTime ((modelAnchorKey format call.modelAnchor).elim
          archive.models (updateRecord call peak archive.models))) ∧
      Kept Aggregate.lastObservedTime Aggregate.AtMost archive.models
        (prune Aggregate.lastObservedTime ((modelAnchorKey format call.modelAnchor).elim
          archive.models (updateRecord call peak archive.models))) := by
    cases modelAnchorKey format call.modelAnchor with
    | none =>
        rw [Option.elim_none, prune_of_bounded sound.models]
        exact ⟨sound.models.mono later, Kept.refl Aggregate.AtMost.refl _⟩
    | some key => exact prune_updateRecord call peak sound.models later key
  refine ⟨⟨models.1.sorted fun _ => rfl, tasksAfter.sorted fun _ => rfl,
    profilesAfter.sorted fun _ => rfl, ?_, ?_⟩,
    ⟨models.2.sorted models.1.distinct (fun _ => rfl) id,
    tasksKept.sorted tasksAfter.distinct (fun _ => rfl) id,
    profilesKept.sorted profilesAfter.distinct (fun _ => rfl) id, ⟨_, _, rfl⟩, rfl, ?_⟩, ?_⟩
  · rw [Archive.sorted, length_sortItems]
    exact length_lastItems _ _
  · change List.length (if call.ids = [] then _ else _) ≤ _
    split
    · exact sound.ids
    · exact length_lastItems _ _
  · intro context given
    obtain ⟨entry, found, peaks, required⟩ := shown context given
    refine ⟨entry.sorted, ?_, peaks, required⟩
    change List.lookup _ ((byKey profiles).map (Prod.map id ProfileEntry.sorted)) = _
    rw [lookup_sorted profilesAfter.distinct, found]
    rfl
  · intro bound small before entry member
    obtain ⟨original, inside, rfl⟩ := List.mem_map.mp member
    exact exact' bound small before original ((List.mem_insertionSort _).mp inside)

theorem Sound.mono
    {now later : ℚ}
    {archive : Archive}
    (sound : Sound now archive)
    (le : now ≤ later) :
    Sound later archive :=
  { sound with
    models := sound.models.mono le
    tasks := sound.tasks.mono le
    profiles := sound.profiles.mono le }

theorem any_known (ids known : List PyStr) :
    (ids.any known.contains) = true ↔ ∃ id ∈ ids, id ∈ known := by
  simp [List.any_eq_true]

/-- A call whose observation is known changes nothing; another one is recorded. -/
theorem record_spec
    {fingerprint format : PyVal → PyStr}
    {call : ObservationCall}
    {now : ℚ}
    {archive : Archive}
    {file next : HistoryFile}
    (isRead : read file = .ok archive)
    (sound : Sound now archive)
    (later : now ≤ seconds call.recordedTime)
    (returned : record fingerprint format call file = .ok next) :
    (∃ id ∈ call.ids, id ∈ archive.observationIds) ∧ next = file ∨
      (∀ id ∈ call.ids, id ∉ archive.observationIds) ∧
        ∃ after, read next = .ok after ∧ Sound (seconds call.recordedTime) after ∧
          Recorded fingerprint call archive after ∧
          ∀ bound : ℕ, call.requiredGpuMemMib ≤ bound →
            (∀ entry ∈ archive.profiles, entry.2.Exact bound) →
              ∀ entry ∈ after.profiles, entry.2.Exact bound := by
  have known := any_known call.ids archive.observationIds
  simp only [record, isRead, bind_eq_ok, Except.ok.injEq, exists_eq_left'] at returned
  obtain ⟨requestedResources, _, peak, _, returned⟩ := returned
  split at returned
  · next duplicate =>
    cases returned
    exact .inl ⟨known.mp duplicate, rfl⟩
  · next fresh =>
    obtain ⟨observed, observes, returned⟩ := bind_eq_ok.mp returned
    split at returned
    · obtain ⟨after, recorded, exact'⟩ := observe_spec sound later observes
      refine .inr ⟨fun id member inside => fresh (known.mpr ⟨id, member, inside⟩), _,
        read_save returned, after, recorded, exact'⟩
    · cases returned

/-! ## Runs -/

section Runs

variable (fingerprint format : PyVal → PyStr)

/-- The file after the calls; at first there is none. -/
def historyAfter (calls : List ObservationCall) : HistoryFile :=
  recordAll fingerprint format calls .absent

theorem historyAfter_concat
    (calls : List ObservationCall)
    (call : ObservationCall) :
    historyAfter fingerprint format (calls ++ [call]) =
      match record fingerprint format call (historyAfter fingerprint format calls) with
      | .ok next => next
      | .error _ => historyAfter fingerprint format calls :=
  List.foldl_concat ..

/-- The clock does not run backwards. -/
def Clocked (calls : List ObservationCall) : Prop :=
  calls.Pairwise fun first second => seconds first.recordedTime ≤ seconds second.recordedTime

/-- The file is read after any calls, and holds no more than it may. -/
theorem historyAfter_spec
    {calls : List ObservationCall}
    (clocked : Clocked calls) :
    ∃ archive, read (historyAfter fingerprint format calls) = .ok archive ∧
      (∀ now, (∀ call ∈ calls, seconds call.recordedTime ≤ now) → Sound now archive) ∧
      ∀ bound : ℕ, (∀ call ∈ calls, call.requiredGpuMemMib ≤ bound) →
        ∀ entry ∈ archive.profiles, entry.2.Exact bound := by
  induction calls using List.reverseRecOn with
  | nil =>
      exact ⟨.empty, read_absent, fun now _ => sound_empty now, fun _ _ => by simp [Archive.empty]⟩
  | append_singleton calls call inductionHypothesis =>
      obtain ⟨earlier, _, order⟩ := List.pairwise_append.mp clocked
      obtain ⟨archive, isRead, sound, exact'⟩ := inductionHypothesis earlier
      have past : ∀ other ∈ calls, seconds other.recordedTime ≤ seconds call.recordedTime :=
        fun other member => order other member call List.mem_cons_self
      have unchanged : (∀ now, (∀ other ∈ calls ++ [call], seconds other.recordedTime ≤ now) →
            Sound now archive) ∧
          ∀ bound : ℕ, (∀ other ∈ calls ++ [call], other.requiredGpuMemMib ≤ bound) →
            ∀ entry ∈ archive.profiles, entry.2.Exact bound :=
        ⟨fun now all => sound now fun other member => all other (List.mem_append_left _ member),
          fun bound all => exact' bound fun other member =>
            all other (List.mem_append_left _ member)⟩
      rw [historyAfter_concat]
      cases returned : record fingerprint format call (historyAfter fingerprint format calls) with
      | error raised => exact ⟨archive, isRead, unchanged⟩
      | ok next =>
          rcases record_spec isRead (sound _ past) le_rfl returned with
            ⟨_, rfl⟩ | ⟨_, after, nextRead, nextSound, _, nextExact⟩
          · exact ⟨archive, isRead, unchanged⟩
          · refine ⟨after, nextRead, fun now all => nextSound.mono (all call (by simp)),
              fun bound all => nextExact bound (all call (by simp)) (exact' bound
                fun other member => all other (List.mem_append_left _ member))⟩

/-- Whether a call is recorded after the calls before it: it returns, and its id is new. -/
def wasRecorded
    (earlier : List ObservationCall)
    (call : ObservationCall) :
    Bool :=
  match record fingerprint format call (historyAfter fingerprint format earlier),
    read (historyAfter fingerprint format earlier) with
  | .ok _, .ok archive => !call.ids.any archive.observationIds.contains
  | _, _ => false

/-- What one call more makes of the history: it is recorded, or the file stays as it is. -/
theorem historyAfter_step
    {calls : List ObservationCall}
    {call : ObservationCall}
    (clocked : Clocked (calls ++ [call]))
    {before after : Archive}
    (beforeRead : read (historyAfter fingerprint format calls) = .ok before)
    (afterRead : read (historyAfter fingerprint format (calls ++ [call])) = .ok after) :
    if wasRecorded fingerprint format calls call then
      (∀ id ∈ call.ids, id ∉ before.observationIds) ∧ Recorded fingerprint call before after
    else
      historyAfter fingerprint format (calls ++ [call]) =
        historyAfter fingerprint format calls := by
  obtain ⟨earlier, _, order⟩ := List.pairwise_append.mp clocked
  obtain ⟨archive, isRead, sound, _⟩ := historyAfter_spec fingerprint format earlier
  rw [beforeRead, Except.ok.injEq] at isRead
  subst isRead
  have past := sound (seconds call.recordedTime) fun other member =>
    order other member call List.mem_cons_self
  have concat := historyAfter_concat fingerprint format calls call
  unfold wasRecorded
  rw [beforeRead]
  cases returned : record fingerprint format call (historyAfter fingerprint format calls) with
  | error raised =>
      rw [returned] at concat
      exact concat
  | ok next =>
      rw [returned] at concat
      dsimp only at concat ⊢
      rcases record_spec beforeRead past le_rfl returned with
        ⟨known, unchanged⟩ | ⟨fresh, other, nextRead, _, recorded, _⟩
      · rw [if_neg (by rw [(any_known call.ids _).mpr known]; exact Bool.noConfusion), concat,
          unchanged]
      · rw [concat, nextRead, Except.ok.injEq] at afterRead
        rw [if_pos]
        · exact ⟨fresh, afterRead ▸ recorded⟩
        · rw [Bool.not_eq_true', ← Bool.not_eq_true, any_known]
          rintro ⟨id, member, inside⟩
          exact fresh id member inside

/-- An id that is known changes nothing. -/
theorem historyAfter_of_known
    {calls : List ObservationCall}
    {call : ObservationCall}
    (clocked : Clocked (calls ++ [call]))
    {before : Archive}
    (beforeRead : read (historyAfter fingerprint format calls) = .ok before)
    (known : ∃ id ∈ call.ids, id ∈ before.observationIds) :
    historyAfter fingerprint format (calls ++ [call]) =
      historyAfter fingerprint format calls := by
  obtain ⟨after, afterRead, _⟩ := historyAfter_spec fingerprint format clocked
  have step := historyAfter_step fingerprint format clocked beforeRead afterRead
  split at step
  · obtain ⟨id, member, inside⟩ := known
    exact absurd inside (step.1 id member)
  · exact step

/-- The calls that are recorded. -/
def recordedCalls (calls : List ObservationCall) : List ObservationCall :=
  (calls.zipIdx.filter fun entry =>
    wasRecorded fingerprint format (calls.take entry.2) entry.1).map Prod.fst

theorem recordedCalls_concat
    (calls : List ObservationCall)
    (call : ObservationCall) :
    recordedCalls fingerprint format (calls ++ [call]) =
      recordedCalls fingerprint format calls ++
        if wasRecorded fingerprint format calls call then [call] else [] := by
  have earlier : calls.zipIdx.filter (fun entry =>
        wasRecorded fingerprint format ((calls ++ [call]).take entry.2) entry.1) =
      calls.zipIdx.filter fun entry =>
        wasRecorded fingerprint format (calls.take entry.2) entry.1 := by
    refine List.filter_congr fun entry member => ?_
    rw [List.take_append_of_le_length (List.snd_lt_of_mem_zipIdx member).le]
  rw [recordedCalls, List.zipIdx_append, List.filter_append, earlier, List.map_append,
    ← recordedCalls]
  congr 1
  simp only [Nat.zero_add, List.zipIdx_singleton, List.filter_singleton]
  rw [List.take_left' rfl]
  cases wasRecorded fingerprint format calls call <;> rfl

/-- The ids of the calls that are recorded, in their order. -/
def recordedIds (calls : List ObservationCall) : List PyStr :=
  (recordedCalls fingerprint format calls).flatMap ObservationCall.ids

/-- The file has the last ids that were recorded. -/
theorem observationIds_eq
    {calls : List ObservationCall}
    (clocked : Clocked calls)
    {archive : Archive}
    (isRead : read (historyAfter fingerprint format calls) = .ok archive) :
    archive.observationIds =
      lastItems maxObservationIds (recordedIds fingerprint format calls) := by
  induction calls using List.reverseRecOn generalizing archive with
  | nil =>
      rw [historyAfter, recordAll, List.foldl_nil, read_absent, Except.ok.injEq] at isRead
      rw [← isRead]
      simp [recordedIds, recordedCalls, lastItems, Archive.empty]
  | append_singleton calls call inductionHypothesis =>
      have earlier := (List.pairwise_append.mp clocked).1
      obtain ⟨before, beforeRead, _⟩ := historyAfter_spec fingerprint format earlier
      have ids := inductionHypothesis earlier beforeRead
      have step := historyAfter_step fingerprint format clocked beforeRead isRead
      rw [recordedIds, recordedCalls_concat, List.flatMap_append, ← recordedIds]
      split at step
      · next was =>
        rw [step.2.ids, if_pos was, ids, List.flatMap_singleton]
        split
        · next silent => rw [silent, List.append_nil]
        · exact lastItems_append _ _ _
      · next silent =>
        rw [step, beforeRead, Except.ok.injEq] at isRead
        rw [if_neg silent, List.flatMap_nil, List.append_nil, ← isRead, ids]

/-- The profile of a key is there after each of the later calls. -/
def Retained
    (earlier later : List ObservationCall)
    (key : PyStr) : Prop :=
  ∀ between rest, later = between ++ rest →
    ∀ archive, read (historyAfter fingerprint format (earlier ++ between)) = .ok archive →
      (archive.profiles.lookup key).isSome

/-- While a profile is retained it does not forget anything. -/
theorem retained_spec
    {earlier later : List ObservationCall}
    (clocked : Clocked (earlier ++ later))
    {key : PyStr}
    (retained : Retained fingerprint format earlier later key)
    {before after : Archive}
    (beforeRead : read (historyAfter fingerprint format earlier) = .ok before)
    (afterRead : read (historyAfter fingerprint format (earlier ++ later)) = .ok after)
    {old : ProfileEntry}
    (known : before.profiles.lookup key = some old) :
    ∃ entry, after.profiles.lookup key = some entry ∧ old.AtMost entry := by
  induction later using List.reverseRecOn generalizing after with
  | nil =>
      rw [List.append_nil, beforeRead, Except.ok.injEq] at afterRead
      exact ⟨old, afterRead ▸ known, .refl old⟩
  | append_singleton later last inductionHypothesis =>
      have there := retained (later ++ [last]) [] (by simp) after afterRead
      rw [← List.append_assoc] at clocked afterRead
      have shorter := (List.pairwise_append.mp clocked).1
      obtain ⟨between, betweenRead, _⟩ := historyAfter_spec fingerprint format shorter
      obtain ⟨entry, found, grown⟩ := inductionHypothesis shorter
        (fun between rest split => retained between (rest ++ [last]) (by rw [split]; simp))
        betweenRead
      have step := historyAfter_step fingerprint format clocked betweenRead afterRead
      split at step
      · rcases step.2.profiles _ entry found with ⟨now, here, more⟩ | ⟨gone, _⟩
        · exact ⟨now, here, grown.trans more⟩
        · rw [gone] at there
          cases there
      · rw [step, betweenRead, Except.ok.injEq] at afterRead
        exact ⟨entry, afterRead ▸ found, grown⟩

end Runs

/-! ## Later requests -/

/-- What decisions are made from. -/
def Archive.store (archive : Archive) : Store where
  profiles := archive.profiles.map (Prod.map id ProfileEntry.profile)
  observationIds := archive.observationIds

theorem natEntry_eq_some
    {fields : PyDict}
    {key : PyStr}
    {number : ℕ}
    (found : natEntry fields key = some number) :
    fields.get? key = some (.int number) := by
  unfold natEntry at found
  split at found
  · next value there =>
    split at found
    · next nonneg =>
      obtain rfl := Option.some.inj found
      rw [there, Int.toNat_of_nonneg nonneg]
    · cases found
  · cases found

theorem shows_ofFields
    {fields : PyDict}
    {entry : ProfileEntry}
    (parsed : ProfileEntry.ofFields fields = some entry) :
    Shows fields entry.profile := by
  simp only [ProfileEntry.ofFields, bind, Option.bind_eq_some_iff] at parsed
  obtain ⟨_, _, _, samples, _, peak, _, lowerBound, _, _, same⟩ := parsed
  cases same
  exact ⟨natEntry_eq_some samples, natEntry_eq_some peak, natEntry_eq_some lowerBound⟩

/-- A record is found where its fields are. -/
theorem recordsOf_lookup
    {Record : Type}
    {ofFields : PyDict → Option Record}
    {value : PyVal}
    {records : List (PyStr × Record)}
    (parsed : recordsOf ofFields value = some records) :
    ∃ entries, value = .dict entries ∧ ∀ key,
      match records.lookup key with
      | none => PyDict.get? entries key = none
      | some record =>
          ∃ fields, PyDict.get? entries key = some (.dict fields) ∧
            ofFields fields = some record := by
  unfold recordsOf at parsed
  split at parsed
  · next entries =>
    refine ⟨entries, rfl, fun key => ?_⟩
    induction entries generalizing records with
    | nil =>
        cases parsed
        rfl
    | cons first rest inductionHypothesis =>
        rw [List.mapM_cons] at parsed
        simp only [bind, Option.bind_eq_some_iff] at parsed
        obtain ⟨record, one, others, more, same⟩ := parsed
        cases same
        split at one
        · next fields isDict =>
          obtain ⟨parsedRecord, ofFirst, same⟩ := Option.map_eq_some_iff.mp one
          cases same
          obtain ⟨name, _⟩ := first
          cases isDict
          rw [Dict.lookup_cons, PyDict.get?_cons]
          by_cases here : key = name
          · rw [if_pos here, if_pos here]
            exact ⟨fields, rfl, ofFirst⟩
          · rw [if_neg here, if_neg here]
            exact inductionHypothesis more
        · cases one
  · cases parsed

theorem Archive.lookup_store
    (archive : Archive)
    (key : PyStr) :
    archive.store.profiles.lookup key =
      (archive.profiles.lookup key).map ProfileEntry.profile :=
  Dict.lookup_map archive.profiles (fun _ => ProfileEntry.profile) key

/-- What is read is what `lookup` finds in the file. -/
theorem holds_of_read
    {file : HistoryFile}
    {archive : Archive}
    (isRead : read file = .ok archive) :
    Holds file archive.store := by
  obtain ⟨data, loaded, parsed⟩ := bind_eq_ok.mp isRead
  split at parsed
  · next ofData =>
    cases parsed
    simp only [Archive.ofDocument, bind, Option.bind_eq_some_iff] at ofData
    obtain ⟨_, _, _, _, _, _, profiles, isProfiles, _, _, _, _, same⟩ := ofData
    cases same
    obtain ⟨entries, isDict, found⟩ := recordsOf_lookup isProfiles
    refine ⟨data, entries, loaded, isDict, fun key => ?_⟩
    have here := found key
    rw [Archive.lookup_store]
    cases lookedUp : profiles.lookup key with
    | none =>
        rw [lookedUp] at here
        exact here
    | some entry =>
        rw [lookedUp] at here
        obtain ⟨fields, there, ofFields⟩ := here
        exact ⟨fields, there, shows_ofFields ofFields⟩
  · cases parsed

/-- A request for a context, or for one of its model with features. -/
def AsksFor (asked context : ResourceContext) : Prop :=
  asked = context ∨
    asked.scope = PyStr.ofString "model_instance" ∧ asked.features ≠ [] ∧
      { asked with features := [] } = context

/-- What is known for a request is no less than what its profile shows. -/
theorem le_known
    {fingerprint : PyVal → PyStr}
    {archive : Archive}
    {asked context : ResourceContext}
    (asks : AsksFor asked context)
    {entry : ProfileEntry}
    (found : archive.profiles.lookup (context.key fingerprint) = some entry)
    (amount : Profile → ℕ) :
    amount entry.profile ≤ ResourceHistory.known fingerprint archive.store asked amount := by
  unfold ResourceHistory.known
  simp only [Archive.lookup_store]
  rcases asks with rfl | ⟨scope, features, rfl⟩
  · rw [found]
    split
    · exact le_max_left _ _
    · exact le_rfl
  · rw [if_pos ⟨scope, features⟩, found]
    exact le_max_right _ _

/-- No more is known than the profiles show. -/
theorem known_le
    {fingerprint : PyVal → PyStr}
    {archive : Archive}
    {asked : ResourceContext}
    {amount : Profile → ℕ}
    {bound : ℕ}
    (small : ∀ key entry, archive.profiles.lookup key = some entry →
      amount entry.profile ≤ bound) :
    ResourceHistory.known fingerprint archive.store asked amount ≤ bound := by
  have each (key : PyStr) :
      ((archive.store.profiles.lookup key).map amount).getD 0 ≤ bound := by
    rw [Archive.lookup_store]
    cases found : archive.profiles.lookup key with
    | none => exact Nat.zero_le _
    | some entry => exact small key entry found
  unfold ResourceHistory.known
  split
  · exact max_le (each _) (each _)
  · exact each _

/-- A recommendation is at least what the profile of the context shows. -/
theorem recommended_spec
    {fingerprint : PyVal → PyStr}
    {file : HistoryFile}
    {archive : Archive}
    (isRead : read file = .ok archive)
    (distinct : (archive.profiles.map Prod.fst).Nodup)
    {bound : ℕ}
    (exact' : ∀ entry ∈ archive.profiles, entry.2.Exact bound)
    {asked context : ResourceContext}
    (asks : AsksFor asked context)
    {entry : ProfileEntry}
    (found : archive.profiles.lookup (context.key fingerprint) = some entry)
    {declared history anchor : PyDict}
    {decision : ResourceDecision}
    (lookedUp : lookup fingerprint file asked = .ok history)
    (recommended : recommendResources declared history anchor = .ok decision) :
    ∃ amount : ℕ, decision.effective.get "gpu_mem" = .int amount ∧
      (∀ peak ≤ entry.successPeakBytes, Double.Representable peak →
        ∃ mib, ceilMib peak peakMargin = .ok mib ∧ mib ≤ amount) ∧
      ((bound : ℚ) < Double.overflowBound → ∀ required ≤ entry.oomLowerBoundMib,
        positiveInt (.int required) ≤ amount) := by
  obtain ⟨other, otherLookedUp, peakRead, lowerBoundRead⟩ :=
    ResourceHistory.lookup_of_holds fingerprint (holds_of_read isRead) asked
  rw [lookedUp, Except.ok.injEq] at otherLookedUp
  subst otherLookedUp
  obtain ⟨effective, estimate, observed, _, _, margin, _, rfl⟩ :=
    (recommendResources_eq_ok_iff declared history anchor decision).mp recommended
  have sound : ResourceHistory.Sound archive.store := by
    intro profile member
    obtain ⟨original, inside, rfl⟩ := List.mem_map.mp member
    exact (exact' original inside).1
  have knownPeak := ResourceHistory.representable_known sound fingerprint asked
  have peakLe := le_known asks found Profile.successPeakBytes
  have boundLe := le_known asks found Profile.oomLowerBoundMib
  rw [positiveInt_of_representable knownPeak] at peakRead
  rw [peakRead] at margin
  have wide : (1 : ℚ) ≤ peakMargin := by norm_num [peakMargin]
  refine ⟨neededMemory effective history estimate observed, by simp [PyDict.get], ?_, ?_⟩
  · intro peak less double
    have le := less.trans peakLe
    have fits : (peak : ℚ) * peakMargin < Double.overflowBound := by
      by_contra beyond
      have cast : (peak : ℚ) ≤ _ := Nat.cast_le.mpr le
      have larger := (not_lt.mp beyond).trans
        (mul_le_mul_of_nonneg_right cast (zero_le_one.trans wide))
      rw [(ceilMib_total knownPeak wide).2 (not_lt.mpr larger)] at margin
      cases margin
    obtain ⟨mib, converted⟩ := (ceilMib_total double wide).1 fits
    refine ⟨mib, converted, (ceilMib_mono wide double knownPeak le converted margin).trans ?_⟩
    exact (le_max_left _ _).trans (le_max_right _ _)
  · intro fits required less
    have known : ResourceHistory.known fingerprint archive.store asked
        Profile.oomLowerBoundMib ≤ bound := known_le fun key entry found =>
      (exact' _ ((Dict.lookup_eq_some_iff distinct _ _).mp found)).2
    have cast : ((ResourceHistory.known fingerprint archive.store asked
        Profile.oomLowerBoundMib : ℕ) : ℚ) ≤ bound := Nat.cast_le.mpr known
    rw [neededMemory, lowerBoundRead]
    calc
      positiveInt (.int required)
          ≤ positiveInt (.int (ResourceHistory.known fingerprint archive.store asked
              Profile.oomLowerBoundMib)) :=
        positiveInt_mono (less.trans boundLe) (cast.trans_lt fits)
      _ ≤ _ := (le_max_right _ _).trans (le_max_right _ _)

/-! ## Facts that are kept -/

/-- The history is within its bounds. -/
structure WithinBounds (archive : Archive) : Prop where
  models : archive.models.length ≤ maxProfiles
  tasks : archive.tasks.length ≤ maxProfiles
  profiles : archive.profiles.length ≤ maxProfiles
  recent : archive.recentObservations.length ≤ maxRecent
  ids : archive.observationIds.length ≤ maxObservationIds

/-- The amounts that failed attempts have needed are in the range of a `float`. -/
def InRange (calls : List ObservationCall) : Prop :=
  ∀ call ∈ calls, ((call.requiredGpuMemMib : ℤ) : ℚ) < Double.overflowBound

/--
An amount is at least what the call has shown of the context: its peak times the double
`1.15`, and what it required, rounded to a double. Neither is rounded while it is small.
-/
structure Honours
    (calls : List ObservationCall)
    (call : ObservationCall)
    (context : ResourceContext)
    (amount : ℕ) : Prop where
  peak : ∀ peak, ShowsPeak call context peak →
    (∃ mib, ceilMib peak peakMargin = .ok mib ∧ mib ≤ amount) ∧
      (peak ≤ 2 ^ 46 → (peak * 115 : ℚ) / 100 ≤ amount * 2 ^ 20)
  required : ∀ required : ℕ, call.requiredGpuMemMib = required → ShowsRequired call context →
    InRange calls → positiveInt (.int required) ≤ amount ∧ (required ≤ 2 ^ 53 → required ≤ amount)

section Kept

variable (fingerprint format : PyVal → PyStr) (calls : List ObservationCall)

/-- Every recommendation for the context honours what the call has shown of it. -/
def Honoured
    (call : ObservationCall)
    (context : ResourceContext) : Prop :=
  ∀ asked, AsksFor asked context →
    ∀ declared history anchor decision,
      lookup fingerprint (historyAfter fingerprint format calls) asked = .ok history →
        recommendResources declared history anchor = .ok decision →
          ∃ amount : ℕ, decision.effective.get "gpu_mem" = .int amount ∧
            Honours calls call context amount

/-- What is known after the calls, and what one call more makes of it. -/
structure FactsKept (archive : Archive) : Prop where
  bounds : WithinBounds archive
  ids : archive.observationIds = lastItems maxObservationIds (recordedIds fingerprint format calls)
  repeated : ∀ call, Clocked (calls ++ [call]) → (∃ id ∈ call.ids, id ∈ archive.observationIds) →
    historyAfter fingerprint format (calls ++ [call]) = historyAfter fingerprint format calls
  step : ∀ call, Clocked (calls ++ [call]) → wasRecorded fingerprint format calls call →
    ∃ after, read (historyAfter fingerprint format (calls ++ [call])) = .ok after ∧
      Recorded fingerprint call archive after
  grown : ∀ earlier later key, calls = earlier ++ later →
    Retained fingerprint format earlier later key →
      ∀ before old, read (historyAfter fingerprint format earlier) = .ok before →
        before.profiles.lookup key = some old →
          ∃ entry, archive.profiles.lookup key = some entry ∧ old.AtMost entry
  honoured : ∀ earlier call later, calls = earlier ++ [call] ++ later →
    wasRecorded fingerprint format earlier call →
      ∀ context, call.context = some context →
        Retained fingerprint format (earlier ++ [call]) later (context.key fingerprint) →
          Honoured fingerprint format calls call context

end Kept

/-- The amounts have a bound, which is in the range if they are. -/
theorem exists_bound (calls : List ObservationCall) :
    ∃ bound : ℕ, (∀ call ∈ calls, call.requiredGpuMemMib ≤ bound) ∧
      (InRange calls → (bound : ℚ) < Double.overflowBound) := by
  induction calls with
  | nil =>
      refine ⟨0, by simp, fun _ => ?_⟩
      exact (Double.round_eq_finite_iff (by simp)).mp
        ⟨0, by rw [Nat.cast_zero, Double.round_zero]⟩
  | cons first rest inductionHypothesis =>
      obtain ⟨bound, bounded, fits⟩ := inductionHypothesis
      refine ⟨max bound first.requiredGpuMemMib.toNat, ?_, fun inRange => ?_⟩
      · intro call member
        rcases List.mem_cons.mp member with rfl | later
        · omega
        · have := bounded call later
          omega
      · obtain ⟨here, later⟩ := List.forall_mem_cons.mp inRange
        rcases max_choice bound first.requiredGpuMemMib.toNat with left | right
        · rw [left]
          exact fits later
        · rw [right]
          rcases Int.le_total 0 first.requiredGpuMemMib with nonneg | negative
          · have cast : ((first.requiredGpuMemMib.toNat : ℕ) : ℚ) =
                ((first.requiredGpuMemMib : ℤ) : ℚ) := by
              exact_mod_cast Int.toNat_of_nonneg nonneg
            rwa [cast]
          · rw [Int.toNat_of_nonpos negative]
            have zero : bound = 0 := by omega
            exact zero ▸ fits later

/-- A moment when all calls are past. -/
theorem exists_later (calls : List ObservationCall) :
    ∃ now, ∀ call ∈ calls, seconds call.recordedTime ≤ now := by
  obtain ⟨now, upper⟩ := (calls.map fun call => seconds call.recordedTime).finite_toSet.bddAbove
  exact ⟨now, fun call member => upper (List.mem_map.mpr ⟨call, member, rfl⟩)⟩

theorem honoured
    {fingerprint format : PyVal → PyStr}
    {earlier later : List ObservationCall}
    {call : ObservationCall}
    (clocked : Clocked (earlier ++ [call] ++ later))
    (recorded : wasRecorded fingerprint format earlier call)
    {context : ResourceContext}
    (given : call.context = some context)
    (retained : Retained fingerprint format (earlier ++ [call]) later
      (context.key fingerprint)) :
    Honoured fingerprint format (earlier ++ [call] ++ later) call context := by
  intro asked asks declared history anchor decision lookedUp recommended
  obtain ⟨archive, isRead, sound, exact'⟩ := historyAfter_spec fingerprint format clocked
  obtain ⟨noted, notedRead, notedEntry, notedFound, peaks, required⟩ :
      ∃ noted, read (historyAfter fingerprint format (earlier ++ [call])) = .ok noted ∧
        ∃ entry, noted.profiles.lookup (context.key fingerprint) = some entry ∧
          (∀ peak, ShowsPeak call context peak → peak ≤ entry.successPeakBytes) ∧
          (ShowsRequired call context → call.requiredGpuMemMib ≤ entry.oomLowerBoundMib) := by
    have shorter := (List.pairwise_append.mp clocked).1
    obtain ⟨before, beforeRead, _⟩ :=
      historyAfter_spec fingerprint format (List.pairwise_append.mp shorter).1
    obtain ⟨noted, notedRead, _⟩ := historyAfter_spec fingerprint format shorter
    have step := historyAfter_step fingerprint format shorter beforeRead notedRead
    rw [if_pos recorded] at step
    exact ⟨noted, notedRead, step.2.shown context given⟩
  obtain ⟨entry, found, grown⟩ :=
    retained_spec fingerprint format clocked retained notedRead isRead notedFound
  obtain ⟨bound, bounded, fits⟩ := exists_bound (earlier ++ [call] ++ later)
  obtain ⟨now, all⟩ := exists_later (earlier ++ [call] ++ later)
  have distinct := (sound now all).profiles.distinct
  obtain ⟨amount, effective, margin, lowerBound⟩ :=
    recommended_spec isRead distinct (exact' bound bounded) asks found lookedUp recommended
  refine ⟨amount, effective, fun peak shown => ?_, fun amountRequired same shown inRange => ?_⟩
  · have double := ResourceHistory.representable_observedPeakBytes shown.2.1
    obtain ⟨mib, converted, le⟩ := margin peak ((peaks peak shown).trans grown.2.1) double
    refine ⟨⟨mib, converted, le⟩, fun small => ?_⟩
    have cast : (mib : ℚ) ≤ amount := Nat.cast_le.mpr le
    exact (peak_le_ceilMib small converted).trans
      (mul_le_mul_of_nonneg_right cast (by positivity))
  · have less : amountRequired ≤ entry.oomLowerBoundMib := by
      have := required shown
      have := grown.2.2
      omega
    have least := lowerBound (fits inRange) amountRequired less
    refine ⟨least, fun small => ?_⟩
    rwa [positiveInt_of_representable (Double.representable_of_le small)] at least

/-! ## Amounts that are rounded -/

def trainer : ResourceContext := ⟨"task", "trainer", "pytorch", "float32", []⟩

/-- An attempt of the trainer; it failed if an amount is required. -/
def attempt
    (metrics : PyDict)
    (requiredGpuMemMib : ℤ) :
    ObservationCall where
  runId := "run"
  taskId := "task"
  taskName := none
  status := if requiredGpuMemMib = 0 then "succeeded" else "failed"
  requestedResources := []
  modelAnchor := .null
  metrics := metrics
  error := none
  selectedNode := .null
  context := some trainer
  observationId := none
  requiredGpuMemMib := requiredGpuMemMib
  recordedTime := ⟨0, 0, Decimal.zero_shortest⟩
  updatedTime := ⟨0, 0, Decimal.zero_shortest⟩
  writable := true

/-- The GPU memory that is recommended for a request with nothing of its own. -/
def recommended
    (fingerprint : PyVal → PyStr)
    (file : HistoryFile)
    (context : ResourceContext) :
    Except PyErr PyVal := do
  let history ← lookup fingerprint file context
  let decision ← recommendResources [] history []
  .ok (decision.effective.get "gpu_mem")

/-- Every recommendation honours a call in the given sense while its profile is retained. -/
def AlwaysHonours (honours : ObservationCall → ResourceContext → ℕ → Prop) : Prop :=
  ∀ (fingerprint format : PyVal → PyStr) (earlier later : List ObservationCall)
    (call : ObservationCall) (context : ResourceContext),
    Clocked (earlier ++ [call] ++ later) → wasRecorded fingerprint format earlier call →
      call.context = some context →
        Retained fingerprint format (earlier ++ [call]) later (context.key fingerprint) →
          ∀ declared history anchor decision,
            lookup fingerprint (historyAfter fingerprint format (earlier ++ [call] ++ later))
                context = .ok history →
              recommendResources declared history anchor = .ok decision →
                ∃ amount : ℕ, decision.effective.get "gpu_mem" = .int amount ∧
                  honours call context amount

/-- What would hold of an amount that is recommended after one attempt. -/
theorem AlwaysHonours.attempt
    {honours : ObservationCall → ResourceContext → ℕ → Prop}
    (always : AlwaysHonours honours)
    (metrics : PyDict)
    (required : ℤ)
    (amount : ℕ)
    (recorded : wasRecorded (fun _ => "key") (fun _ => "model") [] (attempt metrics required))
    (settled : recommended (fun _ => "key")
      (historyAfter (fun _ => "key") (fun _ => "model") [attempt metrics required]) trainer =
        .ok (.int amount)) :
    honours (attempt metrics required) trainer amount := by
  have clocked : Clocked [HistoryArchive.attempt metrics required] := List.pairwise_singleton _ _
  obtain ⟨archive, isRead, _⟩ :=
    historyAfter_spec (fun _ => "key") (fun _ => "model") clocked
  have step := @historyAfter_step (fun _ => "key") (fun _ => "model") [] _ clocked .empty
    archive read_absent isRead
  rw [if_pos recorded] at step
  obtain ⟨entry, found, _⟩ := step.2.shown trainer rfl
  have retained : Retained (fun _ => "key") (fun _ => "model")
      [HistoryArchive.attempt metrics required] [] (trainer.key fun _ => "key") := by
    intro between rest split other otherRead
    obtain ⟨rfl, rfl⟩ := List.nil_eq_append_iff.mp split
    obtain rfl := Except.ok.inj (isRead.symm.trans otherRead)
    rw [found]
    rfl
  simp only [recommended, bind_eq_ok] at settled
  obtain ⟨history, lookedUp, decision, recommends, same⟩ := settled
  obtain ⟨other, effective, honoured⟩ := always _ _ [] [] _ trainer clocked recorded rfl
    retained [] history [] decision lookedUp recommends
  rw [effective, Except.ok.injEq, PyVal.int.injEq, Nat.cast_inj] at same
  exact same ▸ honoured

end Maze.Core.HistoryArchive
