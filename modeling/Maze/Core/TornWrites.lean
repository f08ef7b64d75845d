import Maze.Core.EventLogFiles

namespace Maze.Core.EventLog

open Maze.Python
open Maze.Python.Utf8 (Byte encodePoints decode decodeFrom Writable)
open Maze.Python.Json (point text loads dumps sortKeys withinDigitLimit)

/-!
# Writes that stop early

An append that fails may leave any beginning of its bytes in the file. What the
next append makes of it depends only on where the write stopped: before the text
of the event the log is unchanged, behind it the event is there, and inside it
the log can never be loaded again.
-/

section Accepted

/-- An event that `append_event_once` can write. -/
structure Accepted (sequence : Int) (event : PyDict) : Prop where
  distinct : (PyVal.dict event).keysDistinct = true
  numbered : eventSequence (.dict (payload event)) = .ok sequence
  written : ∃ serialized, dumps (.dict (payload event)) = .ok serialized ∧
    serialized.encodable = true

/-- The JSON value of an event with the schema version. -/
def storedEvent (event : PyDict) : PyVal :=
  sortKeys (.dict (payload event))

theorem keysDistinct_payload
    {event : PyDict}
    (distinct : (PyVal.dict event).keysDistinct = true) :
    (PyVal.dict (payload event)).keysDistinct = true := by
  simp only [PyVal.keysDistinct, Bool.and_eq_true, decide_eq_true_eq,
    Json.entriesKeysDistinct_iff] at distinct ⊢
  refine ⟨PyDict.nodup_update event (by simp), ?_⟩
  intro entry member
  rcases PyDict.mem_update member with version | own
  · obtain rfl := List.mem_singleton.mp version
    rfl
  · exact distinct.2 entry own

theorem eventSequence_eq_ok_iff
    (entries : PyDict)
    (sequence : Int) :
    eventSequence (.dict entries) = .ok sequence ↔
      PyDict.get? entries "seq" = some (.int sequence) ∧ 0 < sequence := by
  unfold eventSequence
  simp only [PyVal.get, PyDict.get]
  cases PyDict.get? entries "seq" with
  | none =>
      simp
  | some value =>
      cases value with
      | int number =>
          simp only [Option.getD_some]
          split
          · next positive =>
            constructor
            · intro same
              cases same
              exact ⟨rfl, positive⟩
            · rintro ⟨same, _⟩
              cases same
              rfl
          · next negative =>
            constructor
            · intro same
              cases same
            · rintro ⟨same, positive⟩
              cases same
              exact absurd positive negative
      | _ => simp

/-- The number of an event does not depend on the order of its keys. -/
theorem eventSequence_sortKeys
    {entries : PyDict}
    {sequence : Int}
    (distinct : (PyVal.dict entries).keysDistinct = true)
    (numbered : eventSequence (.dict entries) = .ok sequence) :
    eventSequence (sortKeys (.dict entries)) = .ok sequence := by
  simp only [PyVal.keysDistinct, Bool.and_eq_true,
    decide_eq_true_eq] at distinct
  obtain ⟨bound, positive⟩ :=
    (eventSequence_eq_ok_iff entries sequence).mp numbered
  rw [Json.sortKeys_dict]
  apply (eventSequence_eq_ok_iff _ _).mpr
  refine ⟨?_, positive⟩
  rw [Json.get?_sorted distinct.1, bound]
  rfl

theorem Accepted.dumped
    {sequence : Int}
    {event : PyDict}
    (accepted : Accepted sequence event) :
    withinDigitLimit (.dict (payload event)) = true ∧
      dumps (.dict (payload event)) = .ok ⟨text (storedEvent event)⟩ ∧
      Writable (text (storedEvent event)) := by
  obtain ⟨serialized, dumped, encodable⟩ := accepted.written
  unfold dumps at dumped ⊢
  split at dumped
  · next limit =>
    cases dumped
    exact ⟨limit, by rw [if_pos limit]; rfl,
      (Utf8.writable_iff _).mp encodable⟩
  · cases dumped

/-- An accepted event is stored as its JSON value. -/
theorem Accepted.stored
    {sequence : Int}
    {event : PyDict}
    (accepted : Accepted sequence event) :
    Stored sequence (storedEvent event) := by
  have distinct := keysDistinct_payload accepted.distinct
  obtain ⟨limit, _, encodable⟩ := accepted.dumped
  exact {
    isDict := ⟨_, Json.sortKeys_dict _⟩
    distinct := Json.keysDistinct_sortKeys _ distinct
    limit := Json.withinDigitLimit_sortKeys _ limit
    sorted := Json.sortKeys_sortKeys _ distinct
    encodable := encodable
    numbered := eventSequence_sortKeys distinct accepted.numbered }

theorem withinDigitLimit_filter
    {entries : PyDict}
    (keep : PyStr × PyVal → Bool)
    (limit : withinDigitLimit (.dict entries) = true) :
    withinDigitLimit (.dict (entries.filter keep)) = true := by
  simp only [withinDigitLimit, Json.entriesWithinDigitLimit_iff] at limit ⊢
  intro entry member
  exact limit entry (List.mem_of_mem_filter member)

/-- An event is recognised when it is appended again. -/
theorem Accepted.matches
    {sequence : Int}
    {event : PyDict}
    (accepted : Accepted sequence event) :
    eventsMatch (storedEvent event) (.dict (payload event)) = .ok true := by
  have distinct := keysDistinct_payload accepted.distinct
  obtain ⟨limit, _, _⟩ := accepted.dumped
  have storedLimit := accepted.stored.limit
  have same := Json.sortKeys_filter_sorted
    (fun key => decide (key ≠ PyStr.ofString "timestamp")) distinct
  unfold storedEvent at storedLimit ⊢
  rw [Json.sortKeys_dict] at storedLimit ⊢
  rw [eventsMatch, eventPayloadJson_dict, eventPayloadJson_dict,
    Json.dumps_of_limit (withinDigitLimit_filter _ storedLimit),
    Json.dumps_of_limit (withinDigitLimit_filter _ limit)]
  simp only [bind, Except.bind, same, decide_true]

end Accepted

section Steps

/-- A log whose file holds some events and whose cache agrees with the file. -/
structure Sound
    (log : Log)
    (content : List CodePoint)
    (events : List (Int × PyVal)) : Prop where
  file : log.file = encodePoints content
  holds : Holds content events
  cached : ∀ state, log.cache = some state →
    state = ⟨events, lastNumber events, needsSeparator log.file⟩

variable
  {kind : Kind} {log : Log} {content : List CodePoint}
  {events : List (Int × PyVal)} {sequence : Int} {event : PyDict}

theorem sound_empty :
    Sound empty [] [] where
  file := rfl
  holds := holds_empty
  cached := by
    intro state cached
    cases cached

theorem sound_uncached
    (holds : Holds content events) :
    Sound ⟨encodePoints content, none⟩ content events where
  file := rfl
  holds := holds
  cached := by
    intro state cached
    cases cached

theorem Sound.logState
    (sound : Sound log content events)
    (kind : Kind) :
    EventLog.logState kind log =
      .ok ⟨events, lastNumber events, needsSeparator log.file⟩ := by
  unfold EventLog.logState
  cases cache : log.cache with
  | none =>
      simp only [sound.file, sound.holds.readState]
  | some state =>
      rw [sound.cached state cache]

/-- The bytes that an append of a new event writes. -/
def appendedBytes
    (log : Log)
    (event : PyDict) :
    File :=
  separator (needsSeparator log.file) ++
    encodePoints (text (storedEvent event)) ++ [newlineByte]

theorem lookup_new
    (ascending : Ascending none events)
    (above : lastNumber events < sequence) :
    events.lookup sequence = none := by
  rw [List.lookup_eq_none_iff]
  intro entry member
  have below := ascending.le_last member
  simp only [bne_iff_ne, ne_eq]
  omega

theorem lookup_last
    (event : PyVal)
    (ascending : Ascending none events)
    (above : lastNumber events < sequence) :
    (events ++ [(sequence, event)]).lookup sequence = some event := by
  rw [List.lookup_append, lookup_new ascending above]
  simp

/-- What an append of a new event does to the log. -/
theorem appendEventOnce_new
    (sound : Sound log content events)
    (accepted : Accepted sequence event)
    (above : lastNumber events < sequence)
    (write : Write) :
    appendEventOnce kind log event write =
      match write with
      | .completes =>
          (⟨log.file ++ appendedBytes log event,
            some ⟨events ++ [(sequence, storedEvent event)], sequence,
              false⟩⟩, .ok ())
      | .fails written =>
          (⟨log.file ++ (appendedBytes log event).take written, none⟩,
            .error .osError) := by
  obtain ⟨_, dumped, encodable⟩ := accepted.dumped
  obtain ⟨_, _, loaded⟩ := accepted.stored.load
  have encoded : Utf8.encode ⟨text (storedEvent event)⟩ =
      .ok (encodePoints (text (storedEvent event))) :=
    if_pos ((Utf8.writable_iff _).mpr encodable)
  have remembered : remember
      ⟨events, lastNumber events, needsSeparator log.file⟩
      ⟨text (storedEvent event)⟩ =
      .ok ⟨events ++ [(sequence, storedEvent event)], sequence, false⟩ := by
    simp only [remember, loaded, accepted.stored.numbered, bind, Except.bind]
  unfold appendEventOnce
  simp only [accepted.numbered, sound.logState,
    lookup_new sound.holds.ascending above, if_neg (not_le.mpr above), dumped]
  cases write with
  | completes =>
      simp only [writeLine, encoded, remembered]
      rfl
  | fails written =>
      simp only [writeLine, encoded]
      rfl

/-- An event that the log already holds is not written again. -/
theorem appendEventOnce_again
    (sound : Sound log content
      (events ++ [(sequence, storedEvent event)]))
    (ascending : Ascending none events)
    (accepted : Accepted sequence event)
    (above : lastNumber events < sequence)
    (write : Write) :
    appendEventOnce kind log event write =
      (⟨log.file, some ⟨events ++ [(sequence, storedEvent event)], sequence,
        needsSeparator log.file⟩⟩, .ok ()) := by
  unfold appendEventOnce
  simp only [accepted.numbered, sound.logState,
    lookup_last _ ascending above, accepted.matches, lastNumber_append]

/-- Nothing is appended to a log that cannot be loaded. -/
theorem appendEventOnce_broken
    {failure : PyErr}
    (broken : loadEvents kind log.file = .error failure)
    (uncached : log.cache = none)
    (write : Write) :
    ∃ failure, appendEventOnce kind log event write =
      (log, .error failure) := by
  have state : EventLog.logState kind log = .error failure := by
    simp only [EventLog.logState, uncached, readState, broken, bind,
      Except.bind]
  have same : (⟨log.file, none⟩ : Log) = log := by
    rw [← uncached]
  unfold appendEventOnce
  cases numbered : eventSequence (.dict (payload event)) with
  | error failure => exact ⟨failure, by simp only [numbered]⟩
  | ok sequence => exact ⟨failure, by simp only [numbered, state, same]⟩

theorem file_base
    (sound : Sound log content events) :
    log.file ++ separator (needsSeparator log.file) =
      encodePoints (base content) := by
  rw [encodePoints_base, sound.file]

theorem file_line
    (sound : Sound log content events)
    (event : PyDict) :
    log.file ++ (separator (needsSeparator log.file) ++
      encodePoints (text (storedEvent event))) =
      encodePoints (base content ++ text (storedEvent event)) := by
  rw [← List.append_assoc, file_base sound, Utf8.encodePoints_append]

theorem encodePoints_newline :
    encodePoints [newline] = [newlineByte] := by
  decide

theorem file_appended
    (sound : Sound log content events)
    (event : PyDict) :
    log.file ++ appendedBytes log event =
      encodePoints (base content ++ text (storedEvent event) ++
        [newline]) := by
  rw [appendedBytes, ← List.append_assoc, file_line sound,
    ← encodePoints_newline, ← Utf8.encodePoints_append]

/-- An append that completes leaves the log with one more event. -/
theorem sound_completed
    (kind : Kind)
    (sound : Sound log content events)
    (accepted : Accepted sequence event)
    (above : lastNumber events < sequence) :
    ∃ content,
      Sound (appendEventOnce kind log event .completes).1 content
        (events ++ [(sequence, storedEvent event)]) ∧
      (appendEventOnce kind log event .completes).2 = .ok () := by
  have holds := (sound.holds.line accepted.stored above).newline
  rw [appendEventOnce_new sound accepted above]
  refine ⟨_, ⟨file_appended sound event, holds, ?_⟩, rfl⟩
  intro state cached
  cases cached
  have ended : needsSeparator (log.file ++ appendedBytes log event) =
      false := by
    rw [appendedBytes, ← List.append_assoc, needsSeparator,
      List.getLast?_concat]
    simp
  simp only [lastNumber_append, ended]

/--
The write of a failing append stops inside the text of the event: behind the
separator and before the last byte of the text.
-/
def stopsInside
    (kind : Kind)
    (log : Log)
    (event : PyDict)
    (written : Nat) :
    Bool :=
  match eventSequence (.dict (payload event)), EventLog.logState kind log,
      dumps (.dict (payload event)) with
  | .ok sequence, .ok state, .ok serialized =>
      let start := (separator state.needsSeparator).length
      (state.events.lookup sequence).isNone && start < written &&
        written < start + (encodePoints serialized.chars).length
  | _, _, _ => false

theorem stopsInside_new
    (kind : Kind)
    (sound : Sound log content events)
    (accepted : Accepted sequence event)
    (above : lastNumber events < sequence)
    (written : Nat) :
    stopsInside kind log event written = true ↔
      (separator (needsSeparator log.file)).length < written ∧
        written < (separator (needsSeparator log.file)).length +
          (encodePoints (text (storedEvent event))).length := by
  obtain ⟨_, dumped, _⟩ := accepted.dumped
  simp [stopsInside, accepted.numbered, sound.logState, dumped,
    lookup_new sound.holds.ascending above]

theorem stopsInside_again
    (sound : Sound log content
      (events ++ [(sequence, storedEvent event)]))
    (ascending : Ascending none events)
    (accepted : Accepted sequence event)
    (above : lastNumber events < sequence)
    (written : Nat) :
    stopsInside kind log event written = false := by
  obtain ⟨_, dumped, _⟩ := accepted.dumped
  simp [stopsInside, accepted.numbered, sound.logState, dumped,
    lookup_last _ ascending above]

theorem separator_length
    (needed : Bool) :
    (separator needed).length ≤ 1 := by
  unfold separator
  split <;> simp

/-- A write that stops before the text changes at most the last line's end. -/
theorem sound_before
    (sound : Sound log content events)
    (event : PyDict)
    {written : Nat}
    (early : written ≤ (separator (needsSeparator log.file)).length) :
    ∃ content, Sound
      ⟨log.file ++ (appendedBytes log event).take written, none⟩
      content events := by
  have short := separator_length (needsSeparator log.file)
  have taken : (appendedBytes log event).take written =
      (separator (needsSeparator log.file)).take written := by
    rw [appendedBytes, List.append_assoc, List.take_append_of_le_length early]
  by_cases nothing : written = 0
  · refine ⟨content, ?_, sound.holds, by simp⟩
    simp [nothing, sound.file]
  · refine ⟨base content, ?_, sound.holds.base, by simp⟩
    rw [taken, List.take_of_length_le (by omega), file_base sound]

/-- A write that stops behind the text has stored the event. -/
theorem sound_behind
    (sound : Sound log content events)
    (accepted : Accepted sequence event)
    (above : lastNumber events < sequence)
    {written : Nat}
    (late : (separator (needsSeparator log.file)).length +
      (encodePoints (text (storedEvent event))).length ≤ written) :
    ∃ content, Sound
      ⟨log.file ++ (appendedBytes log event).take written, none⟩
      content (events ++ [(sequence, storedEvent event)]) := by
  have line := sound.holds.line accepted.stored above
  by_cases exact' : written = (separator (needsSeparator log.file)).length +
      (encodePoints (text (storedEvent event))).length
  · refine ⟨_, ?_, line, by simp⟩
    rw [exact', appendedBytes, List.take_append_of_le_length (by simp),
      List.take_of_length_le (by simp), file_line sound]
  · refine ⟨_, ?_, line.newline, by simp⟩
    have whole : (appendedBytes log event).length ≤ written := by
      simp only [appendedBytes, List.length_append, List.length_singleton]
      omega
    rw [List.take_of_length_le whole, file_appended sound]

/-- A write that stops inside the text leaves a log that cannot be loaded. -/
theorem broken_inside
    (sound : Sound log content events)
    (accepted : Accepted sequence event)
    {written : Nat}
    (behind : (separator (needsSeparator log.file)).length < written)
    (inside : written < (separator (needsSeparator log.file)).length +
      (encodePoints (text (storedEvent event))).length)
    (kind : Kind) :
    ∃ failure, loadEvents kind
      (log.file ++ (appendedBytes log event).take written) =
      .error failure := by
  obtain ⟨count, rfl⟩ := Nat.exists_eq_add_of_lt behind
  have taken : (appendedBytes log event).take
      ((separator (needsSeparator log.file)).length + count + 1) =
      separator (needsSeparator log.file) ++
        (encodePoints (text (storedEvent event))).take (count + 1) := by
    rw [appendedBytes, List.append_assoc, Nat.add_assoc, List.take_length_add_append,
      List.take_append_of_le_length (by omega)]
  rw [taken, ← List.append_assoc, file_base sound]
  apply sound.holds.torn accepted.stored (List.take_prefix _ _)
  · intro empty
    have lengths := congrArg List.length empty
    simp only [List.length_take, List.length_nil] at lengths
    omega
  · intro whole
    have lengths := congrArg List.length whole
    simp only [List.length_take] at lengths
    omega

end Steps

section Runs

/-- An event, with the bytes that its failing appends got into the file. -/
structure Append where
  sequence : Int
  event : PyDict
  cuts : List Nat
  deriving DecidableEq

/-- Append an event: every failure is followed by a retry with the same event. -/
def appendWithRetries
    (kind : Kind)
    (log : Log)
    (event : PyDict) :
    List Nat → Log × Except PyErr Unit
  | [] => appendEventOnce kind log event .completes
  | written :: later =>
      appendWithRetries kind
        (appendEventOnce kind log event (.fails written)).1 event later

/-- Append the events of a run one after the other. -/
def appendAll
    (kind : Kind) :
    Log → List Append → Except PyErr Log
  | log, [] => .ok log
  | log, append :: rest =>
      match appendWithRetries kind log append.event append.cuts with
      | (log, .ok ()) => appendAll kind log rest
      | (_, .error failure) => .error failure

/-- No failing append of the event stops inside its text. -/
def RetriesOutside
    (kind : Kind)
    (log : Log)
    (event : PyDict) :
    List Nat → Prop
  | [] => True
  | written :: later =>
      stopsInside kind log event written = false ∧
        RetriesOutside kind
          (appendEventOnce kind log event (.fails written)).1 event later

/-- No failing append of the run stops inside the text of its event. -/
def CutsOutside
    (kind : Kind) :
    Log → List Append → Prop
  | _, [] => True
  | log, append :: rest =>
      RetriesOutside kind log append.event append.cuts ∧
        CutsOutside kind
          (appendWithRetries kind log append.event append.cuts).1 rest

variable
  {kind : Kind} {log : Log} {content : List CodePoint}
  {events : List (Int × PyVal)} {sequence : Int} {event : PyDict}

/-- A log that cannot be loaded refuses every retry. -/
theorem appendWithRetries_broken
    {failure : PyErr}
    (broken : loadEvents kind log.file = .error failure)
    (uncached : log.cache = none)
    (cuts : List Nat) :
    ∃ failure, (appendWithRetries kind log event cuts).2 =
      .error failure := by
  induction cuts with
  | nil =>
      obtain ⟨failure, refused⟩ :=
        appendEventOnce_broken broken uncached .completes
      exact ⟨failure, by rw [appendWithRetries, refused]⟩
  | cons written later inductionHypothesis =>
      obtain ⟨failure, refused⟩ :=
        appendEventOnce_broken broken uncached (.fails written)
      rw [appendWithRetries, refused]
      exact inductionHypothesis

theorem sound_again
    (sound : Sound log content
      (events ++ [(sequence, storedEvent event)]))
    (ascending : Ascending none events)
    (accepted : Accepted sequence event)
    (above : lastNumber events < sequence)
    (write : Write) :
    Sound (appendEventOnce kind log event write).1 content
      (events ++ [(sequence, storedEvent event)]) := by
  rw [appendEventOnce_again sound ascending accepted above]
  refine ⟨sound.file, sound.holds, ?_⟩
  intro state cached
  cases cached
  simp

/-- The retries of an event that is already there change nothing. -/
theorem appendWithRetries_again
    (sound : Sound log content
      (events ++ [(sequence, storedEvent event)]))
    (ascending : Ascending none events)
    (accepted : Accepted sequence event)
    (above : lastNumber events < sequence)
    (cuts : List Nat) :
    RetriesOutside kind log event cuts ∧
      (appendWithRetries kind log event cuts).2 = .ok () ∧
      ∃ content, Sound (appendWithRetries kind log event cuts).1 content
        (events ++ [(sequence, storedEvent event)]) := by
  induction cuts generalizing log with
  | nil =>
      refine ⟨trivial, ?_, content,
        sound_again sound ascending accepted above .completes⟩
      rw [appendWithRetries,
        appendEventOnce_again sound ascending accepted above]
  | cons written later inductionHypothesis =>
      have outside : stopsInside kind log event written = false :=
        stopsInside_again sound ascending accepted above written
      obtain ⟨laterOutside, accepted', sound'⟩ := inductionHypothesis
        (sound_again sound ascending accepted above (.fails written))
      exact ⟨⟨outside, laterOutside⟩, accepted', sound'⟩

/--
An event whose failing appends all stop outside its text is in the log once; one
torn text makes every retry fail.
-/
theorem appendWithRetries_new
    (kind : Kind)
    (sound : Sound log content events)
    (accepted : Accepted sequence event)
    (above : lastNumber events < sequence)
    (cuts : List Nat) :
    (RetriesOutside kind log event cuts ∧
      (appendWithRetries kind log event cuts).2 = .ok () ∧
      ∃ content, Sound (appendWithRetries kind log event cuts).1 content
        (events ++ [(sequence, storedEvent event)])) ∨
    (¬ RetriesOutside kind log event cuts ∧
      ∃ failure, (appendWithRetries kind log event cuts).2 =
        .error failure) := by
  induction cuts generalizing log content with
  | nil =>
      obtain ⟨content, sound', completed⟩ :=
        sound_completed kind sound accepted above
      exact Or.inl ⟨trivial, completed, content, sound'⟩
  | cons written later inductionHypothesis =>
      have failed : (appendEventOnce kind log event (.fails written)).1 =
          ⟨log.file ++ (appendedBytes log event).take written, none⟩ := by
        rw [appendEventOnce_new sound accepted above]
      have inside := stopsInside_new kind sound accepted above
        written
      simp only [RetriesOutside, appendWithRetries, failed]
      by_cases early : written ≤
          (separator (needsSeparator log.file)).length
      · have outside : stopsInside kind log event written = false := by
          rw [Bool.eq_false_iff, ne_eq, inside]
          omega
        obtain ⟨content, sound'⟩ := sound_before sound event early
        rcases inductionHypothesis sound' with
          ⟨laterOutside, stored⟩ | ⟨laterInside, refused⟩
        · exact Or.inl ⟨⟨outside, laterOutside⟩, stored⟩
        · exact Or.inr ⟨fun both => laterInside both.2, refused⟩
      · by_cases late : (separator (needsSeparator log.file)).length +
            (encodePoints (text (storedEvent event))).length ≤ written
        · have outside : stopsInside kind log event written = false := by
            rw [Bool.eq_false_iff, ne_eq, inside]
            omega
          obtain ⟨content, sound'⟩ := sound_behind sound accepted above late
          obtain ⟨laterOutside, stored⟩ := appendWithRetries_again sound'
            sound.holds.ascending accepted above later
          exact Or.inl ⟨⟨outside, laterOutside⟩, stored⟩
        · obtain ⟨failure, broken⟩ := broken_inside sound accepted
            (not_le.mp early) (not_le.mp late) kind
          have torn : stopsInside kind log event written = true :=
            inside.mpr ⟨not_le.mp early, not_le.mp late⟩
          refine Or.inr ⟨fun both => ?_,
            appendWithRetries_broken broken rfl later⟩
          rw [torn] at both
          cases both.1

/-- The appended events as the log numbers them. -/
def storedAppends (plan : List Append) : List (Int × PyVal) :=
  plan.map fun append => (append.sequence, storedEvent append.event)

/-- The appends of a run either all succeed or one of them is torn. -/
theorem appendAll_new
    (kind : Kind)
    (plan : List Append)
    (sound : Sound log content events)
    (accepted : ∀ append ∈ plan, Accepted append.sequence append.event)
    (above : ∀ append ∈ plan, lastNumber events < append.sequence)
    (increasing : plan.Pairwise fun first second =>
      first.sequence < second.sequence) :
    (CutsOutside kind log plan ∧
      ∃ final content, appendAll kind log plan = .ok final ∧
        Sound final content (events ++ storedAppends plan)) ∨
    (¬ CutsOutside kind log plan ∧
      ∃ failure, appendAll kind log plan = .error failure) := by
  induction plan generalizing log content events with
  | nil =>
      refine Or.inl ⟨trivial, log, content, rfl, ?_⟩
      simpa [storedAppends] using sound
  | cons append rest inductionHypothesis =>
      obtain ⟨first, later⟩ := List.pairwise_cons.mp increasing
      have fresh := above append List.mem_cons_self
      rcases appendWithRetries_new kind sound
          (accepted append List.mem_cons_self) fresh append.cuts with
        ⟨outside, succeeded, content, sound'⟩ | ⟨inside, failure, refused⟩
      · have result : appendAll kind log (append :: rest) =
            appendAll kind
              (appendWithRetries kind log append.event append.cuts).1
              rest := by
          rw [appendAll]
          split
          · next same => rw [same]
          · next same =>
            rw [same] at succeeded
            cases succeeded
        rw [result]
        rcases inductionHypothesis sound'
            (fun append member => accepted append
              (List.mem_cons_of_mem _ member))
            (fun append member => by
              rw [lastNumber_append]
              exact first append member) later with
          ⟨restOutside, final, content, finished, sound''⟩ |
          ⟨restInside, refused⟩
        · refine Or.inl ⟨⟨outside, restOutside⟩, final, content, finished, ?_⟩
          simpa [storedAppends] using sound''
        · exact Or.inr ⟨fun both => restInside both.2, refused⟩
      · refine Or.inr ⟨fun both => inside both.1, failure, ?_⟩
        rw [appendAll]
        split
        · next same =>
          rw [same] at refused
          cases refused
        · next same =>
          rw [same] at refused
          cases refused
          rfl

/--
The events that a run appends are loaded back as their JSON values, once each
and in order, if and only if no failing append stops inside the text of its
event.
-/
theorem appendedEvents_loaded_iff
    (kind : Kind)
    (plan : List Append)
    (accepted : ∀ append ∈ plan, Accepted append.sequence append.event)
    (increasing : plan.Pairwise fun first second =>
      first.sequence < second.sequence) :
    (∃ log, appendAll kind empty plan = .ok log ∧
      loadEvents kind log.file =
        .ok (plan.map fun append => storedEvent append.event)) ↔
      CutsOutside kind empty plan := by
  have above : ∀ append ∈ plan, lastNumber [] < append.sequence := by
    intro append member
    exact ((eventSequence_eq_ok_iff _ _).mp
      (accepted append member).numbered).2
  rcases appendAll_new kind plan sound_empty accepted above
      increasing with
    ⟨outside, final, content, finished, sound⟩ | ⟨inside, failure, refused⟩
  · have loaded := sound.holds.load kind
    rw [← sound.file] at loaded
    refine iff_of_true ⟨final, finished, ?_⟩ outside
    rw [loaded]
    simp [storedAppends, Function.comp_def]
  · refine iff_of_false ?_ inside
    rintro ⟨log, finished, _⟩
    rw [refused] at finished
    cases finished

/-- An event with nothing but its number. -/
def firstEvent : PyDict :=
  [("seq", .int 1)]

theorem firstEvent_accepted :
    Accepted 1 firstEvent where
  distinct := by decide
  numbered := rfl
  written := ⟨_, rfl, by decide +kernel⟩

/-- The write of the only event fails twice, both times outside its text. -/
theorem appendedEvents_loaded_iff_outside :
    (∃ log, appendAll .dynamic empty [⟨1, firstEvent, [0, 31]⟩] = .ok log ∧
      loadEvents .dynamic log.file = .ok [storedEvent firstEvent]) ↔
      CutsOutside .dynamic empty [⟨1, firstEvent, [0, 31]⟩] :=
  appendedEvents_loaded_iff .dynamic [⟨1, firstEvent, [0, 31]⟩]
    (by simpa using firstEvent_accepted) (by simp)

/-- One byte of the only event reaches the file, and no retry succeeds. -/
theorem tornEvent_refused :
    ¬ ∀ (kind : Kind) (plan : List Append),
      (∀ append ∈ plan, Accepted append.sequence append.event) →
      (plan.Pairwise fun first second => first.sequence < second.sequence) →
      ∃ log, appendAll kind empty plan = .ok log ∧
        loadEvents kind log.file =
          .ok (plan.map fun append => storedEvent append.event) := by
  intro claim
  obtain ⟨log, finished, _⟩ := claim .static [⟨1, firstEvent, [1]⟩]
    (by simpa using firstEvent_accepted) (by simp)
  have refused : appendAll .static empty [⟨1, firstEvent, [1]⟩] =
      .error .valueError := by
    decide +kernel
  rw [refused] at finished
  cases finished

end Runs

end Maze.Core.EventLog
