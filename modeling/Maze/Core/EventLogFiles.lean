import Maze.Core.EventLog

namespace Maze.Core.EventLog

open Maze.Python
open Maze.Python.Utf8 (Byte encodePoints decode decodeFrom Writable)
open Maze.Python.Json (point text loads sortKeys withinDigitLimit)

/-!
# What a log file holds

A file whose text consists of whole lines is loaded as the events of its lines,
by both stores. A file that ends inside a line is not loaded at all.
-/

section Lines

/-- The lines that the loader does not skip. -/
def nonblank (lines : List (List CodePoint)) : List (List CodePoint) :=
  lines.filter fun line => !line.isEmpty

theorem segments_ne_nil
    (text : List CodePoint) :
    segments text ≠ [] := by
  cases text with
  | nil =>
      simp [segments]
  | cons char rest =>
      unfold segments
      split
      · simp
      · split <;> simp

/-- The end of a line separates the lines before it from those after it. -/
theorem segments_append_newline
    (before after : List CodePoint) :
    segments (before ++ newline :: after) =
      segments before ++ segments after := by
  induction before with
  | nil =>
      rfl
  | cons char rest inductionHypothesis =>
      rw [List.cons_append, segments, segments]
      split
      · rw [inductionHypothesis, List.cons_append]
      · rw [inductionHypothesis]
        cases lines : segments rest with
        | nil => exact absurd lines (segments_ne_nil rest)
        | cons first others => rfl

/-- A text without the end of a line is one line. -/
theorem segments_of_printable
    {line : List CodePoint}
    (printable : Json.Printable line) :
    segments line = [line] := by
  induction line with
  | nil =>
      rfl
  | cons char rest inductionHypothesis =>
      have inLine : endsLine char = false := by
        have visible := printable char (by simp)
        simp only [endsLine, Bool.or_eq_false_iff, decide_eq_false_iff_not]
        omega
      have restLine := inductionHypothesis fun later member =>
        printable later (List.mem_cons_of_mem _ member)
      rw [segments, inLine, restLine]
      rfl

theorem nonblank_append
    (first second : List (List CodePoint)) :
    nonblank (first ++ second) = nonblank first ++ nonblank second := by
  simp [nonblank]

theorem nonblank_segments_nil :
    nonblank (segments []) = [] := rfl

/-- The text of an object is not changed by `strip`. -/
theorem strip_text
    (entries : PyDict) :
    strip (text (.dict entries)) = text (.dict entries) := by
  obtain ⟨body, shape⟩ := Json.text_dict_shape entries
  have front : (text (.dict entries)).dropWhile isWhitespace =
      text (.dict entries) := by
    rw [shape]
    exact List.dropWhile_cons_of_neg (by decide)
  rw [strip, front, shape, ← List.cons_append]
  exact List.rdropWhile_concat_neg _ _ _ (by decide)

/-- Blank lines are skipped. -/
theorem loadLines_nonblank
    (previous : Option Int)
    (lines : List (List CodePoint)) :
    loadLines previous lines = loadLines previous (nonblank lines) := by
  induction lines generalizing previous with
  | nil =>
      rfl
  | cons line rest inductionHypothesis =>
      cases line with
      | nil =>
          exact inductionHypothesis previous
      | cons char later =>
          have kept : nonblank ((char :: later) :: rest) =
              (char :: later) :: nonblank rest := rfl
          rw [kept, loadLines, loadLines]
          simp only [inductionHypothesis]

end Lines

section Stores

/-- What the dynamic store remembers besides the last number is redundant. -/
theorem loadLinesSeen_eq
    (seen : List Int)
    (previous : Option Int)
    (lines : List (List CodePoint))
    (covered : ∀ sequence ∈ seen, ∃ last, previous = some last ∧
      sequence ≤ last) :
    loadLinesSeen seen previous lines = loadLines previous lines := by
  induction lines generalizing seen previous with
  | nil =>
      rfl
  | cons line rest inductionHypothesis =>
      rw [loadLinesSeen, loadLines]
      split
      · exact inductionHypothesis seen previous covered
      · cases loads ⟨strip line⟩ with
        | error failure => rfl
        | ok event =>
            cases counted : eventSequence event with
            | error failure =>
                simp only [bind, Except.bind, counted]
            | ok sequence =>
                have later := inductionHypothesis (sequence :: seen)
                  (some sequence)
                simp only [bind, Except.bind, counted]
                by_cases known : sequence ∈ seen
                · obtain ⟨last, rfl, below⟩ := covered sequence known
                  simp [known, below]
                · rw [if_neg known]
                  by_cases stale : previous.any
                      (fun previous => sequence ≤ previous) = true
                  · simp only [stale, if_true]
                  · rw [if_neg stale, if_neg stale, later]
                    intro number member
                    rcases List.mem_cons.mp member with rfl | earlier
                    · exact ⟨number, rfl, le_refl _⟩
                    · obtain ⟨last, rfl, below⟩ := covered number earlier
                      have above : ¬ sequence ≤ last := by
                        simpa using stale
                      exact ⟨sequence, rfl, by omega⟩

/-- Both stores load the same events from a file. -/
theorem loadEvents_eq
    (kind : Kind)
    (file : File) :
    loadEvents kind file = (decode file).bind fun text =>
      loadLines none (nonblank (segments text)) := by
  unfold loadEvents
  cases decode file with
  | error failure => rfl
  | ok text =>
      cases kind with
      | static =>
          exact loadLines_nonblank none (segments text)
      | dynamic =>
          calc
            loadLinesSeen [] none (segments text)
                = loadLines none (segments text) :=
              loadLinesSeen_eq [] none (segments text) (by simp)
            _ = loadLines none (nonblank (segments text)) :=
              loadLines_nonblank none (segments text)

end Stores

section Loading

/-- An event as a log holds it. -/
structure Stored (sequence : Int) (event : PyVal) : Prop where
  isDict : ∃ entries, event = .dict entries
  distinct : event.keysDistinct = true
  limit : withinDigitLimit event = true
  sorted : sortKeys event = event
  encodable : Writable (text event)
  numbered : eventSequence event = .ok sequence

/-- Stored events in the order of their numbers, all of them above a bound. -/
def Ascending : Option Int → List (Int × PyVal) → Prop
  | _, [] => True
  | previous, (sequence, event) :: rest =>
      Stored sequence event ∧
        (∀ last, previous = some last → last < sequence) ∧
        Ascending (some sequence) rest

/-- The lines of a list of stored events. -/
def lines (events : List (Int × PyVal)) : List (List CodePoint) :=
  events.map fun event => text event.2

theorem Stored.load
    {sequence : Int}
    {event : PyVal}
    (stored : Stored sequence event) :
    strip (text event) = text event ∧ (text event).isEmpty = false ∧
      loads ⟨text event⟩ = .ok event := by
  obtain ⟨entries, rfl⟩ := stored.isDict
  obtain ⟨body, shape⟩ := Json.text_dict_shape entries
  refine ⟨strip_text entries, by rw [shape]; rfl, ?_⟩
  exact Json.loads_text entries stored.distinct stored.limit

/-- Whole lines are loaded as their events. -/
theorem loadLines_ascending
    (previous : Option Int)
    (events : List (Int × PyVal))
    (ascending : Ascending previous events) :
    loadLines previous (lines events) = .ok (events.map Prod.snd) := by
  induction events generalizing previous with
  | nil =>
      rfl
  | cons event rest inductionHypothesis =>
      obtain ⟨sequence, event⟩ := event
      obtain ⟨stored, above, later⟩ := ascending
      obtain ⟨stripped, present, loaded⟩ := stored.load
      have fresh : previous.any (fun previous => sequence ≤ previous) =
          false := by
        cases previous with
        | none => rfl
        | some last => simpa using above last rfl
      have restLoaded := inductionHypothesis (some sequence) later
      unfold lines at restLoaded ⊢
      rw [List.map_cons, loadLines]
      simp only [stripped, present, loaded, stored.numbered, fresh, bind,
        Except.bind, restLoaded]
      rfl

theorem numberEvents_ascending
    (previous : Option Int)
    (events : List (Int × PyVal))
    (ascending : Ascending previous events) :
    numberEvents (events.map Prod.snd) = .ok events := by
  induction events generalizing previous with
  | nil =>
      rfl
  | cons event rest inductionHypothesis =>
      obtain ⟨sequence, event⟩ := event
      obtain ⟨stored, _, later⟩ := ascending
      have restNumbered := inductionHypothesis (some sequence) later
      simp only [List.map_cons, numberEvents, stored.numbered, restNumbered,
        bind, Except.bind]

/-- A line that is not JSON makes the whole log unreadable. -/
theorem loadLines_torn
    (previous : Option Int)
    (before : List (List CodePoint))
    {line : List CodePoint}
    {failure : PyErr}
    (nonempty : (strip line).isEmpty = false)
    (broken : loads ⟨strip line⟩ = .error failure) :
    ∃ failure, loadLines previous (before ++ [line]) = .error failure := by
  induction before generalizing previous with
  | nil =>
      refine ⟨failure, ?_⟩
      simp only [List.nil_append, loadLines, nonempty, broken, bind,
        Except.bind]
      rfl
  | cons first rest inductionHypothesis =>
      rw [List.cons_append, loadLines]
      split
      · exact inductionHypothesis previous
      · cases loads ⟨strip first⟩ with
        | error failure => exact ⟨failure, rfl⟩
        | ok event =>
            cases counted : eventSequence event with
            | error failure =>
                exact ⟨failure, by simp only [bind, Except.bind, counted]⟩
            | ok sequence =>
                simp only [bind, Except.bind, counted]
                split
                · exact ⟨_, rfl⟩
                · obtain ⟨failure, later⟩ := inductionHypothesis (some sequence)
                  exact ⟨failure, by simp only [later]⟩

end Loading

section Holding

/-- The number of the last event. -/
def lastNumber (events : List (Int × PyVal)) : Int :=
  (events.getLast?.map Prod.fst).getD 0

/-- A text that consists of the lines of some events. -/
structure Holds
    (content : List CodePoint)
    (events : List (Int × PyVal)) : Prop where
  encodable : Writable content
  ended : content = [] ∨ (∃ body, content = body ++ [newline]) ∨
    ∃ body, content = body ++ [point '}']
  whole : nonblank (segments content) = lines events
  ascending : Ascending none events

variable {content : List CodePoint} {events : List (Int × PyVal)}

theorem holds_empty :
    Holds [] [] where
  encodable := by simp [Writable]
  ended := Or.inl rfl
  whole := rfl
  ascending := trivial

/-- The events of whole lines are loaded, by either store. -/
theorem Holds.load
    (holds : Holds content events)
    (kind : Kind) :
    loadEvents kind (encodePoints content) = .ok (events.map Prod.snd) := by
  rw [loadEvents_eq, Utf8.decode_encodePoints holds.encodable]
  simp only [Except.bind, holds.whole]
  exact loadLines_ascending none events holds.ascending

theorem Holds.readState
    (holds : Holds content events)
    (kind : Kind) :
    EventLog.readState kind (encodePoints content) =
      .ok ⟨events, lastNumber events,
        needsSeparator (encodePoints content)⟩ := by
  have numbered := numberEvents_ascending none events holds.ascending
  simp only [EventLog.readState, holds.load kind, numbered, bind, Except.bind]
  rfl

/-- The text after which the next line is written. -/
def base (content : List CodePoint) : List CodePoint :=
  content ++
    if needsSeparator (encodePoints content) then [newline] else []

theorem encodePoints_base
    (content : List CodePoint) :
    encodePoints (base content) =
      encodePoints content ++
        separator (needsSeparator (encodePoints content)) := by
  have newlineBytes : encodePoints [newline] = [newlineByte] := by decide
  rw [base, Utf8.encodePoints_append, separator]
  split
  · rw [newlineBytes]
  · rfl

/-- Ending the last line does not change the events. -/
theorem Holds.newline
    (holds : Holds content events) :
    Holds (content ++ [EventLog.newline]) events where
  encodable := Utf8.writable_append.mpr
    ⟨holds.encodable, by simp [Writable]; decide⟩
  ended := Or.inr (Or.inl ⟨content, rfl⟩)
  whole := by
    rw [segments_append_newline, nonblank_append, nonblank_segments_nil,
      List.append_nil]
    exact holds.whole
  ascending := holds.ascending

theorem Holds.base
    (holds : Holds content events) :
    Holds (EventLog.base content) events := by
  unfold EventLog.base
  split
  · exact holds.newline
  · rw [List.append_nil]
    exact holds

/-- A line is only ever written at the beginning of a line. -/
theorem Holds.base_ready
    (holds : Holds content events) :
    EventLog.base content = [] ∨
      ∃ body, EventLog.base content = body ++ [EventLog.newline] := by
  unfold EventLog.base
  split
  · exact Or.inr ⟨content, rfl⟩
  · next separated =>
    rw [List.append_nil]
    rcases holds.ended with empty | line | ⟨body, rfl⟩
    · exact Or.inl empty
    · exact Or.inr line
    · exfalso
      apply separated
      have braceBytes : encodePoints [point '}'] = [Utf8.byte 0x7D] := by
        decide
      rw [Utf8.encodePoints_append, braceBytes, needsSeparator,
        List.getLast?_concat]
      decide

/-- What is written at the beginning of a line is the next line. -/
theorem Holds.segments_base
    (holds : Holds content events)
    (written : List CodePoint) :
    nonblank (segments (EventLog.base content ++ written)) =
      lines events ++ nonblank (segments written) := by
  have whole := holds.base.whole
  rcases holds.base_ready with empty | ⟨body, same⟩
  · rw [empty] at whole ⊢
    rw [← whole]
    rfl
  · rw [same, segments_append_newline, nonblank_append, nonblank_segments_nil,
      List.append_nil] at whole
    rw [same, List.append_assoc, List.singleton_append,
      segments_append_newline, nonblank_append, whole]

/-- No event of an ascending list has a number above the last one. -/
theorem Ascending.le_last
    {previous : Option Int}
    (ascending : Ascending previous events)
    {entry : Int × PyVal}
    (member : entry ∈ events) :
    entry.1 ≤ lastNumber events := by
  induction events generalizing previous entry with
  | nil =>
      cases member
  | cons first rest inductionHypothesis =>
      obtain ⟨_, _, later⟩ := ascending
      cases rest with
      | nil =>
          obtain rfl := List.mem_singleton.mp member
          exact le_refl _
      | cons second others =>
          have sameLast : lastNumber (first :: second :: others) =
              lastNumber (second :: others) := by
            simp [lastNumber]
          rw [sameLast]
          rcases List.mem_cons.mp member with rfl | inRest
          · have below := later.2.1 _ rfl
            have secondLast := inductionHypothesis later List.mem_cons_self
            exact le_trans (le_of_lt below) secondLast
          · exact inductionHypothesis later inRest

theorem Ascending.stored
    {previous : Option Int}
    (ascending : Ascending previous events)
    {entry : Int × PyVal}
    (member : entry ∈ events) :
    Stored entry.1 entry.2 := by
  induction events generalizing previous with
  | nil =>
      cases member
  | cons first rest inductionHypothesis =>
      obtain ⟨stored, _, later⟩ := ascending
      rcases List.mem_cons.mp member with rfl | member
      · exact stored
      · exact inductionHypothesis later member

/-- An event with a new number goes to the end. -/
theorem Ascending.append
    {previous : Option Int}
    {sequence : Int}
    {event : PyVal}
    (ascending : Ascending previous events)
    (stored : Stored sequence event)
    (abovePrevious : ∀ last, previous = some last → last < sequence)
    (above : ∀ entry ∈ events, entry.1 < sequence) :
    Ascending previous (events ++ [(sequence, event)]) := by
  induction events generalizing previous with
  | nil =>
      exact ⟨stored, abovePrevious, trivial⟩
  | cons first rest inductionHypothesis =>
      obtain ⟨firstStored, firstAbove, later⟩ := ascending
      refine ⟨firstStored, firstAbove, inductionHypothesis later ?_ ?_⟩
      · intro last same
        cases same
        exact above first List.mem_cons_self
      · intro entry member
        exact above entry (List.mem_cons_of_mem _ member)

@[simp] theorem lastNumber_append
    (event : Int × PyVal) :
    lastNumber (events ++ [event]) = event.1 := by
  simp [lastNumber]

theorem nonblank_segments_text
    {sequence : Int}
    {event : PyVal}
    (stored : Stored sequence event) :
    nonblank (segments (text event)) = [text event] := by
  rw [segments_of_printable (Json.printable_text event), nonblank]
  simp [stored.load.2.1]

/-- The text of a new event behind whole lines. -/
theorem Holds.line
    {sequence : Int}
    {event : PyVal}
    (holds : Holds content events)
    (stored : Stored sequence event)
    (above : lastNumber events < sequence) :
    Holds (EventLog.base content ++ text event)
      (events ++ [(sequence, event)]) where
  encodable := Utf8.writable_append.mpr
    ⟨holds.base.encodable, stored.encodable⟩
  ended := by
    obtain ⟨entries, rfl⟩ := stored.isDict
    obtain ⟨body, shape⟩ := Json.text_dict_shape entries
    refine Or.inr (Or.inr ⟨EventLog.base content ++ point '{' :: body, ?_⟩)
    rw [shape, List.append_assoc, List.cons_append]
  whole := by
    rw [holds.segments_base, nonblank_segments_text stored]
    simp [lines]
  ascending := holds.ascending.append stored (by simp) fun entry member =>
    lt_of_le_of_lt (holds.ascending.le_last member) above

/-- The beginning of the text of an event is not an event. -/
theorem Stored.fragment
    {sequence : Int}
    {event : PyVal}
    {read missing : List CodePoint}
    (stored : Stored sequence event)
    (whole : text event = read ++ missing)
    (readNonempty : read ≠ [])
    (torn : missing ≠ []) :
    (strip read).isEmpty = false ∧
      loads ⟨strip read⟩ = .error .valueError := by
  obtain ⟨entries, rfl⟩ := stored.isDict
  obtain ⟨body, shape⟩ := Json.text_dict_shape entries
  obtain ⟨rest, rfl⟩ : ∃ rest, read = point '{' :: rest := by
    cases read with
    | nil => exact absurd rfl readNonempty
    | cons first rest =>
        rw [shape, List.cons_append] at whole
        exact ⟨rest, by rw [(List.cons.inj whole).1]⟩
  have front : strip (point '{' :: rest) =
      (point '{' :: rest).rdropWhile isWhitespace := by
    rw [strip, List.dropWhile_cons_of_neg (by decide)]
  have stripped : (strip (point '{' :: rest)).isEmpty = false := by
    rw [front, List.isEmpty_eq_false_iff]
    intro blank
    have brace := List.rdropWhile_eq_nil_iff.mp blank (point '{') (by simp)
    exact absurd brace (by decide)
  refine ⟨stripped, ?_⟩
  have kept : strip (point '{' :: rest) <+: point '{' :: rest := by
    rw [front]
    exact List.rdropWhile_prefix _ _
  obtain ⟨blanks, split⟩ := kept
  apply Json.loads_fragment stored.distinct stored.limit
  · rw [whole, ← List.append_assoc, split]
  · simp [torn]

/-- A file that ends inside the text of an event is not loaded. -/
theorem Holds.torn
    {sequence : Int}
    {event : PyVal}
    {fragment : List Byte}
    (holds : Holds content events)
    (stored : Stored sequence event)
    (isPrefix : fragment <+: encodePoints (text event))
    (nonempty : fragment ≠ [])
    (proper : fragment ≠ encodePoints (text event))
    (kind : Kind) :
    ∃ failure, loadEvents kind
      (encodePoints (EventLog.base content) ++ fragment) = .error failure := by
  rw [loadEvents_eq, decode,
    Utf8.decodeFrom_encodePoints_append holds.base.encodable]
  cases decoded : decodeFrom .boundary fragment with
  | none =>
      exact ⟨_, rfl⟩
  | some read =>
      obtain ⟨missing, whole, encoded⟩ := Utf8.prefix_of_decodeFrom_prefix
        stored.encodable isPrefix decoded
      have readNonempty : read ≠ [] := by
        rintro rfl
        exact nonempty encoded.symm
      have missingNonempty : missing ≠ [] := by
        rintro rfl
        apply proper
        rw [whole, List.append_nil, encoded]
      have visible : Json.Printable read := fun char member =>
        Json.printable_text event char (by rw [whole]; simp [member])
      obtain ⟨stripped, broken⟩ :=
        stored.fragment whole readNonempty missingNonempty
      have line : nonblank (segments read) = [read] := by
        rw [segments_of_printable visible, nonblank]
        simp [readNonempty]
      simp only [Option.map_some, Except.bind, holds.segments_base, line]
      exact loadLines_torn none (lines events) stripped broken

end Holding

end Maze.Core.EventLog
