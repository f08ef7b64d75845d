import Mathlib.Data.List.DropRight
import Maze.Python.JsonRoundTrip
import Maze.Python.Utf8

namespace Maze.Core

open Maze.Python
open Maze.Python.Utf8 (Byte encodePoints decode)
open Maze.Python.Json (point dumps loads sortKeys)

/-!
# The event log of a run

A run keeps its events in a file of JSON lines. `append_event_once` loads the
file unless it is cached, compares an event that is already there, and writes a
new one as one line: a newline first where the file does not end with one, the
text, a newline. The static and the dynamic store share this behaviour and
differ in the checks of their loader.

A write may fail after any number of its bytes have reached the file.
-/

namespace EventLog

/-- The bytes of a log file; a file that does not exist has none. -/
abbrev File := List Byte

/-- The end of a line. -/
def newline : CodePoint := Fin.ofNat 0x110000 0x0A

/-- The byte that ends a line. -/
def newlineByte : Byte := Utf8.byte 0x0A

/-- What `open` in text mode takes for the end of a line. -/
def endsLine (char : CodePoint) : Bool :=
  char.val = 0x0A || char.val = 0x0D

/-- The lines of a text. -/
def segments : List CodePoint → List (List CodePoint)
  | [] => [[]]
  | char :: rest =>
      if endsLine char then
        [] :: segments rest
      else
        match segments rest with
        | [] => [[char]]
        | first :: others => (char :: first) :: others

/-- `str.isspace` of one character. -/
def isWhitespace (char : CodePoint) : Bool :=
  (0x09 ≤ char.val && char.val ≤ 0x0D) ||
    (0x1C ≤ char.val && char.val ≤ 0x20) ||
    char.val = 0x85 || char.val = 0xA0 || char.val = 0x1680 ||
    (0x2000 ≤ char.val && char.val ≤ 0x200A) ||
    char.val = 0x2028 || char.val = 0x2029 || char.val = 0x202F ||
    char.val = 0x205F || char.val = 0x3000

/-- `line.strip()`. -/
def strip (line : List CodePoint) : List CodePoint :=
  (line.dropWhile isWhitespace).rdropWhile isWhitespace

/-- `_event_sequence`: the sequence number must be a positive integer. -/
def eventSequence (event : PyVal) : Except PyErr Int :=
  match event.get "seq" with
  | .error failure => .error failure
  | .ok (.int sequence) =>
      if 0 < sequence then .ok sequence else .error .valueError
  | .ok _ => .error .valueError

/-- The loop of the static `load_events` over the lines of the file. -/
def loadLines :
    Option Int → List (List CodePoint) → Except PyErr (List PyVal)
  | _, [] => .ok []
  | previous, line :: rest =>
      let line := strip line
      if line.isEmpty then
        loadLines previous rest
      else do
        let event ← loads ⟨line⟩
        let sequence ← eventSequence event
        if previous.any fun previous => sequence ≤ previous then
          .error .valueError
        else
          let later ← loadLines (some sequence) rest
          .ok (event :: later)

/-- The loop of `_load_events_path`, which also remembers what it has seen. -/
def loadLinesSeen :
    List Int → Option Int → List (List CodePoint) →
      Except PyErr (List PyVal)
  | _, _, [] => .ok []
  | seen, previous, line :: rest =>
      let line := strip line
      if line.isEmpty then
        loadLinesSeen seen previous rest
      else do
        let event ← loads ⟨line⟩
        let sequence ← eventSequence event
        if sequence ∈ seen then
          .error .valueError
        else if previous.any fun previous => sequence ≤ previous then
          .error .valueError
        else
          let later ← loadLinesSeen (sequence :: seen) (some sequence) rest
          .ok (event :: later)

/-- The store that a log belongs to. -/
inductive Kind where
  | static
  | dynamic
  deriving DecidableEq

/-- `StaticRunStore.load_events` and `DynamicRunStore._load_events_path`. -/
def loadEvents
    (kind : Kind)
    (file : File) :
    Except PyErr (List PyVal) := do
  let text ← decode file
  match kind with
  | .static => loadLines none (segments text)
  | .dynamic => loadLinesSeen [] none (segments text)

/-- `_event_log_needs_separator`. -/
def needsSeparator (file : File) : Bool :=
  match file.getLast? with
  | none => false
  | some last => last ≠ newlineByte

/-- `_EventLogState`: what the store remembers of a log. -/
structure LogState where
  events : List (Int × PyVal)
  lastSequence : Int
  needsSeparator : Bool
  deriving DecidableEq

/-- A log file with the state that the store has cached for it. -/
structure Log where
  file : File
  cache : Option LogState
  deriving DecidableEq

/-- Number the events that a file holds. -/
def numberEvents : List PyVal → Except PyErr (List (Int × PyVal))
  | [] => .ok []
  | event :: rest => do
      let sequence ← eventSequence event
      let later ← numberEvents rest
      .ok ((sequence, event) :: later)

/-- The state that a file determines. -/
def readState
    (kind : Kind)
    (file : File) :
    Except PyErr LogState := do
  let events ← loadEvents kind file
  let numbered ← numberEvents events
  let last := numbered.getLast?.map Prod.fst
  .ok ⟨numbered, last.getD 0, needsSeparator file⟩

/-- `_event_log_state`. -/
def logState
    (kind : Kind)
    (log : Log) :
    Except PyErr LogState :=
  match log.cache with
  | some state => .ok state
  | none => readState kind log.file

/-- `_event_payload_json(event, ignore_timestamp=True)`. -/
def eventPayloadJson (event : PyVal) : Except PyErr PyStr :=
  match event with
  | .dict entries =>
      dumps (.dict (entries.filter fun entry => entry.1 ≠ "timestamp"))
  | _ => .error .attributeError

@[simp] theorem eventPayloadJson_dict
    (entries : PyDict) :
    eventPayloadJson (.dict entries) =
      dumps (.dict (entries.filter fun entry => entry.1 ≠ "timestamp")) := rfl

/-- `_events_match`. -/
def eventsMatch (persisted event : PyVal) : Except PyErr Bool := do
  let persistedJson ← eventPayloadJson persisted
  let eventJson ← eventPayloadJson event
  .ok (persistedJson = eventJson)

/-- How a write ends: it fails after some of its bytes, or it completes. -/
inductive Write where
  | completes
  | fails (written : Nat)
  deriving DecidableEq

/-- The bytes that come before a line. -/
def separator (needed : Bool) : File :=
  if needed then [newlineByte] else []

/-- Write a line; a text that UTF-8 cannot encode leaves the separator behind. -/
def writeLine
    (file : File)
    (separated : Bool)
    (serialized : PyStr)
    (write : Write) :
    File × Except PyErr Unit :=
  match Utf8.encode serialized with
  | .error failure => (file ++ separator separated, .error failure)
  | .ok line =>
      let bytes := separator separated ++ line ++ [newlineByte]
      match write with
      | .completes => (file ++ bytes, .ok ())
      | .fails written => (file ++ bytes.take written, .error .osError)

/-- `{"schema_version": SCHEMA_VERSION, **event}`. -/
def payload (event : PyDict) : PyDict :=
  PyDict.update [("schema_version", .int 1)] event

/-- `json.loads(serialized)` and the state after a write that completed. -/
def remember
    (state : LogState)
    (serialized : PyStr) :
    Except PyErr LogState := do
  let stored ← loads serialized
  let sequence ← eventSequence stored
  .ok ⟨state.events ++ [(sequence, stored)], sequence, false⟩

/--
`append_event_once` of the static store, and `_append_event_path` of the dynamic
store for the canonical log. Whatever is raised drops the cached state.
-/
def appendEventOnce
    (kind : Kind)
    (log : Log)
    (event : PyDict)
    (write : Write) :
    Log × Except PyErr Unit :=
  let event := payload event
  match eventSequence (.dict event) with
  | .error failure => (log, .error failure)
  | .ok sequence =>
      match logState kind log with
      | .error failure => (⟨log.file, none⟩, .error failure)
      | .ok state =>
          match state.events.lookup sequence with
          | some persisted =>
              match eventsMatch persisted (.dict event) with
              | .error failure => (⟨log.file, none⟩, .error failure)
              | .ok false => (⟨log.file, none⟩, .error .runtimeError)
              | .ok true => (⟨log.file, some state⟩, .ok ())
          | none =>
              if sequence ≤ state.lastSequence then
                (⟨log.file, none⟩, .error .valueError)
              else
                match dumps (.dict event) with
                | .error failure => (⟨log.file, none⟩, .error failure)
                | .ok serialized =>
                    match writeLine log.file state.needsSeparator
                        serialized write with
                    | (file, .error failure) => (⟨file, none⟩, .error failure)
                    | (file, .ok ()) =>
                        match remember state serialized with
                        | .error failure => (⟨file, none⟩, .error failure)
                        | .ok state => (⟨file, some state⟩, .ok ())

/-- A log that nothing has been written to. -/
def empty : Log :=
  ⟨[], none⟩

end EventLog

end Maze.Core
