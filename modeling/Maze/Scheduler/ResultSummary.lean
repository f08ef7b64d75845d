import Maze.Library.Dict
import Maze.Python.Json
import Maze.Python.JsonEncoder
import Maze.Python.Text

namespace Maze.Scheduler.ResultSummary

open Maze.Library
open Maze.Python
open Maze.Python.Encoder (Outcome)

/-!
# Result summaries

`to_json_safe` of `result_summary.py`, which a value passes before it leaves the
scheduler in an event, a snapshot or a response. What `json.dumps` writes is
returned as it is. The rest is taken apart to a depth of six containers, at most
a hundred items of each, and what JSON does not have is replaced by a summary.
`persist_large` is off, as it is where nothing is said.
-/

/-- The exceptions that `_summarize_special_value` tells apart. -/
inductive Raised where
  | typeError
  | other
  deriving DecidableEq

/--
What the interpreter answers about an object. Where an answer is an `Option`, `none` is an
exception; an attribute that is missing, or is `None`, is `PyObj.none`.
-/
structure Interpreter where
  /-- `f"{type(value).__module__}.{type(value).__name__}"` -/
  typeName : PyObj → PyStr
  /-- `type(value).__name__` -/
  className : PyObj → PyStr
  repr : PyObj → Option PyStr
  /-- `str(value)` of what is neither a string, a number, a truth value nor `None`. -/
  text : PyObj → Option PyStr
  /-- `getattr(value, name, None)` -/
  getAttr : PyObj → PyStr → Option PyObj
  /-- `list(value)` -/
  items : PyObj → Except Raised (List PyObj)
  /-- `len(value)` -/
  length : PyObj → Option Size
  /-- Whether `bytes(value)` returns. -/
  readable : PyObj → Bool

/-- `str(value)` of a float. -/
def floatText : PyFloat → PyStr
  | .nan => "nan"
  | .infinity false => "inf"
  | .infinity true => "-inf"
  | number => ⟨Json.floatText number⟩

/-- `str(value)` -/
def Interpreter.str (interpreter : Interpreter) : PyObj → Option PyStr
  | .none => some "None"
  | .bool true => some "True"
  | .bool false => some "False"
  | .int number =>
      if Encoder.integer number = .written then some ⟨Json.intText number⟩ else none
  | .float number => some (floatText number)
  | .str text => some text
  | value => interpreter.text value

/-- `SUMMARY_MARKER` -/
def summaryMarker : PyStr := "__maze_summary__"

/-- A `dict` whose keys are strings. -/
def record (fields : List (PyStr × PyObj)) : PyObj :=
  .dict (fields.map fun field => (.str field.1, field.2))

variable (interpreter : Interpreter)

/-- `_safe_repr` -/
def safeRepr (value : PyObj) : PyStr :=
  let rendered := (interpreter.repr value).getD
    (PyStr.ofString "<unrepresentable " ++ interpreter.className value ++ PyStr.ofString ">")
  if 200 < rendered.chars.length then
    ⟨rendered.chars.take 197⟩ ++ PyStr.ofString "..."
  else
    rendered

/-- The shape of an array, or of anything that has one. -/
def shapeField (value : PyObj) : Option (List (PyStr × PyObj)) :=
  match interpreter.getAttr value "shape" with
  | none => none
  | some .none => some []
  | some shape =>
      match interpreter.items shape with
      | .ok sizes => some [(PyStr.ofString "shape", .list sizes)]
      | .error .typeError => some [(PyStr.ofString "shape", .str (safeRepr interpreter shape))]
      | .error .other => none

def dtypeField (value : PyObj) : Option (List (PyStr × PyObj)) :=
  match interpreter.getAttr value "dtype" with
  | none => none
  | some .none => some []
  | some dtype => (interpreter.str dtype).map fun text => [(PyStr.ofString "dtype", .str text)]

/-- `[str(column) for column in list(columns)[:20]]` -/
def columnTexts (columns : PyObj) : Option (List PyStr) :=
  match interpreter.items columns with
  | .ok items => (items.take 20).mapM interpreter.str
  | .error _ => none

def columnsField (value : PyObj) : Option (List (PyStr × PyObj)) :=
  match interpreter.getAttr value "columns" with
  | none => none
  | some .none => some []
  | some columns =>
      match columnTexts interpreter columns with
      | some texts => some [(PyStr.ofString "columns", .list (texts.map .str))]
      | none => some [(PyStr.ofString "columns", .str (safeRepr interpreter columns))]

def lengthField (value : PyObj) : List (PyStr × PyObj) :=
  match interpreter.length value with
  | some length => [(PyStr.ofString "length", .int length)]
  | none => []

/-- `_summarize_special_value` -/
def summarizeSpecialValue (value : PyObj) : Option PyObj := do
  let shape ← shapeField interpreter value
  let dtype ← dtypeField interpreter value
  let columns ← columnsField interpreter value
  return record
    ([(summaryMarker, .bool true),
      (PyStr.ofString "type", .str (interpreter.typeName value)),
      (PyStr.ofString "repr", .str (safeRepr interpreter value)),
      (PyStr.ofString "persistence", .str "metadata_only"),
      (PyStr.ofString "inline", .bool true)] ++
      shape ++ dtype ++ columns ++ lengthField interpreter value)

section Parts

variable (inside : PyObj → Option PyObj)

/-- `str(key): to_json_safe(item)` -/
def summarizeEntry (entry : PyObj × PyObj) : Option (PyStr × PyObj) := do
  let name ← interpreter.str entry.1
  let item ← inside entry.2
  return (name, item)

/-- `{str(key): to_json_safe(item) for key, item in entries}` -/
def summarizeEntries (entries : List (PyObj × PyObj)) : Option PyObj := do
  let fields ← entries.mapM (summarizeEntry interpreter inside)
  return record (Dict.ofEntries fields)

/-- What replaces a value that JSON does not have, where its parts may be looked into. -/
def summarizeParts : PyObj → Option PyObj
  | .dict entries => summarizeEntries interpreter inside (entries.take 100)
  | .mapping _ entries complete =>
      -- The iteration goes on after the last entry unless a hundred have been taken.
      if complete || 100 ≤ entries.length then
        summarizeEntries interpreter inside (entries.take 100)
      else
        none
  | .tuple items | .list items => do
      let summarized ← (items.take 100).mapM inside
      return .list summarized
  | .set length items => do
      let sample ← ((List.ofFn items).take 10).mapM inside
      return record
        [(summaryMarker, .bool true),
          (PyStr.ofString "type", .str (interpreter.typeName (.set length items))),
          (PyStr.ofString "length", .int length),
          (PyStr.ofString "sample", .list sample)]
  | .buffer identity =>
      if interpreter.readable (.buffer identity) then do
        let length ← interpreter.length (.buffer identity)
        return record
          [(summaryMarker, .bool true),
            (PyStr.ofString "type", .str (interpreter.typeName (.buffer identity))),
            (PyStr.ofString "length", .int length),
            (PyStr.ofString "repr", .str (safeRepr interpreter (.buffer identity)))]
      else
        none
  | value => summarizeSpecialValue interpreter value

end Parts

/-- What `json.dumps` writes is passed on; a `RecursionError` is not caught. -/
def passOn
    (encoded : Outcome)
    (value : PyObj)
    (summarized : Option PyObj) :
    Option PyObj :=
  match encoded with
  | .written => some value
  | .refused => summarized
  | .tooDeep => none

/--
`to_json_safe(value)` with `max_depth - _depth` levels remaining; `rooms` says how many
containers `json.dumps` gets through when it is called from each level.
-/
def toJsonSafe (rooms : Nat → Nat) : Nat → PyObj → Option PyObj
  | 0, value =>
      passOn (Encoder.dumps false (rooms 0) value) value
        (summarizeSpecialValue interpreter value)
  | remaining + 1, value =>
      passOn (Encoder.dumps false (rooms (remaining + 1)) value) value
        (summarizeParts interpreter (toJsonSafe rooms remaining) value)

end Maze.Scheduler.ResultSummary
