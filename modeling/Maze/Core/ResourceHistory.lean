import Maze.Core.Resources
import Maze.Python.JsonReader
import Maze.Python.Utf8

namespace Maze.Core

open Maze.Python

/-!
# The resource history

`ResourceHistoryStore.load` reads `resource_history.json`, which may hold any
bytes, and `lookup` takes the profile of a context from it. Nothing is assumed
of the profile; what the code converts is converted here.
-/

namespace ResourceHistory

/-- `resource_history.json`. -/
inductive HistoryFile where
  | absent
  | unreadable
  | content (bytes : List Utf8.Byte)

/-- `SCHEMA_VERSION`. -/
def schemaVersion : Int := 3

/-- The entries that `load` adds where they are missing. -/
def defaults : PyDict :=
  [("models", .dict []), ("tasks", .dict []), ("recent_observations", .list []),
    ("profiles", .dict []), ("observation_ids", .list [])]

/-- `_empty`, without its time. -/
def empty : PyDict :=
  [("schema", .str "maze_resource_history"),
    ("schema_version", .int schemaVersion), ("models", .dict []),
    ("tasks", .dict []), ("recent_observations", .list []),
    ("profiles", .dict []), ("observation_ids", .list [])]

/-- What `load` makes of the parsed document. -/
def checkDocument : PyVal → Except PyErr PyDict
  | .dict data => do
      let version ← Number.int
        ((PyDict.get? data "schema_version").getD (.int 1))
      if schemaVersion < version then
        .error .valueError
      else
        .ok (defaults.foldl
          (fun data entry => PyDict.setDefault data entry.1 entry.2)
          (PyDict.set data "schema_version" (.int schemaVersion)))
  | _ => .error .valueError

/-- `ResourceHistoryStore.load`. -/
def load : HistoryFile → Except PyErr PyDict
  | .absent => .ok empty
  | .unreadable => .error .osError
  | .content bytes => do
      let text ← Utf8.decode bytes
      let document ← Json.loads ⟨text⟩
      checkDocument document

/-- What an element of a sequence contributes to `dict(sequence)`. -/
def pairOf : PyVal → Except PyErr (PyVal × PyVal)
  | .list [key, value] => .ok (key, value)
  | .list _ => .error .valueError
  | .str ⟨[key, value]⟩ => .ok (.str ⟨[key]⟩, .str ⟨[value]⟩)
  | .str _ => .error .valueError
  | .dict [(key, _), (value, _)] => .ok (.str key, .str value)
  | .dict _ => .error .valueError
  | .null | .bool _ | .int _ | .float _ => .error .typeError

/-- `dict(value)`; a key that is no string is never looked up and left out. -/
def dictOf : PyVal → Except PyErr PyDict
  | .dict entries => .ok entries
  | .str text => if text.isEmpty then .ok [] else .error .valueError
  | .list items =>
      items.foldlM
        (fun data item => do
          let (key, value) ← pairOf item
          match key with
          | .str key => .ok (data.set key value)
          | .list _ | .dict _ => .error .typeError
          | _ => .ok data)
        []
  | .null | .bool _ | .int _ | .float _ => .error .typeError

/-- `ResourceContext`. -/
structure ResourceContext where
  scope : PyStr
  identity : PyStr
  backend : PyStr
  dtype : PyStr
  features : List (PyStr × Nat)

namespace ResourceContext

/-- `to_dict`. -/
def toDict (context : ResourceContext) : PyVal :=
  .dict
    [("scope", .str context.scope), ("identity", .str context.identity),
      ("backend", .str context.backend), ("dtype", .str context.dtype),
      ("features", .list (context.features.map fun feature =>
        .list [.str feature.1, .int feature.2]))]

/-- `key`; `fingerprint` is the digest of a JSON value. -/
def key
    (fingerprint : PyVal → PyStr)
    (context : ResourceContext) :
    PyStr :=
  fingerprint context.toDict

end ResourceContext

/-- `int(data.get(key, 0))`. -/
def intEntry
    (data : PyDict)
    (key : PyStr) :
    Except PyErr Int :=
  Number.int ((data.get? key).getD (.int 0))

/-- Join a profile with the one of the same model without its features. -/
def joinBase
    (profile base : PyDict) :
    Except PyErr PyDict := do
  let peak ← intEntry profile "success_peak_bytes"
  let basePeak ← intEntry base "success_peak_bytes"
  let lowerBound ← intEntry profile "oom_lower_bound_mib"
  let baseLowerBound ← intEntry base "oom_lower_bound_mib"
  let samples ← intEntry profile "success_samples"
  let baseSamples ← intEntry base "success_samples"
  .ok (((profile.set "success_peak_bytes" (.int (max peak basePeak))).set
    "oom_lower_bound_mib" (.int (max lowerBound baseLowerBound))).set
      "success_samples" (.int (samples + baseSamples)))

/-- `ResourceHistoryStore.lookup`. -/
def lookup
    (fingerprint : PyVal → PyStr)
    (file : HistoryFile)
    (context : ResourceContext) :
    Except PyErr PyDict := do
  let data ← load file
  match data.get "profiles" with
  | .dict profiles => do
      let profile ← dictOf
        ((PyDict.get? profiles (context.key fingerprint)).getD (.dict []))
      if context.scope = PyStr.ofString "model_instance" ∧
          context.features ≠ [] then
        let base := { context with features := [] }.key fingerprint
        match (PyDict.get? profiles base).getD (PyVal.dict []) with
        | .dict base => joinBase profile base
        | _ => .error .attributeError
      else
        .ok profile
  | _ => .error .attributeError

end ResourceHistory

end Maze.Core
