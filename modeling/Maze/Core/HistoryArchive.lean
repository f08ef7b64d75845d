import Maze.Core.HistoryAdmission
import Maze.Python.JsonIndent

namespace Maze.Core.HistoryArchive

open Maze.Core.Resources
open Maze.Core.ResourceHistory
  (HistoryFile ResourceContext RecordCall Profile load notePeak noteLowerBound peakGpuBytes
    maxProfiles maxObservationIds)
open Maze.Library
open Maze.Python
open Maze.Python.Json (sortKeys sortMember KeyLE)

/-!
# The whole resource history

`ResourceHistoryStore.record` reads the file, brings the records of the task, of its model
and of its context up to date, notes the observation and its id, gives up what has become
too much, and writes the file again. The file is JSON with sorted keys.
-/

/-! ## What the file keeps -/

/-- `MAX_RECENT`: the observations that are kept whole. -/
def maxRecent : ℕ := 100

/-- An entry of `profiles`; a time is a `float` that is not negative. -/
structure ProfileEntry where
  context : PyVal
  successSamples : ℕ
  successPeakBytes : ℕ
  oomLowerBoundMib : ℕ
  lastObservedTime : Decimal

/-- An entry of `tasks` or of `models`. -/
structure Aggregate where
  key : PyStr
  runs : ℕ
  successes : ℕ
  failures : ℕ
  peakGpuMemoryBytes : ℕ
  lastStatus : PyStr
  lastErrorType : PyVal
  lastObservedTime : Decimal

/-- The containers of `resource_history.json`. -/
structure Archive where
  models : List (PyStr × Aggregate)
  tasks : List (PyStr × Aggregate)
  recentObservations : List PyVal
  profiles : List (PyStr × ProfileEntry)
  observationIds : List PyStr

/-- `_empty`. -/
def Archive.empty : Archive := ⟨[], [], [], [], []⟩

/-! ## As a document -/

def timeValue (time : Decimal) : PyVal := .float (.finite false time)

def ProfileEntry.fields (entry : ProfileEntry) : PyDict :=
  [("context", entry.context), ("success_samples", .int entry.successSamples),
    ("success_peak_bytes", .int entry.successPeakBytes),
    ("oom_lower_bound_mib", .int entry.oomLowerBoundMib),
    ("last_observed_time", timeValue entry.lastObservedTime)]

def Aggregate.fields (record : Aggregate) : PyDict :=
  [("key", .str record.key), ("runs", .int record.runs), ("successes", .int record.successes),
    ("failures", .int record.failures),
    ("peak_gpu_memory_bytes", .int record.peakGpuMemoryBytes),
    ("last_status", .str record.lastStatus), ("last_error_type", record.lastErrorType),
    ("last_observed_time", timeValue record.lastObservedTime)]

/-- A container of records, as an object. -/
def objectOf
    {Record : Type}
    (fields : Record → PyDict)
    (records : List (PyStr × Record)) :
    PyVal :=
  .dict (records.map fun record => (record.1, .dict (fields record.2)))

/-- What `_save` writes. -/
def Archive.document
    (archive : Archive)
    (updatedTime : Decimal) :
    PyDict :=
  [("schema", .str "maze_resource_history"), ("schema_version", .int ResourceHistory.schemaVersion),
    ("updated_time", timeValue updatedTime), ("models", objectOf Aggregate.fields archive.models),
    ("tasks", objectOf Aggregate.fields archive.tasks),
    ("recent_observations", .list archive.recentObservations),
    ("profiles", objectOf ProfileEntry.fields archive.profiles),
    ("observation_ids", .list (archive.observationIds.map .str))]

/-- Whether `json.dump` can write a value that `to_json_safe` leaves as it is. -/
def storable (value : PyVal) : Bool :=
  value.keysDistinct && Json.withinDigitLimit value && Json.stringsEncodable value

/-- `_save`. -/
def Archive.save
    (archive : Archive)
    (updatedTime : Decimal) :
    Except PyErr HistoryFile :=
  if storable (.dict (archive.document updatedTime)) then
    .ok (.content (Utf8.encodePoints (Json.fileText (.dict (archive.document updatedTime)))))
  else
    .error .valueError

/-! ## From a document -/

def natEntry
    (fields : PyDict)
    (key : PyStr) :
    Option ℕ :=
  match fields.get? key with
  | some (.int number) => if 0 ≤ number then some number.toNat else none
  | _ => none

def strEntry
    (fields : PyDict)
    (key : PyStr) :
    Option PyStr :=
  match fields.get? key with
  | some (.str text) => some text
  | _ => none

def timeEntry (fields : PyDict) : Option Decimal :=
  match fields.get? "last_observed_time" with
  | some (.float (.finite false time)) => some time
  | _ => none

def ProfileEntry.ofFields (fields : PyDict) : Option ProfileEntry := do
  let context ← fields.get? "context"
  let successSamples ← natEntry fields "success_samples"
  let successPeakBytes ← natEntry fields "success_peak_bytes"
  let oomLowerBoundMib ← natEntry fields "oom_lower_bound_mib"
  let lastObservedTime ← timeEntry fields
  some ⟨context, successSamples, successPeakBytes, oomLowerBoundMib, lastObservedTime⟩

def Aggregate.ofFields (fields : PyDict) : Option Aggregate := do
  let key ← strEntry fields "key"
  let runs ← natEntry fields "runs"
  let successes ← natEntry fields "successes"
  let failures ← natEntry fields "failures"
  let peakGpuMemoryBytes ← natEntry fields "peak_gpu_memory_bytes"
  let lastStatus ← strEntry fields "last_status"
  let lastErrorType ← fields.get? "last_error_type"
  let lastObservedTime ← timeEntry fields
  some ⟨key, runs, successes, failures, peakGpuMemoryBytes, lastStatus, lastErrorType,
    lastObservedTime⟩

/-- The records of a container. -/
def recordsOf
    {Record : Type}
    (ofFields : PyDict → Option Record) :
    PyVal → Option (List (PyStr × Record))
  | .dict entries => entries.mapM fun entry =>
      match entry.2 with
      | .dict fields => (ofFields fields).map fun record => (entry.1, record)
      | _ => none
  | _ => none

def textOf : PyVal → Option PyStr
  | .str text => some text
  | _ => none

def itemsOf : PyVal → Option (List PyVal)
  | .list items => some items
  | _ => none

def Archive.ofDocument (data : PyDict) : Option Archive := do
  let models ← recordsOf Aggregate.ofFields (data.get "models")
  let tasks ← recordsOf Aggregate.ofFields (data.get "tasks")
  let recentObservations ← itemsOf (data.get "recent_observations")
  let profiles ← recordsOf ProfileEntry.ofFields (data.get "profiles")
  let ids ← itemsOf (data.get "observation_ids")
  let observationIds ← ids.mapM textOf
  some ⟨models, tasks, recentObservations, profiles, observationIds⟩

/-- The history in a file that has the containers as `record` writes them. -/
def read (file : HistoryFile) : Except PyErr Archive := do
  let data ← load file
  match Archive.ofDocument data with
  | some archive => .ok archive
  | none => .error .typeError

/-! ## Saving and loading -/

/-- Records in the order in which a file has them. -/
def byKey
    {Record : Type}
    (records : List (PyStr × Record)) :
    List (PyStr × Record) :=
  records.insertionSort fun first second => first.1.chars ≤ second.1.chars

def ProfileEntry.sorted (entry : ProfileEntry) : ProfileEntry :=
  { entry with context := sortKeys entry.context }

def Aggregate.sorted (record : Aggregate) : Aggregate :=
  { record with lastErrorType := sortKeys record.lastErrorType }

/-- The history with all keys sorted. -/
def Archive.sorted (archive : Archive) : Archive where
  models := (byKey archive.models).map (Prod.map id Aggregate.sorted)
  tasks := (byKey archive.tasks).map (Prod.map id Aggregate.sorted)
  recentObservations := Json.sortItems archive.recentObservations
  profiles := (byKey archive.profiles).map (Prod.map id ProfileEntry.sorted)
  observationIds := archive.observationIds

theorem ProfileEntry.ofFields_sorted (entry : ProfileEntry) :
    ProfileEntry.ofFields ((entry.fields.map sortMember).insertionSort KeyLE) =
      some entry.sorted := by
  have distinct : (entry.fields.map Prod.fst).Nodup := by simp [ProfileEntry.fields]
  simp only [ProfileEntry.ofFields, natEntry, timeEntry, Json.get?_sorted distinct]
  simp [ProfileEntry.fields, ProfileEntry.sorted, timeValue, sortKeys]

theorem Aggregate.ofFields_sorted (record : Aggregate) :
    Aggregate.ofFields ((record.fields.map sortMember).insertionSort KeyLE) =
      some record.sorted := by
  have distinct : (record.fields.map Prod.fst).Nodup := by simp [Aggregate.fields]
  simp only [Aggregate.ofFields, natEntry, strEntry, timeEntry, Json.get?_sorted distinct]
  simp [Aggregate.fields, Aggregate.sorted, timeValue, sortKeys]

/-- The records of a container come back sorted. -/
theorem recordsOf_sortKeys
    {Record : Type}
    {fields : Record → PyDict}
    {ofFields : PyDict → Option Record}
    {sorted : Record → Record}
    (reads : ∀ record,
      ofFields (((fields record).map sortMember).insertionSort KeyLE) = some (sorted record))
    (records : List (PyStr × Record)) :
    recordsOf ofFields (sortKeys (objectOf fields records)) =
      some ((byKey records).map (Prod.map id sorted)) := by
  let written (record : PyStr × Record) : PyStr × PyVal :=
    sortMember (record.1, .dict (fields record.2))
  have sortedEntries : ((records.map fun record => (record.1, PyVal.dict (fields record.2))).map
      sortMember).insertionSort KeyLE = (byKey records).map written := by
    rw [List.map_map, byKey, List.map_insertionSort _ (fun first second => KeyLE first second)]
    · rfl
    · intro first _ second _
      exact Iff.rfl
  have each : ∀ (record : PyStr × Record),
      (match (written record).2 with
        | .dict fields => (ofFields fields).map fun value => ((written record).1, value)
        | _ => none) = some (Prod.map id sorted record) := by
    intro record
    simp only [written, sortMember, Json.sortKeys_dict, reads]
    rfl
  rw [objectOf, Json.sortKeys_dict, recordsOf, sortedEntries]
  generalize byKey records = ordered
  induction ordered with
  | nil => rfl
  | cons first rest inductionHypothesis =>
      rw [List.map_cons, List.mapM_cons, each, inductionHypothesis]
      rfl

/-- The entries of a document with sorted keys. -/
def sortedEntries
    (archive : Archive)
    (updatedTime : Decimal) :
    PyDict :=
  ((archive.document updatedTime).map sortMember).insertionSort KeyLE

theorem get?_sortedEntries
    (archive : Archive)
    (updatedTime : Decimal)
    (key : PyStr) :
    PyDict.get? (sortedEntries archive updatedTime) key =
      (PyDict.get? (archive.document updatedTime) key).map sortKeys :=
  Json.get?_sorted (by simp [Archive.document]) key

/-- Nothing is added where every default is there. -/
theorem setDefaults_of_present
    {data : PyDict}
    {defaults : PyDict}
    (present : ∀ entry ∈ defaults, (PyDict.get? data entry.1).isSome) :
    defaults.foldl (fun data entry => PyDict.setDefault data entry.1 entry.2) data = data := by
  induction defaults with
  | nil => rfl
  | cons first rest inductionHypothesis =>
      obtain ⟨here, later⟩ := List.forall_mem_cons.mp present
      rw [List.foldl_cons, PyDict.setDefault, if_pos here]
      exact inductionHypothesis later

/-- What is written is loaded; `load` adds nothing to it. -/
theorem load_save
    {archive : Archive}
    {updatedTime : Decimal}
    {file : HistoryFile}
    (saved : archive.save updatedTime = .ok file) :
    load file = .ok (PyDict.set (sortedEntries archive updatedTime) "schema_version"
      (.int ResourceHistory.schemaVersion)) := by
  unfold Archive.save at saved
  split at saved
  · next canStore =>
    cases saved
    simp only [storable, Bool.and_eq_true] at canStore
    have content := Json.read_fileText _ canStore.1.1 canStore.1.2 canStore.2
    have loaded : ∀ {bytes document}, (do
          let text ← Utf8.decode bytes
          Json.loads ⟨text⟩) = Except.ok document →
        load (.content bytes) = ResourceHistory.checkDocument document := by
      intro bytes document parsed
      obtain ⟨text, decoded, parsed⟩ := bind_eq_ok.mp parsed
      rw [load, decoded]
      simp only [bind, Except.bind, parsed]
    rw [loaded content, Json.sortKeys_dict]
    have version : PyDict.get? (sortedEntries archive updatedTime) "schema_version" =
        some (.int ResourceHistory.schemaVersion) := by
      rw [get?_sortedEntries]
      simp [Archive.document, sortKeys]
    have present : ∀ entry ∈ ResourceHistory.defaults,
        (PyDict.get? (PyDict.set (sortedEntries archive updatedTime) "schema_version"
          (.int ResourceHistory.schemaVersion)) entry.1).isSome := by
      simp [ResourceHistory.defaults, get?_sortedEntries, Archive.document]
    change ResourceHistory.checkDocument (.dict (sortedEntries archive updatedTime)) = _
    have number : Number.int (.int ResourceHistory.schemaVersion) =
        .ok ResourceHistory.schemaVersion := rfl
    simp only [ResourceHistory.checkDocument, version, Option.getD_some, number, bind,
      Except.bind, lt_irrefl, if_false, setDefaults_of_present present]
  · cases saved

theorem mapM_textOf (texts : List PyStr) :
    (Json.sortItems (texts.map .str)).mapM textOf = some texts := by
  induction texts with
  | nil => rfl
  | cons first rest inductionHypothesis =>
      have same : sortKeys (.str first) = .str first := by simp [sortKeys]
      rw [List.map_cons, Json.sortItems, same, List.mapM_cons, inductionHypothesis]
      rfl

/-- Saving and loading changes no more than the order of the keys. -/
theorem read_save
    {archive : Archive}
    {updatedTime : Decimal}
    {file : HistoryFile}
    (saved : archive.save updatedTime = .ok file) :
    read file = .ok archive.sorted := by
  have parsed : Archive.ofDocument (PyDict.set (sortedEntries archive updatedTime)
      "schema_version" (.int ResourceHistory.schemaVersion)) = some archive.sorted := by
    have models := recordsOf_sortKeys Aggregate.ofFields_sorted archive.models
    have tasks := recordsOf_sortKeys Aggregate.ofFields_sorted archive.tasks
    have profiles := recordsOf_sortKeys ProfileEntry.ofFields_sorted archive.profiles
    simp [Archive.ofDocument, PyDict.get, get?_sortedEntries, Archive.document, sortKeys, models,
      tasks, profiles, itemsOf, mapM_textOf, Archive.sorted]
  rw [read, load_save saved]
  simp only [bind, Except.bind, parsed]

theorem read_absent : read .absent = .ok .empty := rfl

/-! ## Recording -/

/-- The moment of a time, in seconds. -/
def seconds (time : Decimal) : ℚ :=
  time.mantissa * (10 : ℚ) ^ time.exponent

/-- The arguments of `record`, its clock, and whether the operating system lets it write. -/
structure ObservationCall where
  runId : PyStr
  taskId : PyStr
  taskName : Option PyStr
  status : PyStr
  requestedResources : PyDict
  modelAnchor : PyVal
  metrics : PyDict
  /-- `None` unless the error is a dictionary. -/
  error : Option PyDict
  selectedNode : PyVal
  context : Option ResourceContext
  observationId : Option PyStr
  requiredGpuMemMib : ℤ
  recordedTime : Decimal
  updatedTime : Decimal
  writable : Bool

/-- The part of the call that decisions are made from. -/
def ObservationCall.facts (call : ObservationCall) : RecordCall where
  status := call.status
  requestedResources := call.requestedResources
  metrics := call.metrics
  error := call.error
  context := call.context
  observationId := call.observationId
  requiredGpuMemMib := call.requiredGpuMemMib
  recordedTime := seconds call.recordedTime
  saved := call.writable

/-- The id of the observation; an empty one counts as none. -/
def ObservationCall.ids (call : ObservationCall) : List PyStr :=
  call.observationId.toList.filter fun id => !id.isEmpty

def ObservationCall.success (call : ObservationCall) : Bool :=
  call.status = PyStr.ofString "succeeded"

def ObservationCall.errorType (call : ObservationCall) : PyVal :=
  match call.error with
  | some error => PyDict.get error "error_type"
  | none => .null

def optional (text : Option PyStr) : PyVal :=
  text.elim .null .str

/-- The observation, as it is kept and returned. -/
def ObservationCall.observation
    (call : ObservationCall)
    (requestedResources : PyDict)
    (peak : ℤ) :
    PyVal :=
  .dict
    [("run_id", .str call.runId), ("task_id", .str call.taskId),
      ("task_name", optional call.taskName), ("status", .str call.status),
      ("success", .bool call.success), ("recorded_time", timeValue call.recordedTime),
      ("requested_resources", .dict requestedResources), ("model_anchor", call.modelAnchor),
      ("selected_node", call.selectedNode), ("metrics", .dict call.metrics),
      ("error", (call.error.map PyVal.dict).getD .null), ("error_type", call.errorType),
      ("peak_gpu_memory_bytes", .int peak), ("observation_id", optional call.observationId),
      ("resource_context", (call.context.map ResourceContext.toDict).getD .null)]

/-- `model_anchor_key`; `format` is how an f-string shows a value. -/
def modelAnchorKey
    (format : PyVal → PyStr)
    (modelAnchor : PyVal) :
    Option PyStr :=
  match modelAnchor with
  | .dict anchor =>
      let localModel := (PyDict.get anchor "local_model").orElse (PyDict.get anchor "model")
      if localModel.truthy then
        let backend := (PyDict.get anchor "backend").orElse (.str "transformers")
        let scope := (PyDict.get anchor "model_scope").orElse (.str "local")
        some ⟨(format backend).chars ++ (":" : PyStr).chars ++ (format scope).chars ++
          (":" : PyStr).chars ++ (format localModel).chars⟩
      else
        none
  | _ => none

/-- `_update_record`. -/
def updateRecord
    (call : ObservationCall)
    (peak : ℤ)
    (bucket : List (PyStr × Aggregate))
    (key : PyStr) :
    List (PyStr × Aggregate) :=
  let record := (bucket.lookup key).getD ⟨key, 0, 0, 0, 0, ⟨[]⟩, .null, call.recordedTime⟩
  Dict.set bucket key
    { record with
      runs := record.runs + 1
      successes := if call.success then record.successes + 1 else record.successes
      failures := if call.success then record.failures else record.failures + 1
      peakGpuMemoryBytes :=
        if peak ≠ 0 then (max (record.peakGpuMemoryBytes : ℤ) peak).toNat
        else record.peakGpuMemoryBytes
      lastStatus := call.status
      lastErrorType := call.errorType
      lastObservedTime := call.recordedTime }

/-- The key of the record that was observed the longest ago. -/
def oldest
    {Record : Type}
    (time : Record → Decimal) :
    List (PyStr × Record) → Option PyStr
  | [] => none
  | first :: rest =>
      some (rest.foldl (fun best entry =>
        if seconds (time entry.2) < seconds (time best.2) then entry else best) first).1

/-- The oldest record is given up when there are too many. -/
def prune
    {Record : Type}
    (time : Record → Decimal)
    (records : List (PyStr × Record)) :
    List (PyStr × Record) :=
  if maxProfiles < records.length then
    match oldest time records with
    | some key => Dict.erase records key
    | none => records
  else
    records

/-- The amounts of a profile. -/
def ProfileEntry.profile (entry : ProfileEntry) : Profile where
  successSamples := entry.successSamples
  successPeakBytes := entry.successPeakBytes
  oomLowerBoundMib := entry.oomLowerBoundMib
  lastObservedTime := seconds entry.lastObservedTime

/-- The profile of the context, if the call has one, is brought up to date. -/
def recordProfile
    (fingerprint : PyVal → PyStr)
    (call : ObservationCall)
    (profiles : List (PyStr × ProfileEntry)) :
    Except PyErr (List (PyStr × ProfileEntry)) :=
  match call.context with
  | none => .ok profiles
  | some context => do
      let key := context.key fingerprint
      let entry := (profiles.lookup key).getD ⟨context.toDict, 0, 0, 0, call.recordedTime⟩
      let noted ← noteLowerBound call.facts context (notePeak call.facts context entry.profile)
      .ok (prune ProfileEntry.lastObservedTime (Dict.set profiles key
        { context := entry.context
          successSamples := noted.successSamples
          successPeakBytes := noted.successPeakBytes
          oomLowerBoundMib := noted.oomLowerBoundMib
          lastObservedTime := call.recordedTime }))

/-- The last items of a list. -/
def lastItems
    {Item : Type}
    (count : ℕ)
    (items : List Item) :
    List Item :=
  items.drop (items.length - count)

/-- The history with an observation in it. -/
def Archive.observe
    (fingerprint : PyVal → PyStr)
    (format : PyVal → PyStr)
    (call : ObservationCall)
    (requestedResources : PyDict)
    (peak : ℤ)
    (archive : Archive) :
    Except PyErr Archive := do
  let profiles ← recordProfile fingerprint call archive.profiles
  let taskName := (call.taskName.filter fun name => !name.isEmpty).getD call.taskId
  let tasks := updateRecord call peak archive.tasks taskName
  let models :=
    (modelAnchorKey format call.modelAnchor).elim archive.models
      (updateRecord call peak archive.models)
  .ok
    { models := prune Aggregate.lastObservedTime models
      tasks := prune Aggregate.lastObservedTime tasks
      recentObservations := lastItems maxRecent
        (archive.recentObservations ++ [call.observation requestedResources peak])
      profiles := profiles
      observationIds :=
        if call.ids = [] then archive.observationIds
        else lastItems maxObservationIds (archive.observationIds ++ call.ids) }

/-- `ResourceHistoryStore.record`. -/
def record
    (fingerprint : PyVal → PyStr)
    (format : PyVal → PyStr)
    (call : ObservationCall)
    (file : HistoryFile) :
    Except PyErr HistoryFile := do
  let requestedResources ← normalizeResources call.requestedResources
  let peak ← peakGpuBytes call.metrics
  let archive ← read file
  if call.ids.any archive.observationIds.contains then
    .ok file
  else
    let observed ← archive.observe fingerprint format call requestedResources peak
    if call.writable then observed.save call.updatedTime else .error .osError

/-- Calls one after the other; one that raises has written nothing. -/
def recordAll
    (fingerprint : PyVal → PyStr)
    (format : PyVal → PyStr)
    (calls : List ObservationCall)
    (file : HistoryFile) :
    HistoryFile :=
  calls.foldl (fun file call =>
    match record fingerprint format call file with
    | .ok next => next
    | .error _ => file) file

end Maze.Core.HistoryArchive
