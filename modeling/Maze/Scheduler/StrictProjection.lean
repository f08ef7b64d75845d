import Maze.Library.Calls
import Maze.Scheduler.ResultSummary

namespace Maze.Scheduler.ResultSummary

open Maze.Library
open Maze.Library.Calls (forall_iff_of_forall₂ forall₂_of_mapM isSome_mapM)
open Maze.Python

/-!
# Which values are projected to strict JSON

What leaves the scheduler is written by an encoder that refuses NaN and the
infinities. Two conditions, both by recursion over the levels that remain, say
when a value gets there: nothing that `toJsonSafe` looks at raises, and nothing
that it keeps is refused by that encoder or too deep for it.
-/

section Conditions

variable (interpreter : Interpreter)

/-- The attributes that a summary looks at are read without an exception. -/
structure SummaryReturns (value : PyObj) : Prop where
  shape : ∃ shape, interpreter.getAttr value "shape" = some shape ∧
    (shape = .none ∨ interpreter.items shape ≠ .error .other)
  dtype : ∃ dtype, interpreter.getAttr value "dtype" = some dtype ∧
    (dtype = .none ∨ (interpreter.str dtype).isSome)
  columns : (interpreter.getAttr value "columns").isSome

/-- A strict encoder writes the sizes that a shape consists of, and has room for the lists. -/
structure SummaryKept
    (room : Nat)
    (value : PyObj) : Prop where
  fits : 0 < room
  shape : ∀ shape sizes, interpreter.getAttr value "shape" = some shape → shape ≠ .none →
    interpreter.items shape = .ok sizes → Encoder.dumps true (room - 1) (.list sizes) = .written
  columns : ∀ columns items, interpreter.getAttr value "columns" = some columns →
    columns ≠ .none → interpreter.items columns = .ok items →
    (∀ column ∈ items.take 20, (interpreter.str column).isSome) → 1 < room

/-- The parts that are looked into return, and so do the texts of the keys. -/
def PartsReturn (inside : PyObj → Prop) : PyObj → Prop
  | .dict entries =>
      ∀ entry ∈ entries.take 100, (interpreter.str entry.1).isSome ∧ inside entry.2
  | .mapping _ entries complete =>
      (complete = true ∨ 100 ≤ entries.length) ∧
        ∀ entry ∈ entries.take 100, (interpreter.str entry.1).isSome ∧ inside entry.2
  | .tuple items | .list items => ∀ item ∈ items.take 100, inside item
  | .set _ items => ∀ item ∈ (List.ofFn items).take 10, inside item
  | .buffer identity =>
      interpreter.readable (.buffer identity) = true ∧
        (interpreter.length (.buffer identity)).isSome
  | value => SummaryReturns interpreter value

/-- The parts that are kept fit; of entries whose keys have one text the last one is kept. -/
def PartsKept
    (inside : Nat → PyObj → Prop)
    (room : Nat) :
    PyObj → Prop
  | .dict entries | .mapping _ entries _ =>
      0 < room ∧
        ∀ entry ∈ Dict.lasting
            ((entries.take 100).map fun entry => (interpreter.str entry.1, entry.2)),
          inside (room - 1) entry.2
  | .tuple items | .list items => 0 < room ∧ ∀ item ∈ items.take 100, inside (room - 1) item
  | .set _ items =>
      1 < room ∧ ∀ item ∈ (List.ofFn items).take 10, inside (room - 1 - 1) item
  | .buffer _ => 0 < room
  | value => SummaryKept interpreter room value

variable (rooms : Nat → Nat)

/-- Nothing that `toJsonSafe` looks at raises. -/
def Returns : Nat → PyObj → Prop
  | 0, value =>
      Encoder.dumps false (rooms 0) value = .written ∨
        Encoder.dumps false (rooms 0) value = .refused ∧ SummaryReturns interpreter value
  | remaining + 1, value =>
      Encoder.dumps false (rooms (remaining + 1)) value = .written ∨
        Encoder.dumps false (rooms (remaining + 1)) value = .refused ∧
          PartsReturn interpreter (Returns remaining) value

/-- What is passed on fits a strict encoder, and what is taken apart fits part by part. -/
def Kept : Nat → Nat → PyObj → Prop
  | 0, room, value =>
      (Encoder.dumps false (rooms 0) value = .written →
        Encoder.dumps true room value = .written) ∧
      (Encoder.dumps false (rooms 0) value = .refused → SummaryKept interpreter room value)
  | remaining + 1, room, value =>
      (Encoder.dumps false (rooms (remaining + 1)) value = .written →
        Encoder.dumps true room value = .written) ∧
      (Encoder.dumps false (rooms (remaining + 1)) value = .refused →
        PartsKept interpreter (Kept remaining) room value)

/--
`to_json_safe(value)` returns, the API's encoder with its own room accepts the result, and the
result is returned as it is when it is passed again.
-/
def StrictProjection
    (maxDepth api : Nat)
    (value : PyObj) : Prop :=
  ∃ safe, toJsonSafe interpreter rooms maxDepth value = some safe ∧
    Encoder.dumps true api safe = .written ∧
    toJsonSafe interpreter rooms maxDepth safe = some safe

end Conditions

/-! ## Records and summaries -/

theorem dumps_record
    (strict : Bool)
    (room : Nat)
    (fields : List (PyStr × PyObj)) :
    Encoder.dumps strict room (record fields) = .written ↔
      0 < room ∧ ∀ field ∈ fields, Encoder.dumps strict (room - 1) field.2 = .written := by
  rw [record, Encoder.dumps_dict_eq_written, List.forall_mem_map]
  simp only [Encoder.key, true_and]

/-- The length of an object has few digits. -/
theorem dumps_length
    (strict : Bool)
    (room : Nat)
    (length : Size) :
    Encoder.dumps strict room (.int length) = .written := by
  have few : 2 ^ 63 ≤ 10 ^ Encoder.maxStrDigits :=
    (Nat.pow_le_pow_left (by decide) 63).trans (Nat.pow_le_pow_right (by decide) (by decide))
  have small : length.val < 10 ^ Encoder.maxStrDigits :=
    Nat.lt_of_lt_of_le length.isLt few
  simp only [Encoder.dumps, Encoder.integer, Int.natAbs_natCast, if_pos small]

theorem isSome_shapeField
    (interpreter : Interpreter)
    (value : PyObj) :
    (shapeField interpreter value).isSome ↔
      ∃ shape, interpreter.getAttr value "shape" = some shape ∧
        (shape = .none ∨ interpreter.items shape ≠ .error .other) := by
  unfold shapeField
  split
  · next raised => simp [raised]
  · next missing => simp [missing]
  · next shape present found =>
    rw [found]
    split
    · next sizes listed => simp [listed]
    · next listed => simp [listed]
    · next listed =>
      simp only [Option.isSome_none, Option.some.injEq, exists_eq_left', listed]
      simpa using present

/-- The shape is written if the sizes are, where they can be listed. -/
theorem dumps_shapeField
    {interpreter : Interpreter}
    {room : Nat}
    {value : PyObj}
    {fields : List (PyStr × PyObj)}
    (returned : shapeField interpreter value = some fields) :
    (∀ field ∈ fields, Encoder.dumps true room field.2 = .written) ↔
      ∀ shape sizes, interpreter.getAttr value "shape" = some shape → shape ≠ .none →
        interpreter.items shape = .ok sizes →
          Encoder.dumps true room (.list sizes) = .written := by
  unfold shapeField at returned
  split at returned
  · cases returned
  · next missing =>
    cases returned
    simp +contextual [missing]
  · next shape present found =>
    rw [found]
    split at returned
    · next sizes listed =>
      cases returned
      constructor
      · rintro written _ _ ⟨⟩ _ again
        rw [listed] at again
        cases again
        exact written _ List.mem_cons_self
      · intro written field member
        obtain rfl := List.mem_singleton.mp member
        exact written shape sizes rfl present listed
    · next listed =>
      cases returned
      constructor
      · rintro _ _ _ ⟨⟩ _ again
        rw [listed] at again
        cases again
      · intro _ field member
        obtain rfl := List.mem_singleton.mp member
        exact Encoder.dumps_str true room _
    · cases returned

theorem isSome_dtypeField
    (interpreter : Interpreter)
    (value : PyObj) :
    (dtypeField interpreter value).isSome ↔
      ∃ dtype, interpreter.getAttr value "dtype" = some dtype ∧
        (dtype = .none ∨ (interpreter.str dtype).isSome) := by
  unfold dtypeField
  split
  · next raised => simp [raised]
  · next missing => simp [missing]
  · next dtype present found =>
    have differs : dtype ≠ .none := present
    simp [found, differs]

theorem dumps_dtypeField
    {interpreter : Interpreter}
    {value : PyObj}
    {fields : List (PyStr × PyObj)}
    (returned : dtypeField interpreter value = some fields)
    (room : Nat) :
    ∀ field ∈ fields, Encoder.dumps true room field.2 = .written := by
  intro field member
  unfold dtypeField at returned
  split at returned
  · cases returned
  · cases returned
    cases member
  · obtain ⟨text, _, same⟩ := Option.map_eq_some_iff.mp returned
    cases same
    obtain rfl := List.mem_singleton.mp member
    exact Encoder.dumps_str true room _

theorem isSome_columnTexts
    (interpreter : Interpreter)
    (columns : PyObj) :
    (columnTexts interpreter columns).isSome ↔
      ∃ items, interpreter.items columns = .ok items ∧
        ∀ column ∈ items.take 20, (interpreter.str column).isSome := by
  unfold columnTexts
  split
  · next items listed => simp [listed, isSome_mapM]
  · next raised listed => simp [listed]

theorem isSome_columnsField
    (interpreter : Interpreter)
    (value : PyObj) :
    (columnsField interpreter value).isSome ↔
      (interpreter.getAttr value "columns").isSome := by
  unfold columnsField
  split
  · next raised => simp [raised]
  · next missing => simp [missing]
  · next columns _ found =>
    rw [found]
    split <;> simp

/-- The columns are written where there is room for a list, if they are listed. -/
theorem dumps_columnsField
    {interpreter : Interpreter}
    {room : Nat}
    {value : PyObj}
    {fields : List (PyStr × PyObj)}
    (returned : columnsField interpreter value = some fields) :
    (∀ field ∈ fields, Encoder.dumps true room field.2 = .written) ↔
      ∀ columns items, interpreter.getAttr value "columns" = some columns →
        columns ≠ .none → interpreter.items columns = .ok items →
        (∀ column ∈ items.take 20, (interpreter.str column).isSome) → 0 < room := by
  unfold columnsField at returned
  split at returned
  · cases returned
  · next missing =>
    cases returned
    simp +contextual [missing]
  · next columns present found =>
    rw [found]
    have listed := isSome_columnTexts interpreter columns
    split at returned
    · next texts isTexts =>
      cases returned
      rw [isTexts] at listed
      obtain ⟨items, isItems, each⟩ := listed.mp rfl
      have written : Encoder.dumps true room (.list (texts.map .str)) = .written ↔
          0 < room := by
        simp [Encoder.dumps_list_eq_written]
      simp only [List.mem_singleton, forall_eq, written]
      constructor
      · exact fun fits _ _ _ _ _ _ => fits
      · exact fun fits => fits columns items rfl present isItems each
    · next isTexts =>
      cases returned
      rw [isTexts] at listed
      constructor
      · rintro _ _ items ⟨⟩ _ isItems each
        exact absurd (listed.mpr ⟨items, isItems, each⟩) (by simp)
      · intro _ field member
        obtain rfl := List.mem_singleton.mp member
        exact Encoder.dumps_str true room _

theorem dumps_lengthField
    (interpreter : Interpreter)
    (room : Nat)
    (value : PyObj) :
    ∀ field ∈ lengthField interpreter value, Encoder.dumps true room field.2 = .written := by
  intro field member
  unfold lengthField at member
  split at member
  · next length _ =>
    obtain rfl := List.mem_singleton.mp member
    exact dumps_length true room length
  · cases member

/-- A summary is made where the attributes are read. -/
theorem isSome_summarizeSpecialValue
    (interpreter : Interpreter)
    (value : PyObj) :
    (summarizeSpecialValue interpreter value).isSome ↔ SummaryReturns interpreter value := by
  have parts : (summarizeSpecialValue interpreter value).isSome ↔
      (shapeField interpreter value).isSome ∧ (dtypeField interpreter value).isSome ∧
        (columnsField interpreter value).isSome := by
    unfold summarizeSpecialValue
    cases shapeField interpreter value <;> cases dtypeField interpreter value <;>
      cases columnsField interpreter value <;> simp
  rw [parts, isSome_shapeField, isSome_dtypeField, isSome_columnsField]
  exact ⟨fun ⟨shape, dtype, columns⟩ => ⟨shape, dtype, columns⟩,
    fun returns => ⟨returns.shape, returns.dtype, returns.columns⟩⟩

/-- What a summary has of its own is text; the shape and the columns need room. -/
theorem dumps_summarizeSpecialValue
    {interpreter : Interpreter}
    {room : Nat}
    {value safe : PyObj}
    (returned : summarizeSpecialValue interpreter value = some safe) :
    Encoder.dumps true room safe = .written ↔ SummaryKept interpreter room value := by
  simp only [summarizeSpecialValue, Option.bind_eq_bind, Option.bind_eq_some_iff] at returned
  obtain ⟨shape, isShape, dtype, isDtype, columns, isColumns, same⟩ := returned
  cases same
  rw [dumps_record]
  simp only [List.forall_mem_append, dumps_shapeField isShape, dumps_columnsField isColumns]
  constructor
  · rintro ⟨fits, ⟨⟨⟨_, keptShape⟩, _⟩, keptColumns⟩, _⟩
    exact ⟨fits, keptShape, fun columns items isColumns present listed each =>
      Nat.lt_of_sub_pos (keptColumns columns items isColumns present listed each)⟩
  · intro kept
    refine ⟨kept.fits, ⟨⟨⟨?_, kept.shape⟩, dumps_dtypeField isDtype _⟩,
      fun columns items isColumns present listed each =>
        Nat.sub_pos_of_lt (kept.columns columns items isColumns present listed each)⟩,
      dumps_lengthField interpreter _ value⟩
    simp

/-! ## Parts -/

section Parts

variable {interpreter : Interpreter} {inside : PyObj → Option PyObj}

/-- Entries return where their keys have texts and their values return. -/
theorem isSome_summarizeEntries
    {Inside : PyObj → Prop}
    (returns : ∀ value, (inside value).isSome ↔ Inside value)
    (entries : List (PyObj × PyObj)) :
    (summarizeEntries interpreter inside entries).isSome ↔
      ∀ entry ∈ entries, (interpreter.str entry.1).isSome ∧ Inside entry.2 := by
  have listed : (summarizeEntries interpreter inside entries).isSome ↔
      (entries.mapM (summarizeEntry interpreter inside)).isSome := by
    unfold summarizeEntries
    cases entries.mapM (summarizeEntry interpreter inside) <;> rfl
  rw [listed, isSome_mapM]
  refine forall₂_congr fun entry _ => ?_
  rw [← returns, summarizeEntry]
  cases interpreter.str entry.1 <;> cases inside entry.2 <;> simp

/-- Entries are written if the values that last are. -/
theorem dumps_summarizeEntries
    {Fits : PyObj → Prop}
    {room : Nat}
    (fits : ∀ value item, inside value = some item →
      (Encoder.dumps true (room - 1) item = .written ↔ Fits value))
    {entries : List (PyObj × PyObj)}
    {safe : PyObj}
    (returned : summarizeEntries interpreter inside entries = some safe) :
    Encoder.dumps true room safe = .written ↔
      0 < room ∧
        ∀ entry ∈ Dict.lasting (entries.map fun entry => (interpreter.str entry.1, entry.2)),
          Fits entry.2 := by
  simp only [summarizeEntries, Option.bind_eq_bind, Option.bind_eq_some_iff] at returned
  obtain ⟨fields, listed, same⟩ := returned
  cases same
  have paired : List.Forall₂
      (fun (named : Option PyStr × PyObj) (field : PyStr × PyObj) =>
        named.1 = some field.1 ∧ inside named.2 = some field.2)
      (entries.map fun entry => (interpreter.str entry.1, entry.2)) fields := by
    refine List.forall₂_map_left_iff.mpr ((forall₂_of_mapM listed).imp ?_)
    intro entry field made
    simp only [summarizeEntry, Option.bind_eq_bind, Option.bind_eq_some_iff] at made
    obtain ⟨name, isName, item, isItem, same⟩ := made
    cases same
    exact ⟨isName, isItem⟩
  have lasting := Dict.forall₂_lasting (Option.some_injective PyStr)
    (fun value item => inside value = some item) paired
  rw [dumps_record]
  refine and_congr_right fun _ => ?_
  simp only [Dict.mem_ofEntries]
  exact (forall_iff_of_forall₂ lasting fun named field related =>
    (fits named.2 field.2 related.2).symm).symm

/-- The parts return where `PartsReturn` says so. -/
theorem isSome_summarizeParts
    {Inside : PyObj → Prop}
    (returns : ∀ value, (inside value).isSome ↔ Inside value)
    (value : PyObj) :
    (summarizeParts interpreter inside value).isSome ↔
      PartsReturn interpreter Inside value := by
  have items (items : List PyObj) :
      (items.mapM inside).isSome ↔ ∀ item ∈ items, Inside item := by
    rw [isSome_mapM]
    exact forall₂_congr fun item _ => returns item
  cases value with
  | dict entries => exact isSome_summarizeEntries returns _
  | mapping identity entries complete =>
      simp only [summarizeParts, PartsReturn, Bool.or_eq_true, decide_eq_true_eq]
      split
      · next goesOn => rw [isSome_summarizeEntries returns, and_iff_right goesOn]
      · next ends => simp [ends]
  | tuple parts | list parts =>
      rw [summarizeParts, PartsReturn, ← items]
      cases (parts.take 100).mapM inside <;> rfl
  | set length parts =>
      rw [summarizeParts, PartsReturn, ← items]
      cases ((List.ofFn parts).take 10).mapM inside <;> rfl
  | buffer identity =>
      rw [summarizeParts, PartsReturn]
      split
      · next readable =>
        rw [and_iff_right readable]
        cases interpreter.length (.buffer identity) <;> rfl
      · next unreadable => simp [unreadable]
  | _ => exact isSome_summarizeSpecialValue interpreter _

/-- The parts are written where `PartsKept` says so. -/
theorem dumps_summarizeParts
    {Fits : Nat → PyObj → Prop}
    (fits : ∀ room value item, inside value = some item →
      (Encoder.dumps true room item = .written ↔ Fits room value))
    {room : Nat}
    {value safe : PyObj}
    (returned : summarizeParts interpreter inside value = some safe) :
    Encoder.dumps true room safe = .written ↔ PartsKept interpreter Fits room value := by
  have items {parts made : List PyObj} (room : Nat) (listed : parts.mapM inside = some made) :
      (∀ item ∈ made, Encoder.dumps true room item = .written) ↔
        ∀ part ∈ parts, Fits room part :=
    (forall_iff_of_forall₂ (forall₂_of_mapM listed) fun part item isItem =>
      (fits room part item isItem).symm).symm
  cases value with
  | dict entries => exact dumps_summarizeEntries (fits (room - 1)) returned
  | mapping identity entries complete =>
      rw [summarizeParts] at returned
      split at returned
      · exact dumps_summarizeEntries (fits (room - 1)) returned
      · cases returned
  | tuple parts | list parts =>
      obtain ⟨made, listed, same⟩ := Option.bind_eq_some_iff.mp returned
      cases same
      rw [Encoder.dumps_list_eq_written, items _ listed, PartsKept]
  | set length parts =>
      obtain ⟨made, listed, same⟩ := Option.bind_eq_some_iff.mp returned
      cases same
      rw [dumps_record, PartsKept, ← items _ listed]
      simp only [List.forall_mem_cons, List.not_mem_nil, false_implies, implies_true, and_true,
        dumps_length, Encoder.dumps_bool, Encoder.dumps_str, Encoder.dumps_list_eq_written,
        true_and]
      rw [← and_assoc, Nat.sub_pos_iff_lt, and_iff_right_of_imp fun two => Nat.zero_lt_of_lt two]
  | buffer identity =>
      rw [summarizeParts] at returned
      split at returned
      · obtain ⟨length, _, same⟩ := Option.bind_eq_some_iff.mp returned
        cases same
        rw [dumps_record, PartsKept]
        simp [dumps_length]
      · cases returned
  | _ => exact dumps_summarizeSpecialValue returned

end Parts

/-! ## Every nesting -/

section Projection

variable (interpreter : Interpreter) (rooms : Nat → Nat)

/-- A value is passed on or taken apart unless the encoder gives up. -/
theorem isSome_passOn
    (encoded : Encoder.Outcome)
    (value : PyObj)
    (summarized : Option PyObj) :
    (passOn encoded value summarized).isSome ↔
      encoded = .written ∨ encoded = .refused ∧ summarized.isSome := by
  cases encoded <;> simp [passOn]

/-- `toJsonSafe` returns where nothing that it looks at raises. -/
theorem isSome_toJsonSafe
    (remaining : Nat)
    (value : PyObj) :
    (toJsonSafe interpreter rooms remaining value).isSome ↔
      Returns interpreter rooms remaining value := by
  induction remaining generalizing value with
  | zero => rw [toJsonSafe, isSome_passOn, isSome_summarizeSpecialValue, Returns]
  | succ remaining inductionHypothesis =>
      rw [toJsonSafe, isSome_passOn, isSome_summarizeParts inductionHypothesis, Returns]

/-- What is passed on is the value, and what is taken apart is its summary. -/
theorem dumps_passOn
    {encoded : Encoder.Outcome}
    {value safe : PyObj}
    {summarized : Option PyObj}
    {room : Nat}
    {Fits : Prop}
    (fits : summarized = some safe → (Encoder.dumps true room safe = .written ↔ Fits))
    (returned : passOn encoded value summarized = some safe) :
    Encoder.dumps true room safe = .written ↔
      (encoded = .written → Encoder.dumps true room value = .written) ∧
        (encoded = .refused → Fits) := by
  cases encoded with
  | written =>
      cases returned
      simp
  | refused => simp [fits returned]
  | tooDeep => cases returned

/-- A strict encoder writes what is returned where all that is kept fits. -/
theorem dumps_toJsonSafe
    {remaining room : Nat}
    {value safe : PyObj}
    (returned : toJsonSafe interpreter rooms remaining value = some safe) :
    Encoder.dumps true room safe = .written ↔ Kept interpreter rooms remaining room value := by
  induction remaining generalizing room value safe with
  | zero =>
      rw [toJsonSafe] at returned
      exact dumps_passOn dumps_summarizeSpecialValue returned
  | succ remaining inductionHypothesis =>
      rw [toJsonSafe] at returned
      exact dumps_passOn (dumps_summarizeParts fun _ _ _ => inductionHypothesis) returned

/-- What is not refused stays as it is if it is written. -/
theorem passOn_eq_self
    {encoded : Encoder.Outcome}
    (unrefused : encoded ≠ .refused)
    (value : PyObj)
    (summarized : Option PyObj) :
    passOn encoded value summarized = some value ↔ encoded = .written := by
  cases encoded with
  | refused => exact absurd rfl unrefused
  | written | tooDeep => simp [passOn]

/-- What a strict encoder writes is returned as it is where `json.dumps` has room for it. -/
theorem toJsonSafe_again_iff
    {api : Nat}
    {safe : PyObj}
    (written : Encoder.dumps true api safe = .written)
    (remaining : Nat) :
    toJsonSafe interpreter rooms remaining safe = some safe ↔
      Encoder.dumps true (rooms remaining) safe = .written := by
  have passed : toJsonSafe interpreter rooms remaining safe = some safe ↔
      Encoder.dumps false (rooms remaining) safe = .written := by
    have unrefused := Encoder.dumps_ne_refused written (rooms remaining)
    cases remaining <;> exact passOn_eq_self unrefused safe _
  rw [passed]
  exact ⟨Encoder.dumps_strict_of_lenient written, Encoder.dumps_lenient⟩

/-- A list that is nested so many times. -/
def nested : Nat → PyObj
  | 0 => .list []
  | depth + 1 => .list [nested depth]

theorem dumps_nested
    (strict : Bool)
    (room : Nat) :
    Encoder.dumps strict room (nested room) = .tooDeep := by
  induction room with
  | zero => simp [nested, Encoder.dumps]
  | succ room inductionHypothesis =>
      simp [nested, Encoder.dumps, Encoder.dumpsItems, inductionHypothesis,
        Encoder.Outcome.andThen]

/-- No room is enough for every list: one that is nested more deeply raises. -/
theorem toJsonSafe_nested
    (remaining : Nat) :
    toJsonSafe interpreter rooms remaining (nested (rooms remaining)) = none := by
  cases remaining <;> simp [toJsonSafe, dumps_nested, passOn]

/--
The result of `to_json_safe` is strict JSON that stays as it is exactly where nothing that is
looked at raises and all that is kept fits both the API's encoder and `json.dumps` itself.
-/
theorem strictProjection_iff
    (maxDepth api : Nat)
    (value : PyObj) :
    StrictProjection interpreter rooms maxDepth api value ↔
      Returns interpreter rooms maxDepth value ∧
        Kept interpreter rooms maxDepth (min (rooms maxDepth) api) value := by
  rw [← isSome_toJsonSafe, Option.isSome_iff_exists]
  constructor
  · rintro ⟨safe, returned, written, again⟩
    have inside := (toJsonSafe_again_iff interpreter rooms written maxDepth).mp again
    exact ⟨⟨safe, returned⟩, (dumps_toJsonSafe interpreter rooms returned).mp
      ((Encoder.dumps_min_eq_written _ _ _ _).mpr ⟨inside, written⟩)⟩
  · rintro ⟨⟨safe, returned⟩, kept⟩
    obtain ⟨inside, written⟩ := (Encoder.dumps_min_eq_written _ _ _ _).mp
      ((dumps_toJsonSafe interpreter rooms returned).mpr kept)
    exact ⟨safe, returned, written,
      (toJsonSafe_again_iff interpreter rooms written maxDepth).mpr inside⟩

end Projection

/-- Every object that is left is an `object()`. -/
def plainObjects : Interpreter where
  typeName _ := "builtins.object"
  className _ := "object"
  repr _ := some "<object object>"
  text _ := some "<object object>"
  getAttr _ _ := some .none
  items _ := .error .typeError
  length _ := none
  readable _ := false

/-- An object under a key that is another one is projected. -/
example :
    StrictProjection plainObjects (fun _ => 990) 6 990
      (.dict [(.other 3, .tuple [.other 0, .str "a"])]) :=
  ⟨_, rfl, by decide +kernel, rfl⟩

/-- `{"score": float("nan")}` is passed on, and the API's encoder refuses it. -/
theorem nan_passed_on :
    toJsonSafe plainObjects (fun _ => 990) 6 (.dict [(.str "score", .float .nan)]) =
        some (.dict [(.str "score", .float .nan)]) ∧
      Encoder.dumps true 990 (.dict [(.str "score", .float .nan)]) = .refused ∧
      ¬StrictProjection plainObjects (fun _ => 990) 6 990
        (.dict [(.str "score", .float .nan)]) := by
  have passed : toJsonSafe plainObjects (fun _ => 990) 6 (.dict [(.str "score", .float .nan)]) =
      some (.dict [(.str "score", .float .nan)]) := by
    simp [toJsonSafe, Encoder.dumps, Encoder.dumpsEntries, Encoder.key, Encoder.number,
      Encoder.Outcome.andThen, passOn]
  have refused : Encoder.dumps true 990 (.dict [(.str "score", .float .nan)]) = .refused := by
    simp [Encoder.dumps, Encoder.dumpsEntries, Encoder.key, Encoder.number,
      Encoder.Outcome.andThen]
  refine ⟨passed, refused, ?_⟩
  rintro ⟨safe, returned, written, _⟩
  obtain rfl := Option.some.inj (passed.symm.trans returned)
  rw [refused] at written
  cases written

end Maze.Scheduler.ResultSummary
