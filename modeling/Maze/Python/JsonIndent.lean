import Maze.Python.JsonSort
import Maze.Python.JsonText

namespace Maze.Python.Json

open Maze.Library.Transition
open Maze.Python.Utf8 (Writable writable_cons writable_append writable_iff)

/-!
# JSON with indentation

`json.dump(value, handle, ensure_ascii=False, indent=2, sort_keys=True)` puts every member
on a line of its own. The reader passes over the whitespace, so that the file gives back
the value with its keys sorted.
-/

/-! ## Writing -/

/-- The line break before a member that lies `level` objects and lists deep. -/
def lineBreak (level : ℕ) : List CodePoint :=
  point '\n' :: List.replicate (2 * level) (point ' ')

mutual

/-- The text of a value that lies `level` deep. -/
def indentedText (level : ℕ) : PyVal → List CodePoint
  | .list (item :: rest) =>
      point '[' :: (lineBreak (level + 1) ++ indentedText (level + 1) item ++
        indentedItems level rest)
  | .dict ((key, value) :: rest) =>
      point '{' :: (lineBreak (level + 1) ++ stringText key ++ chars ": " ++
        indentedText (level + 1) value ++ indentedMembers level rest)
  | .list [] => chars "[]"
  | .dict [] => [point '{', point '}']
  | .null => chars "null"
  | .bool value => text (.bool value)
  | .int number => intText number
  | .float number => floatText number
  | .str string => stringText string

/-- The text of a list after one of its items. -/
def indentedItems (level : ℕ) : List PyVal → List CodePoint
  | [] => lineBreak level ++ chars "]"
  | item :: rest =>
      point ',' :: (lineBreak (level + 1) ++ indentedText (level + 1) item ++
        indentedItems level rest)

/-- The text of an object after one of its members. -/
def indentedMembers (level : ℕ) : List (PyStr × PyVal) → List CodePoint
  | [] => lineBreak level ++ [point '}']
  | (key, value) :: rest =>
      point ',' :: (lineBreak (level + 1) ++ stringText key ++ chars ": " ++
        indentedText (level + 1) value ++ indentedMembers level rest)

end

/-! ## Reading it back -/

/-- A reader that stays where it is at whitespace passes over a line break. -/
theorem run_lineBreak
    {reader : Reader}
    (stays : ∀ char, isSpace char = true → step? reader char = some reader)
    (level : ℕ)
    (rest : List CodePoint) :
    run? step? reader (lineBreak level ++ rest) = run? step? reader rest := by
  have blanks : ∀ count, run? step? reader (List.replicate count (point ' ') ++ rest) =
      run? step? reader rest := by
    intro count
    induction count with
    | zero => rfl
    | succ count inductionHypothesis =>
        rw [List.replicate_succ, List.cons_append, run?_cons, stays _ rfl, Option.bind_some,
          inductionHypothesis]
  rw [lineBreak, List.cons_append, run?_cons, stays _ rfl, Option.bind_some, blanks]

theorem ends_lineBreak
    (level : ℕ)
    (rest : List CodePoint) :
    Ends (lineBreak level ++ rest) :=
  ⟨point '\n', _, rfl, rfl⟩

theorem ends_indentedItems
    (level : ℕ)
    (items : List PyVal)
    (rest : List CodePoint) :
    Ends (indentedItems level items ++ rest) := by
  cases items with
  | nil =>
      rw [indentedItems, List.append_assoc]
      exact ends_lineBreak level _
  | cons item later => exact ⟨point ',', _, rfl, rfl⟩

theorem ends_indentedMembers
    (level : ℕ)
    (entries : List (PyStr × PyVal))
    (rest : List CodePoint) :
    Ends (indentedMembers level entries ++ rest) := by
  cases entries with
  | nil =>
      rw [indentedMembers, List.append_assoc]
      exact ends_lineBreak level _
  | cons entry later => exact ⟨point ',', _, rfl, rfl⟩

/-- No value begins with whitespace or a closing bracket. -/
theorem indentedText_head
    (level : ℕ)
    (value : PyVal) :
    ∃ first rest, indentedText level value = first :: rest ∧
      isSpace first = false ∧ first ≠ point ']' := by
  match value with
  | .null => exact text_head .null
  | .bool flag => exact text_head (.bool flag)
  | .int number => exact text_head (.int number)
  | .float number => exact text_head (.float number)
  | .str string => exact text_head (.str string)
  | .list [] => exact text_head (.list [])
  | .dict [] => exact text_head (.dict [])
  | .list (item :: rest) => exact ⟨point '[', _, by rw [indentedText], rfl, by decide⟩
  | .dict ((key, member) :: rest) => exact ⟨point '{', _, by rw [indentedText], rfl, by decide⟩

/-- The first item of a list starts a value inside the list. -/
theorem run_firstIndentedItem
    (frames : List Frame)
    (level : ℕ)
    (value : PyVal)
    (rest : List CodePoint) :
    run? step? ⟨frames, .firstItem⟩ (indentedText level value ++ rest) =
      run? step? ⟨.items [] :: frames, .value⟩ (indentedText level value ++ rest) := by
  obtain ⟨first, later, same, notSpace, notClosing⟩ := indentedText_head level value
  rw [same, List.cons_append, run?_cons, run?_cons, step?_firstItem, step?_value, notSpace,
    if_neg (by decide), if_neg notClosing, if_neg (by decide)]

theorem value_stays
    (frames : List Frame)
    (char : CodePoint)
    (space : isSpace char = true) :
    step? ⟨frames, .value⟩ char = some ⟨frames, .value⟩ := by
  rw [step?_value, if_pos space]

theorem complete_stays
    (frames : List Frame)
    (value : PyVal)
    (char : CodePoint)
    (space : isSpace char = true) :
    step? ⟨frames, .complete value⟩ char = some ⟨frames, .complete value⟩ :=
  if_pos space

mutual

/-- A value that ends is read back. -/
theorem run_indentedText
    (level : ℕ)
    (value : PyVal)
    (distinct : value.keysDistinct = true)
    (limit : withinDigitLimit value = true)
    (frames : List Frame)
    (following : List CodePoint)
    (ends : isNumber value = true → Ends following) :
    run? step? ⟨frames, .value⟩ (indentedText level value ++ following) =
      run? step? ⟨frames, .complete value⟩ following := by
  match value with
  | .null | .bool _ | .int _ | .float _ | .str _ | .list [] | .dict [] =>
      simp only [indentedText]
      simpa only [text] using run_text _ distinct limit frames following ends
  | .list (item :: rest) =>
      have opening : step? ⟨frames, .value⟩ (point '[') = some ⟨frames, .firstItem⟩ := rfl
      have stays : ∀ char, isSpace char = true →
          step? ⟨frames, .firstItem⟩ char = some ⟨frames, .firstItem⟩ := by
        intro char space
        rw [step?_firstItem, if_pos space]
      simp only [PyVal.keysDistinct, PyVal.itemsKeysDistinct, Bool.and_eq_true] at distinct
      simp only [withinDigitLimit, itemsWithinDigitLimit, Bool.and_eq_true] at limit
      rw [indentedText, List.cons_append, List.append_assoc, List.append_assoc, run?_cons,
        opening, Option.bind_some, run_lineBreak stays, run_firstIndentedItem,
        run_indentedText (level + 1) item distinct.1 limit.1 _ _
          (fun _ => ends_indentedItems level rest _),
        run_indentedItems level rest distinct.2 limit.2]
      rfl
  | .dict ((key, member) :: rest) =>
      have opening : step? ⟨frames, .value⟩ (point '{') = some ⟨frames, .firstKey⟩ := rfl
      have stays : ∀ char, isSpace char = true →
          step? ⟨frames, .firstKey⟩ char = some ⟨frames, .firstKey⟩ :=
        fun char space => if_pos space
      have quote : step? ⟨frames, .firstKey⟩ (point '"') =
          some ⟨frames, .string (.key []) ⟨[], none⟩⟩ := rfl
      have assoc : indentedText level (.dict ((key, member) :: rest)) ++ following =
          point '{' :: (lineBreak (level + 1) ++ point '"' ::
            (key.chars.flatMap escapePoint ++ point '"' :: (chars ": " ++
              (indentedText (level + 1) member ++
                (indentedMembers level rest ++ following))))) := by
        simp [indentedText, stringText]
      simp only [PyVal.keysDistinct, PyVal.entriesKeysDistinct, Bool.and_eq_true,
        decide_eq_true_eq] at distinct
      simp only [withinDigitLimit, entriesWithinDigitLimit, Bool.and_eq_true] at limit
      rw [assoc, run?_cons, opening, Option.bind_some, run_lineBreak stays, run?_cons, quote,
        Option.bind_some, run_key,
        run_indentedText (level + 1) member distinct.2.1 limit.1 _ _
          (fun _ => ends_indentedMembers level rest _),
        run_indentedMembers level rest distinct.2.2 limit.2]
      have updated := PyDict.update_of_nodup [(key, member)] rest distinct.1
      simp only [PyDict.set, updated, List.singleton_append]

/-- The rest of a list is read back. -/
theorem run_indentedItems
    (level : ℕ)
    (items : List PyVal)
    (distinct : PyVal.itemsKeysDistinct items = true)
    (limit : itemsWithinDigitLimit items = true)
    (frames : List Frame)
    (before : List PyVal)
    (value : PyVal)
    (following : List CodePoint) :
    run? step? ⟨.items before :: frames, .complete value⟩
      (indentedItems level items ++ following) =
      run? step? ⟨frames, .complete (.list (before ++ value :: items))⟩ following := by
  match items with
  | [] =>
      rw [indentedItems, List.append_assoc, run_lineBreak (complete_stays _ _)]
      rfl
  | item :: rest =>
      have comma : step? ⟨.items before :: frames, .complete value⟩ (point ',') =
          some ⟨.items (before ++ [value]) :: frames, .value⟩ := rfl
      simp only [PyVal.itemsKeysDistinct, Bool.and_eq_true] at distinct
      simp only [itemsWithinDigitLimit, Bool.and_eq_true] at limit
      rw [indentedItems, List.cons_append, List.append_assoc, List.append_assoc, run?_cons,
        comma, Option.bind_some, run_lineBreak (value_stays _),
        run_indentedText (level + 1) item distinct.1 limit.1 _ _
          (fun _ => ends_indentedItems level rest _),
        run_indentedItems level rest distinct.2 limit.2]
      simp

/-- The rest of an object is read back. -/
theorem run_indentedMembers
    (level : ℕ)
    (entries : List (PyStr × PyVal))
    (distinct : PyVal.entriesKeysDistinct entries = true)
    (limit : entriesWithinDigitLimit entries = true)
    (frames : List Frame)
    (before : PyDict)
    (key : PyStr)
    (value : PyVal)
    (following : List CodePoint) :
    run? step? ⟨.member before key :: frames, .complete value⟩
      (indentedMembers level entries ++ following) =
      run? step? ⟨frames, .complete
        (.dict (PyDict.update (PyDict.set before key value) entries))⟩ following := by
  match entries with
  | [] =>
      rw [indentedMembers, List.append_assoc, run_lineBreak (complete_stays _ _)]
      rfl
  | (nextKey, member) :: rest =>
      have comma : step? ⟨.member before key :: frames, .complete value⟩ (point ',') =
          some ⟨frames, .nextKey (PyDict.set before key value)⟩ := rfl
      have stays : ∀ char, isSpace char = true →
          step? ⟨frames, .nextKey (PyDict.set before key value)⟩ char =
            some ⟨frames, .nextKey (PyDict.set before key value)⟩ :=
        fun char space => if_pos space
      have quote : step? ⟨frames, .nextKey (PyDict.set before key value)⟩ (point '"') =
          some ⟨frames, .string (.key (PyDict.set before key value)) ⟨[], none⟩⟩ := rfl
      have assoc : indentedMembers level ((nextKey, member) :: rest) ++ following =
          point ',' :: (lineBreak (level + 1) ++ point '"' ::
            (nextKey.chars.flatMap escapePoint ++ point '"' :: (chars ": " ++
              (indentedText (level + 1) member ++
                (indentedMembers level rest ++ following))))) := by
        simp [indentedMembers, stringText]
      simp only [PyVal.entriesKeysDistinct, Bool.and_eq_true] at distinct
      simp only [entriesWithinDigitLimit, Bool.and_eq_true] at limit
      rw [assoc, run?_cons, comma, Option.bind_some, run_lineBreak stays, run?_cons, quote,
        Option.bind_some, run_key,
        run_indentedText (level + 1) member distinct.1 limit.1 _ _
          (fun _ => ends_indentedMembers level rest _),
        run_indentedMembers level rest distinct.2 limit.2]
      rfl

end

/-- The text of an object and the line break after it are read as the object. -/
theorem loads_indentedText
    (entries : PyDict)
    (distinct : (PyVal.dict entries).keysDistinct = true)
    (limit : withinDigitLimit (.dict entries) = true) :
    loads ⟨indentedText 0 (.dict entries) ++ lineBreak 0⟩ = .ok (.dict entries) := by
  have read := run_indentedText 0 (.dict entries) distinct limit [] (lineBreak 0)
    (by simp [isNumber])
  have passed := run_lineBreak (complete_stays [] (.dict entries)) 0 []
  rw [List.append_nil] at passed
  have whole : run? step? start (indentedText 0 (.dict entries) ++ lineBreak 0) =
      some ⟨[], .complete (.dict entries)⟩ := read.trans passed
  simp only [loads, whole, Option.bind_some]
  rfl

/-! ## Encoding -/

theorem writable_lineBreak (level : ℕ) : Writable (lineBreak level) := by
  refine writable_of_ascii fun char member => ?_
  rcases List.mem_cons.mp member with rfl | blank
  · decide
  · rw [(List.mem_replicate.mp blank).2]
    decide

mutual

/-- The text of a value whose strings have an encoding has one. -/
theorem writable_indentedText
    (level : ℕ)
    (value : PyVal)
    (encodable : stringsEncodable value = true) :
    Writable (indentedText level value) := by
  match value with
  | .null => exact writable_text .null encodable
  | .bool flag => exact writable_text (.bool flag) encodable
  | .int number => exact writable_text (.int number) encodable
  | .float number => exact writable_text (.float number) encodable
  | .str string => exact writable_text (.str string) encodable
  | .list [] => exact writable_text (.list []) encodable
  | .dict [] => exact writable_text (.dict []) encodable
  | .list (item :: rest) =>
      simp only [stringsEncodable, itemsEncodable, Bool.and_eq_true] at encodable
      rw [indentedText]
      refine writable_cons.mpr ⟨by decide, writable_append.mpr
        ⟨?_, writable_indentedItems level rest encodable.2⟩⟩
      exact writable_append.mpr ⟨writable_lineBreak _,
        writable_indentedText (level + 1) item encodable.1⟩
  | .dict ((key, member) :: rest) =>
      simp only [stringsEncodable, entriesEncodable, Bool.and_eq_true] at encodable
      obtain ⟨⟨named, valued⟩, later⟩ := encodable
      rw [indentedText]
      refine writable_cons.mpr ⟨by decide, writable_append.mpr
        ⟨?_, writable_indentedMembers level rest later⟩⟩
      refine writable_append.mpr ⟨?_, writable_indentedText (level + 1) member valued⟩
      refine writable_append.mpr ⟨?_, writable_chars rfl⟩
      exact writable_append.mpr ⟨writable_lineBreak _, writable_stringText named⟩

theorem writable_indentedItems
    (level : ℕ)
    (items : List PyVal)
    (encodable : itemsEncodable items = true) :
    Writable (indentedItems level items) := by
  match items with
  | [] => exact writable_append.mpr ⟨writable_lineBreak level, writable_chars rfl⟩
  | item :: rest =>
      simp only [itemsEncodable, Bool.and_eq_true] at encodable
      rw [indentedItems]
      refine writable_cons.mpr ⟨by decide, writable_append.mpr
        ⟨?_, writable_indentedItems level rest encodable.2⟩⟩
      exact writable_append.mpr ⟨writable_lineBreak _,
        writable_indentedText (level + 1) item encodable.1⟩

theorem writable_indentedMembers
    (level : ℕ)
    (entries : List (PyStr × PyVal))
    (encodable : entriesEncodable entries = true) :
    Writable (indentedMembers level entries) := by
  match entries with
  | [] => exact writable_append.mpr ⟨writable_lineBreak level,
      writable_cons.mpr ⟨by decide, by simp [Writable]⟩⟩
  | (key, member) :: rest =>
      simp only [entriesEncodable, Bool.and_eq_true] at encodable
      obtain ⟨⟨named, valued⟩, later⟩ := encodable
      rw [indentedMembers]
      refine writable_cons.mpr ⟨by decide, writable_append.mpr
        ⟨?_, writable_indentedMembers level rest later⟩⟩
      refine writable_append.mpr ⟨?_, writable_indentedText (level + 1) member valued⟩
      refine writable_append.mpr ⟨?_, writable_chars rfl⟩
      exact writable_append.mpr ⟨writable_lineBreak _, writable_stringText named⟩

end

/-- What is in a file after a value was written to it. -/
def fileText (value : PyVal) : List CodePoint :=
  indentedText 0 (sortKeys value) ++ lineBreak 0

/-- An object that was written is read as the object with its keys sorted. -/
theorem read_fileText
    (entries : PyDict)
    (distinct : (PyVal.dict entries).keysDistinct = true)
    (limit : withinDigitLimit (.dict entries) = true)
    (encodable : stringsEncodable (.dict entries) = true) :
    (do
      let text ← Utf8.decode (Utf8.encodePoints (fileText (.dict entries)))
      loads ⟨text⟩) = .ok (sortKeys (.dict entries)) := by
  have writable : Writable (fileText (.dict entries)) := writable_append.mpr
    ⟨writable_indentedText 0 _ (stringsEncodable_sortKeys _ encodable), writable_lineBreak 0⟩
  have sortedDistinct := keysDistinct_sortKeys _ distinct
  have sortedLimit := withinDigitLimit_sortKeys _ limit
  rw [Utf8.decode_encodePoints writable, fileText]
  rw [sortKeys_dict] at sortedDistinct sortedLimit ⊢
  exact loads_indentedText _ sortedDistinct sortedLimit

end Maze.Python.Json
