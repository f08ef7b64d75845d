import Maze.Python.JsonRoundTrip
import Maze.Python.Utf8

namespace Maze.Python.Json

open Maze.Python.Utf8 (Writable writable_cons writable_append writable_iff)

/-!
# Which texts have an encoding

The text of a value is ASCII but for the characters of its strings, so it has an
encoding in UTF-8 exactly where its strings do. Only one direction is needed.
-/

mutual

/-- Every string in the value, the keys included, has an encoding. -/
def stringsEncodable : PyVal → Bool
  | .str string => string.encodable
  | .list items => itemsEncodable items
  | .dict entries => entriesEncodable entries
  | _ => true

/-- Every string in the items has an encoding. -/
def itemsEncodable : List PyVal → Bool
  | [] => true
  | item :: rest => stringsEncodable item && itemsEncodable rest

/-- Every string in the entries has an encoding. -/
def entriesEncodable : List (PyStr × PyVal) → Bool
  | [] => true
  | (key, value) :: rest =>
      key.encodable && stringsEncodable value && entriesEncodable rest

end

theorem entriesEncodable_iff
    (entries : List (PyStr × PyVal)) :
    entriesEncodable entries = true ↔
      ∀ entry ∈ entries,
        entry.1.encodable = true ∧ stringsEncodable entry.2 = true := by
  induction entries with
  | nil =>
      simp [entriesEncodable]
  | cons entry rest inductionHypothesis =>
      obtain ⟨key, value⟩ := entry
      simp [entriesEncodable, inductionHypothesis, and_assoc]

section Ascii

/-- A character of ASCII is no surrogate. -/
theorem writable_of_ascii
    {points : List CodePoint}
    (ascii : ∀ point ∈ points, point.val < 0x80) :
    Writable points := by
  intro point member
  have small := ascii point member
  simp only [PyStr.isSurrogate, Bool.and_eq_false_iff, decide_eq_false_iff_not]
  omega

theorem writable_chars
    {literal : String}
    (ascii : (chars literal).all (fun char => char.val < 0x80) = true) :
    Writable (chars literal) :=
  writable_of_ascii fun char member => by
    simpa using List.all_eq_true.mp ascii char member

theorem ascii_of_continuesNumber
    {char : CodePoint}
    (continues : continuesNumber char = true) :
    char.val < 0x80 := by
  simp only [continuesNumber, Bool.or_eq_true, decide_eq_true_eq] at continues
  rcases continues with ((((digit | rfl) | rfl) | rfl) | rfl) | rfl
  · simp only [isDigit, Bool.and_eq_true, decide_eq_true_eq] at digit
    omega
  all_goals decide

theorem writable_of_lexeme
    {lexeme : List CodePoint}
    (wellFormed : Lexeme lexeme) :
    Writable lexeme := by
  obtain ⟨first, rest, rfl, digit, continues⟩ := wellFormed
  refine writable_of_ascii fun char member => ?_
  rcases List.mem_cons.mp member with rfl | later
  · simp only [isDigit, Bool.and_eq_true, decide_eq_true_eq] at digit
    omega
  · exact ascii_of_continuesNumber (continues char later)

theorem writable_escapePoint
    {char : CodePoint}
    (encodable : PyStr.isSurrogate char = false) :
    Writable (escapePoint char) := by
  have hex : ∀ digit, digit < 0x10 →
      PyStr.isSurrogate (hexPoint digit) = false := by
    intro digit small
    have value := hexPoint_val small
    simp only [PyStr.isSurrogate, value, Bool.and_eq_false_iff,
      decide_eq_false_iff_not]
    split <;> omega
  have nil : Writable ([] : List CodePoint) := by simp [Writable]
  unfold escapePoint
  split_ifs with quote backslash backspace tab newline formFeed return' low
  · exact writable_chars rfl
  · exact writable_chars rfl
  · exact writable_chars rfl
  · exact writable_chars rfl
  · exact writable_chars rfl
  · exact writable_chars rfl
  · exact writable_chars rfl
  · refine writable_append.mpr ⟨writable_chars rfl, ?_⟩
    exact writable_cons.mpr ⟨hex _ (by omega),
      writable_cons.mpr ⟨hex _ (by omega), nil⟩⟩
  · exact writable_cons.mpr ⟨encodable, nil⟩

theorem writable_stringText
    {string : PyStr}
    (encodable : string.encodable = true) :
    Writable (stringText string) := by
  have all := (writable_iff string).mp encodable
  refine writable_cons.mpr ⟨by decide, writable_append.mpr ⟨?_, ?_⟩⟩
  · intro char member
    obtain ⟨original, origin, present⟩ := List.mem_flatMap.mp member
    exact writable_escapePoint (all original origin) char present
  · exact writable_cons.mpr ⟨by decide, by simp [Writable]⟩

end Ascii

mutual

/-- The text of a value whose strings have an encoding has one. -/
theorem writable_text
    (value : PyVal)
    (encodable : stringsEncodable value = true) :
    Writable (text value) := by
  match value with
  | .null => exact writable_chars rfl
  | .bool true => exact writable_chars rfl
  | .bool false => exact writable_chars rfl
  | .int (.ofNat magnitude) =>
      exact writable_of_lexeme (lexeme_natText magnitude)
  | .int (.negSucc magnitude) =>
      exact writable_cons.mpr ⟨by decide,
        writable_of_lexeme (lexeme_natText (magnitude + 1))⟩
  | .float .nan => exact writable_chars rfl
  | .float (.infinity true) => exact writable_chars rfl
  | .float (.infinity false) => exact writable_chars rfl
  | .float (.finite false magnitude) =>
      exact writable_of_lexeme (lexeme_decimalText magnitude)
  | .float (.finite true magnitude) =>
      exact writable_cons.mpr ⟨by decide,
        writable_of_lexeme (lexeme_decimalText magnitude)⟩
  | .str string => exact writable_stringText encodable
  | .list [] => exact writable_chars rfl
  | .list (item :: rest) =>
      simp only [stringsEncodable, itemsEncodable, Bool.and_eq_true] at encodable
      exact writable_cons.mpr ⟨by decide, writable_append.mpr
        ⟨writable_text item encodable.1,
          writable_followingItems rest encodable.2⟩⟩
  | .dict [] =>
      exact writable_cons.mpr ⟨by decide, writable_cons.mpr
        ⟨by decide, by simp [Writable]⟩⟩
  | .dict ((key, member) :: rest) =>
      simp only [stringsEncodable, entriesEncodable, Bool.and_eq_true] at encodable
      obtain ⟨⟨named, valued⟩, later⟩ := encodable
      refine writable_cons.mpr ⟨by decide, writable_append.mpr
        ⟨?_, writable_followingMembers rest later⟩⟩
      refine writable_append.mpr ⟨?_, writable_text member valued⟩
      exact writable_append.mpr ⟨writable_stringText named, writable_chars rfl⟩

theorem writable_followingItems
    (items : List PyVal)
    (encodable : itemsEncodable items = true) :
    Writable (followingItems items) := by
  match items with
  | [] => exact writable_chars rfl
  | item :: rest =>
      simp only [itemsEncodable, Bool.and_eq_true] at encodable
      refine writable_append.mpr ⟨?_, writable_followingItems rest encodable.2⟩
      exact writable_append.mpr
        ⟨writable_chars rfl, writable_text item encodable.1⟩

theorem writable_followingMembers
    (entries : List (PyStr × PyVal))
    (encodable : entriesEncodable entries = true) :
    Writable (followingMembers entries) := by
  match entries with
  | [] => exact writable_cons.mpr ⟨by decide, by simp [Writable]⟩
  | (key, member) :: rest =>
      simp only [entriesEncodable, Bool.and_eq_true] at encodable
      obtain ⟨⟨named, valued⟩, later⟩ := encodable
      refine writable_append.mpr ⟨?_, writable_followingMembers rest later⟩
      refine writable_append.mpr ⟨?_, writable_text member valued⟩
      refine writable_append.mpr ⟨?_, writable_chars rfl⟩
      exact writable_append.mpr ⟨writable_chars rfl, writable_stringText named⟩

end

mutual

/-- Sorting the keys keeps the strings. -/
theorem stringsEncodable_sortKeys
    (value : PyVal)
    (encodable : stringsEncodable value = true) :
    stringsEncodable (sortKeys value) = true := by
  match value with
  | .null | .bool _ | .int _ | .float _ => rfl
  | .str string => simpa [sortKeys] using encodable
  | .list items =>
      simp only [sortKeys, stringsEncodable] at encodable ⊢
      exact itemsEncodable_sortItems items encodable
  | .dict entries =>
      simp only [sortKeys, stringsEncodable] at encodable ⊢
      have sorted := entriesEncodable_sortValues entries encodable
      rw [entriesEncodable_iff] at sorted ⊢
      intro entry member
      exact sorted entry ((List.mem_insertionSort _).mp member)

theorem itemsEncodable_sortItems
    (items : List PyVal)
    (encodable : itemsEncodable items = true) :
    itemsEncodable (sortItems items) = true := by
  match items with
  | [] => rfl
  | item :: rest =>
      simp only [sortItems, itemsEncodable, Bool.and_eq_true] at encodable ⊢
      exact ⟨stringsEncodable_sortKeys item encodable.1,
        itemsEncodable_sortItems rest encodable.2⟩

theorem entriesEncodable_sortValues
    (entries : List (PyStr × PyVal))
    (encodable : entriesEncodable entries = true) :
    entriesEncodable (sortValues entries) = true := by
  match entries with
  | [] => rfl
  | (key, value) :: rest =>
      simp only [sortValues, entriesEncodable, Bool.and_eq_true] at encodable ⊢
      exact ⟨⟨encodable.1.1, stringsEncodable_sortKeys value encodable.1.2⟩,
        entriesEncodable_sortValues rest encodable.2⟩

end

/-- What `json.dumps` writes has an encoding where the strings have one. -/
theorem dumps_encodable
    {value : PyVal}
    (limit : withinDigitLimit value = true)
    (encodable : stringsEncodable value = true) :
    ∃ serialized, dumps value = .ok serialized ∧ serialized.encodable = true :=
  ⟨_, dumps_of_limit limit, (writable_iff _).mpr
    (writable_text _ (stringsEncodable_sortKeys value encodable))⟩

end Maze.Python.Json
