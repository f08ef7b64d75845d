import Maze.Core.DagSpec
import Maze.Python.JsonReader

namespace Maze.Playground

open Maze.Library
open Maze.Python

/-!
# JavaScript values

The Playground gets its workflows as JSON and sends its specifications as JSON. A value is
what `JSON.parse` makes: a number is a double, infinite where the text is too large for one.
A string is identified with its code points, and `undefined` is an `Option` with no value.

An object has its own properties in the order that JavaScript lists them in, which is also
the order of `JSON.stringify`: array indices first.
-/

/-- A value that `JSON.parse` makes. -/
inductive JsVal where
  | null
  | bool (value : Bool)
  | number (value : PyFloat)
  | str (value : PyStr)
  | array (items : List JsVal)
  | object (properties : List (PyStr × JsVal))

namespace JsVal

/-- `value.key` of a value that is not `null`; no prototype has a key that is read. -/
def prop? : JsVal → PyStr → Option JsVal
  | .object properties, key => properties.lookup key
  | _, _ => none

/-- Whether a value counts as true. -/
def truthy : JsVal → Bool
  | .null => false
  | .bool value => value
  | .number .nan => false
  | .number (.infinity _) => true
  | .number (.finite _ magnitude) => magnitude.mantissa ≠ 0
  | .str value => !value.isEmpty
  | .array _ | .object _ => true

/-- `value && typeof value === 'object'`. -/
def isObject : JsVal → Bool
  | .array _ | .object _ => true
  | _ => false

end JsVal

/-- `value?.key`. -/
def optional
    (value : Option JsVal)
    (key : PyStr) :
    Option JsVal :=
  value.bind fun found => found.prop? key

/-- `first ?? second`. -/
def nullish : Option JsVal → Option JsVal → Option JsVal
  | none, second | some .null, second => second
  | first, _ => first

/-- `first || second`. -/
def either
    (first second : Option JsVal) :
    Option JsVal :=
  if first.any JsVal.truthy then first else second

/-- What `trim` takes away. -/
def isSpace (char : CodePoint) : Bool :=
  (0x09 ≤ char.val && char.val ≤ 0x0D) || char.val = 0x20 || char.val = 0xA0 ||
    char.val = 0x1680 || (0x2000 ≤ char.val && char.val ≤ 0x200A) || char.val = 0x2028 ||
    char.val = 0x2029 || char.val = 0x202F || char.val = 0x205F || char.val = 0x3000 ||
    char.val = 0xFEFF

/-- `text`: a string that is not blank. -/
def text : Option JsVal → Option PyStr
  | some (.str value) => if value.chars.all isSpace then none else some value
  | _ => none

/-- `value === text`. -/
def isText
    (value : Option JsVal)
    (text : PyStr) :
    Bool :=
  match value with
  | some (.str other) => other = text
  | _ => false

theorem text_eq_some
    {value : Option JsVal}
    {found : PyStr}
    (isFound : text value = some found) :
    value = some (.str found) ∧ found.isEmpty = false := by
  unfold text at isFound
  split at isFound
  · split at isFound
    · cases isFound
    · next solid =>
      cases isFound
      refine ⟨rfl, ?_⟩
      obtain ⟨chars⟩ := found
      cases chars with
      | nil => exact absurd rfl solid
      | cons first rest => rfl
  · cases isFound

/-! ## Objects -/

/-- An array index, as a key of an object. -/
def index? (key : PyStr) : Option ℕ :=
  let value := Json.digitsValue key.chars
  if key.chars = Json.natText value ∧ value < 2 ^ 32 - 1 then some value else none

/-- The first key is listed before the second one, whichever was set first. -/
def precedes (first second : PyStr) : Bool :=
  match index? first, index? second with
  | some first, some second => first < second
  | some _, none => true
  | none, _ => false

/-- Define an own property; one that is there keeps its place. -/
def put
    {Value : Type} :
    List (PyStr × Value) → PyStr → Value → List (PyStr × Value)
  | [], key, value => [(key, value)]
  | (other, old) :: rest, key, value =>
      if other = key then (other, value) :: rest
      else if precedes key other then (key, value) :: (other, old) :: rest
      else (other, old) :: put rest key value

/-- The key of an item. -/
def indexKey (index : ℕ) : PyStr :=
  ⟨Json.natText index⟩

/-- The UTF-16 code units of a string. -/
def codeUnits (chars : List CodePoint) : List CodePoint :=
  chars.flatMap fun char =>
    if char.val < 0x10000 then [char]
    else
      [Fin.ofNat 0x110000 (0xD800 + (char.val - 0x10000) / 0x400),
        Fin.ofNat 0x110000 (0xDC00 + (char.val - 0x10000) % 0x400)]

/-- `{ ...value }`. -/
def spread : JsVal → List (PyStr × JsVal)
  | .object properties => properties
  | .array items => items.zipIdx.map fun item => (indexKey item.2, item.1)
  | .str value =>
      (codeUnits value.chars).zipIdx.map fun unit => (indexKey unit.2, .str ⟨[unit.1]⟩)
  | _ => []

/-- `{ ...(value ?? {}) }`. -/
def spreadOptional (value : Option JsVal) : List (PyStr × JsVal) :=
  (nullish value none).elim [] spread

/-- `{ ...properties, ...more }`. -/
def assign (properties more : List (PyStr × JsVal)) : List (PyStr × JsVal) :=
  more.foldl (fun result property => put result property.1 property.2) properties

section Objects

variable {Value : Type}

theorem lookup_put
    (properties : List (PyStr × Value))
    (key wanted : PyStr)
    (value : Value) :
    (put properties key value).lookup wanted =
      if wanted = key then some value else properties.lookup wanted := by
  induction properties with
  | nil => simp [put, Dict.lookup_cons]
  | cons first rest inductionHypothesis =>
      obtain ⟨other, old⟩ := first
      unfold put
      split
      · next same =>
        subst same
        by_cases isKey : wanted = other <;> simp [Dict.lookup_cons, isKey]
      · next differ =>
        split
        · rw [Dict.lookup_cons]
        · rw [Dict.lookup_cons, Dict.lookup_cons, inductionHypothesis]
          by_cases isOther : wanted = other
          · simp [isOther, differ]
          · simp [isOther]

/-- A property that is not there is added once, wherever it is listed. -/
theorem put_perm
    {properties : List (PyStr × Value)}
    {key : PyStr}
    (absent : key ∉ properties.map Prod.fst)
    (value : Value) :
    (put properties key value).Perm ((key, value) :: properties) := by
  induction properties with
  | nil => exact List.Perm.refl _
  | cons first rest inductionHypothesis =>
      obtain ⟨other, old⟩ := first
      rw [List.map_cons, List.mem_cons, not_or] at absent
      have differ : ¬other = key := fun same => absent.1 same.symm
      unfold put
      rw [if_neg differ]
      split
      · exact List.Perm.refl _
      · exact ((inductionHypothesis absent.2).cons _).trans (List.Perm.swap _ _ _)

end Objects

/-! ## JSON -/

/-- What Python reads of a number: an integer, where it is written without a dot and an exponent. -/
def numberToJson : PyFloat → PyVal
  | .nan | .infinity _ => .null
  | .finite negative magnitude =>
      let digits := (Json.decimalDigits magnitude.mantissa).length
      if 0 ≤ magnitude.exponent ∧ digits + magnitude.exponent ≤ 21 then
        let value : ℤ := magnitude.mantissa * 10 ^ magnitude.exponent.toNat
        .int (if negative then -value else value)
      else
        .float (.finite negative magnitude)

namespace JsVal

mutual

/-- What Python reads of the text that `JSON.stringify` writes. -/
def toJson : JsVal → PyVal
  | .null => .null
  | .bool value => .bool value
  | .number value => numberToJson value
  | .str value => .str value
  | .array items => .list (itemsToJson items)
  | .object properties => .dict (propertiesToJson properties)

def itemsToJson : List JsVal → List PyVal
  | [] => []
  | item :: rest => item.toJson :: itemsToJson rest

def propertiesToJson : List (PyStr × JsVal) → PyDict
  | [] => []
  | (key, value) :: rest => (key, value.toJson) :: propertiesToJson rest

end

/-- The numbers are equal. -/
def SameNumber : PyFloat → PyVal → Prop
  | .finite negative magnitude, .int integer =>
      0 ≤ magnitude.exponent ∧
        integer = (if negative then -1 else 1) *
          (magnitude.mantissa * 10 ^ magnitude.exponent.toNat : ℤ)
  | value, .float other => value = other
  | _, _ => False

mutual

/-- The Python value is the JavaScript value. -/
def Same : JsVal → PyVal → Prop
  | .null, .null => True
  | .bool value, .bool other => value = other
  | .number value, other => SameNumber value other
  | .str value, .str other => value = other
  | .array items, .list others => SameItems items others
  | .object properties, .dict entries => SameProperties properties entries
  | _, _ => False

def SameItems : List JsVal → List PyVal → Prop
  | [], [] => True
  | item :: rest, other :: others => item.Same other ∧ SameItems rest others
  | _, _ => False

def SameProperties : List (PyStr × JsVal) → PyDict → Prop
  | [], [] => True
  | (key, value) :: rest, (otherKey, other) :: others =>
      key = otherKey ∧ value.Same other ∧ SameProperties rest others
  | _, _ => False

end

/-- A number that JSON can write. -/
def finiteNumber : PyFloat → Bool
  | .finite _ _ => true
  | _ => false

mutual

/-- No number in the value is infinite, or no number at all. -/
def finite : JsVal → Bool
  | .null | .bool _ | .str _ => true
  | .number value => finiteNumber value
  | .array items => finiteItems items
  | .object properties => finiteProperties properties

def finiteItems : List JsVal → Bool
  | [] => true
  | item :: rest => item.finite && finiteItems rest

def finiteProperties : List (PyStr × JsVal) → Bool
  | [] => true
  | (_, value) :: rest => value.finite && finiteProperties rest

end

theorem sameNumber_iff (value : PyFloat) :
    SameNumber value (numberToJson value) ↔ finiteNumber value = true := by
  cases value with
  | nan => simp [numberToJson, SameNumber, finiteNumber]
  | infinity negative => simp [numberToJson, SameNumber, finiteNumber]
  | finite negative magnitude =>
      simp only [numberToJson, finiteNumber, iff_true]
      split
      · next written =>
        refine ⟨written.1, ?_⟩
        cases negative <;> simp
      · rfl

mutual

/-- JSON keeps a value if it can write all of its numbers. -/
theorem same_iff : ∀ value : JsVal, value.Same value.toJson ↔ value.finite = true
  | .null => by simp [toJson, Same, finite]
  | .bool value => by simp [toJson, Same, finite]
  | .number value => by
      rw [toJson, Same, finite]
      exact sameNumber_iff value
  | .str value => by simp [toJson, Same, finite]
  | .array items => by
      rw [toJson, Same, finite]
      exact sameItems_iff items
  | .object properties => by
      rw [toJson, Same, finite]
      exact sameProperties_iff properties

theorem sameItems_iff :
    ∀ items : List JsVal, SameItems items (itemsToJson items) ↔ finiteItems items = true
  | [] => by simp [itemsToJson, SameItems, finiteItems]
  | item :: rest => by
      rw [itemsToJson, SameItems, finiteItems, Bool.and_eq_true, same_iff item,
        sameItems_iff rest]

theorem sameProperties_iff :
    ∀ properties : List (PyStr × JsVal),
      SameProperties properties (propertiesToJson properties) ↔
        finiteProperties properties = true
  | [] => by simp [propertiesToJson, SameProperties, finiteProperties]
  | (key, value) :: rest => by
      rw [propertiesToJson, SameProperties, finiteProperties, Bool.and_eq_true, same_iff value,
        sameProperties_iff rest]
      simp

end

end JsVal

end Maze.Playground
