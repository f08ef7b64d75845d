import Mathlib.Data.List.Lex
import Mathlib.Data.List.Sort
import Mathlib.Data.Nat.Digits.Defs
import Maze.Python.Value

namespace Maze.Python.Json

/-!
# Writing JSON

`json.dumps(value, ensure_ascii=False, sort_keys=True)`: the separators are
`", "` and `": "`, only the quote, the backslash and the control characters are
escaped, and a float is written as `repr` writes it. An integer of more than
4300 digits has no text.
-/

/-- The code points of a literal text. -/
def chars (text : String) : List CodePoint :=
  (PyStr.ofString text).chars

/-- One code point of a literal text. -/
abbrev point (char : Char) : CodePoint :=
  PyStr.codePoint char

/-- The digits of a number, the most significant one first. -/
def decimalDigits (number : Nat) : List Nat :=
  if number = 0 then [0] else (Nat.digits 10 number).reverse

/-- The character of a decimal digit. -/
def digitPoint (digit : Nat) : CodePoint :=
  Fin.ofNat 0x110000 (0x30 + digit)

/-- The decimal text of a natural number. -/
def natText (number : Nat) : List CodePoint :=
  (decimalDigits number).map digitPoint

/-- `int.__repr__`. -/
def intText : Int → List CodePoint
  | .ofNat number => natText number
  | .negSucc number => point '-' :: natText (number + 1)

/-- The exponent of a float in scientific notation: a sign and two digits or more. -/
def exponentText (exponent : Int) : List CodePoint :=
  let digits := natText exponent.natAbs
  point 'e' :: (if exponent < 0 then point '-' else point '+') ::
    (if digits.length < 2 then point '0' :: digits else digits)

/-- `float.__repr__` of a finite nonnegative number. -/
def decimalText (magnitude : Decimal) : List CodePoint :=
  let digits := natText magnitude.mantissa
  let decimalPoint : Int := digits.length + magnitude.exponent
  if -4 < decimalPoint ∧ decimalPoint ≤ 16 then
    if decimalPoint ≤ 0 then
      point '0' :: point '.' ::
        (List.replicate (-decimalPoint).toNat (point '0') ++ digits)
    else if decimalPoint < digits.length then
      digits.take decimalPoint.toNat ++
        point '.' :: digits.drop decimalPoint.toNat
    else
      digits ++
        List.replicate (decimalPoint - digits.length).toNat (point '0') ++
        [point '.', point '0']
  else
    let fraction := digits.tail
    digits.take 1 ++
      (if fraction.isEmpty then [] else point '.' :: fraction) ++
      exponentText (decimalPoint - 1)

/-- The text of a float in JSON. -/
def floatText : PyFloat → List CodePoint
  | .nan => chars "NaN"
  | .infinity false => chars "Infinity"
  | .infinity true => chars "-Infinity"
  | .finite false magnitude => decimalText magnitude
  | .finite true magnitude => point '-' :: decimalText magnitude

/-- A hexadecimal digit in lower case. -/
def hexPoint (digit : Nat) : CodePoint :=
  if digit < 10 then digitPoint digit else Fin.ofNat 0x110000 (0x57 + digit)

/-- `ESCAPE_DCT`: the text of one character inside a string. -/
def escapePoint (char : CodePoint) : List CodePoint :=
  if char = point '"' then
    chars "\\\""
  else if char = point '\\' then
    chars "\\\\"
  else if char.val = 0x08 then
    chars "\\b"
  else if char.val = 0x09 then
    chars "\\t"
  else if char.val = 0x0A then
    chars "\\n"
  else if char.val = 0x0C then
    chars "\\f"
  else if char.val = 0x0D then
    chars "\\r"
  else if char.val < 0x20 then
    chars "\\u00" ++ [hexPoint (char.val / 0x10), hexPoint (char.val % 0x10)]
  else
    [char]

/-- The text of a string, quotes included. -/
def stringText (text : PyStr) : List CodePoint :=
  point '"' :: (text.chars.flatMap escapePoint ++ [point '"'])

mutual

/-- The text of a value whose keys are in the order they are written in. -/
def text : PyVal → List CodePoint
  | .null => chars "null"
  | .bool true => chars "true"
  | .bool false => chars "false"
  | .int number => intText number
  | .float number => floatText number
  | .str string => stringText string
  | .list [] => chars "[]"
  | .list (item :: rest) => point '[' :: (text item ++ followingItems rest)
  | .dict [] => [point '{', point '}']
  | .dict ((key, value) :: rest) =>
      point '{' :: (stringText key ++ chars ": " ++ text value ++
        followingMembers rest)

/-- The text of a list after one of its items. -/
def followingItems : List PyVal → List CodePoint
  | [] => chars "]"
  | item :: rest => chars ", " ++ text item ++ followingItems rest

/-- The text of an object after one of its members. -/
def followingMembers : List (PyStr × PyVal) → List CodePoint
  | [] => [point '}']
  | (key, value) :: rest =>
      chars ", " ++ stringText key ++ chars ": " ++ text value ++
        followingMembers rest

end

mutual

/-- Every integer in the value has at most 4300 digits. -/
def withinDigitLimit : PyVal → Bool
  | .int number => (decimalDigits number.natAbs).length ≤ 4300
  | .list items => itemsWithinDigitLimit items
  | .dict entries => entriesWithinDigitLimit entries
  | _ => true

/-- Every item is within the limit. -/
def itemsWithinDigitLimit : List PyVal → Bool
  | [] => true
  | item :: rest => withinDigitLimit item && itemsWithinDigitLimit rest

/-- Every member is within the limit. -/
def entriesWithinDigitLimit : List (PyStr × PyVal) → Bool
  | [] => true
  | (_, value) :: rest => withinDigitLimit value && entriesWithinDigitLimit rest

end

/-- The order in which `sort_keys=True` writes the members of an object. -/
def KeyLE (first second : PyStr × PyVal) : Prop :=
  first.1.chars ≤ second.1.chars

instance : DecidableRel KeyLE := fun first second =>
  inferInstanceAs (Decidable (first.1.chars ≤ second.1.chars))

mutual

/-- The value with the members of every object in the order of their keys. -/
def sortKeys : PyVal → PyVal
  | .list items => .list (sortItems items)
  | .dict entries => .dict ((sortValues entries).insertionSort KeyLE)
  | value => value

/-- Sort the keys of every item. -/
def sortItems : List PyVal → List PyVal
  | [] => []
  | item :: rest => sortKeys item :: sortItems rest

/-- Sort the keys inside every member. -/
def sortValues : List (PyStr × PyVal) → List (PyStr × PyVal)
  | [] => []
  | (key, value) :: rest => (key, sortKeys value) :: sortValues rest

end

/-- `json.dumps(value, ensure_ascii=False, sort_keys=True)`. -/
def dumps (value : PyVal) : Except PyErr PyStr :=
  if withinDigitLimit value then
    .ok ⟨text (sortKeys value)⟩
  else
    .error .valueError

theorem dumps_of_limit
    {value : PyVal}
    (limit : withinDigitLimit value = true) :
    dumps value = .ok ⟨text (sortKeys value)⟩ :=
  if_pos limit

example :
    dumps (.dict [("b", .list [.int (-12), .null]), ("a", .str "x\n\"")]) =
      .ok "\x7b\"a\": \"x\\n\\\"\", \"b\": [-12, null]\x7d" := by
  decide +kernel

end Maze.Python.Json
