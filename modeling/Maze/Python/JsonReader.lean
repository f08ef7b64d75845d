import Maze.Library.Transition
import Maze.Python.Json

namespace Maze.Python.Json

open Maze.Library.Transition

/-!
# Reading JSON

`json.loads` as a machine that reads one character at a time and keeps the
objects and lists that are still open. It accepts what the decoder of the
standard library accepts: JSON, and besides the constants `NaN`, `Infinity` and
`-Infinity`; a key given twice keeps its last value, and two escaped surrogates
that form a pair are one character.

A text that stops early leaves the machine in a state that says what is missing.
-/

/-- The whitespace between the tokens of a JSON text. -/
def isSpace (char : CodePoint) : Bool :=
  char = point ' ' || char.val = 0x09 || char.val = 0x0A || char.val = 0x0D

/-- A decimal digit. -/
def isDigit (char : CodePoint) : Bool :=
  0x30 ≤ char.val && char.val ≤ 0x39

/-- A character that may continue a number. -/
def continuesNumber (char : CodePoint) : Bool :=
  isDigit char || char = point '+' || char = point '-' ||
    char = point '.' || char = point 'e' || char = point 'E'

/-- The number that a list of digits denotes. -/
def digitsValue (digits : List CodePoint) : Nat :=
  digits.foldl (fun value digit => value * 10 + (digit.val - 0x30)) 0

/-- Drop the trailing zeros of a positive number. -/
def stripZeros
    (mantissa : Nat)
    (exponent : Int)
    (positive : 0 < mantissa) :
    Decimal :=
  if multiple : mantissa % 10 = 0 then
    stripZeros (mantissa / 10) (exponent + 1)
      (Nat.div_pos (Nat.le_of_dvd positive
        (Nat.dvd_of_mod_eq_zero multiple)) (by decide))
  else
    ⟨mantissa, exponent, Or.inl multiple⟩
termination_by mantissa
decreasing_by exact Nat.div_lt_self positive (by decide)

/-- The decimal `mantissa * 10 ^ exponent`. -/
def Decimal.ofScaled
    (mantissa : Nat)
    (exponent : Int) :
    Decimal :=
  if positive : 0 < mantissa then
    stripZeros mantissa exponent positive
  else
    ⟨0, 0, Or.inr ⟨rfl, rfl⟩⟩

/-- The digits after a decimal point, if there is one, and what follows. -/
def fraction? : List CodePoint → Option (Option (List CodePoint) × List CodePoint)
  | [] => some (none, [])
  | char :: rest =>
      if char = point '.' then
        let digits := rest.takeWhile isDigit
        if digits.isEmpty then
          none
        else
          some (some digits, rest.dropWhile isDigit)
      else
        some (none, char :: rest)

/-- The exponent that ends a number, if there is one. -/
def exponent? : List CodePoint → Option (Option Int)
  | [] => some none
  | char :: rest =>
      if char = point 'e' ∨ char = point 'E' then
        let negative := rest.head? = some (point '-')
        let digits :=
          if rest.head? = some (point '-') ∨ rest.head? = some (point '+') then
            rest.tail
          else
            rest
        if digits.isEmpty || !digits.all isDigit then
          none
        else
          some (some (if negative then -(digitsValue digits : Int)
            else digitsValue digits))
      else
        none

/-- The value of a number with its digits, its fraction and its exponent. -/
def assemble?
    (negative : Bool)
    (whole : List CodePoint)
    (fraction : Option (List CodePoint))
    (exponent : Option Int) :
    Option PyVal :=
  if fraction.isNone && exponent.isNone then
    if whole.length ≤ 4300 then
      some (.int (if negative then -(digitsValue whole : Int)
        else digitsValue whole))
    else
      none
  else
    let digits := fraction.getD []
    some (.float (.finite negative (Decimal.ofScaled
      (digitsValue (whole ++ digits))
      (exponent.getD 0 - digits.length))))

/-- The value of a number without its sign. -/
def unsigned?
    (negative : Bool)
    (lexeme : List CodePoint) :
    Option PyVal :=
  let whole := lexeme.takeWhile isDigit
  if whole.isEmpty || (whole.head? = some (point '0') && whole.length ≠ 1) then
    none
  else
    (fraction? (lexeme.dropWhile isDigit)).bind fun (fraction, rest) =>
      (exponent? rest).bind fun exponent =>
        assemble? negative whole fraction exponent

/-- The value of the text of a number. -/
def number? : List CodePoint → Option PyVal
  | [] => none
  | char :: rest =>
      if char = point '-' then unsigned? true rest
      else unsigned? false (char :: rest)

/-- The value of a hexadecimal digit. -/
def hexValue? (char : CodePoint) : Option Nat :=
  if isDigit char then
    some (char.val - 0x30)
  else if 0x61 ≤ char.val ∧ char.val ≤ 0x66 then
    some (char.val - 0x57)
  else if 0x41 ≤ char.val ∧ char.val ≤ 0x46 then
    some (char.val - 0x37)
  else
    none

/-- The character of a simple escape sequence. -/
def escaped? (char : CodePoint) : Option CodePoint :=
  if char = point '"' ∨ char = point '\\' ∨ char = point '/' then
    some char
  else if char = point 'b' then
    some (Fin.ofNat 0x110000 0x08)
  else if char = point 'f' then
    some (Fin.ofNat 0x110000 0x0C)
  else if char = point 'n' then
    some (Fin.ofNat 0x110000 0x0A)
  else if char = point 'r' then
    some (Fin.ofNat 0x110000 0x0D)
  else if char = point 't' then
    some (Fin.ofNat 0x110000 0x09)
  else
    none

/-- An object or a list whose end has not been read. -/
inductive Frame where
  | items (before : List PyVal)
  | member (before : PyDict) (key : PyStr)
  deriving DecidableEq

/-- What a string that is being read will be. -/
inductive Target where
  | value
  | key (before : PyDict)
  deriving DecidableEq

/-- The characters of a string so far, with an escaped high surrogate at its end. -/
structure Partial where
  read : List CodePoint
  high : Option CodePoint
  deriving DecidableEq

/-- What the machine has read of the innermost value. -/
inductive Mode where
  | value
  | firstItem
  | firstKey
  | nextKey (before : PyDict)
  | colon (before : PyDict) (key : PyStr)
  | string (target : Target) (content : Partial)
  | escape (target : Target) (content : Partial)
  | hex (target : Target) (content : Partial) (left value : Nat)
  | minus
  | number (lexeme : List CodePoint)
  | literal (expected : List CodePoint) (value : PyVal)
  | complete (value : PyVal)
  deriving DecidableEq

/-- The open values, innermost first, and the state inside the innermost one. -/
structure Reader where
  frames : List Frame
  mode : Mode
  deriving DecidableEq

namespace Partial

/-- The characters read, a lone high surrogate included. -/
def flush (content : Partial) : List CodePoint :=
  content.read ++ content.high.toList

/-- Read one character. -/
def push
    (content : Partial)
    (char : CodePoint) :
    Partial :=
  ⟨content.flush ++ [char], none⟩

/-- Read the character of a `\u` escape. -/
def pushEscaped
    (content : Partial)
    (value : Nat) :
    Partial :=
  match content.high with
  | some high =>
      if 0xDC00 ≤ value ∧ value ≤ 0xDFFF then
        ⟨content.read ++ [Fin.ofNat 0x110000
          (0x10000 + (high.val - 0xD800) * 0x400 + (value - 0xDC00))], none⟩
      else if 0xD800 ≤ value ∧ value ≤ 0xDBFF then
        ⟨content.flush, some (Fin.ofNat 0x110000 value)⟩
      else
        content.push (Fin.ofNat 0x110000 value)
  | none =>
      if 0xD800 ≤ value ∧ value ≤ 0xDBFF then
        ⟨content.read, some (Fin.ofNat 0x110000 value)⟩
      else
        content.push (Fin.ofNat 0x110000 value)

end Partial

/-- The first character of a value. -/
def startValue
    (frames : List Frame)
    (char : CodePoint) :
    Option Reader :=
  if char = point '"' then
    some ⟨frames, .string .value ⟨[], none⟩⟩
  else if char = point '{' then
    some ⟨frames, .firstKey⟩
  else if char = point '[' then
    some ⟨frames, .firstItem⟩
  else if char = point 'n' then
    some ⟨frames, .literal (chars "ull") .null⟩
  else if char = point 't' then
    some ⟨frames, .literal (chars "rue") (.bool true)⟩
  else if char = point 'f' then
    some ⟨frames, .literal (chars "alse") (.bool false)⟩
  else if char = point 'N' then
    some ⟨frames, .literal (chars "aN") (.float .nan)⟩
  else if char = point 'I' then
    some ⟨frames, .literal (chars "nfinity") (.float (.infinity false))⟩
  else if char = point '-' then
    some ⟨frames, .minus⟩
  else if isDigit char then
    some ⟨frames, .number [char]⟩
  else
    none

/-- The closing quote of a string. -/
def finishString
    (frames : List Frame)
    (content : Partial) :
    Target → Reader
  | .value => ⟨frames, .complete (.str ⟨content.flush⟩)⟩
  | .key before => ⟨frames, .colon before ⟨content.flush⟩⟩

/-- One character after a complete value. -/
def afterValue
    (frames : List Frame)
    (value : PyVal)
    (char : CodePoint) :
    Option Reader :=
  if isSpace char then
    some ⟨frames, .complete value⟩
  else
    match frames with
    | [] => none
    | .items before :: outer =>
        if char = point ',' then
          some ⟨.items (before ++ [value]) :: outer, .value⟩
        else if char = point ']' then
          some ⟨outer, .complete (.list (before ++ [value]))⟩
        else
          none
    | .member before key :: outer =>
        if char = point ',' then
          some ⟨outer, .nextKey (PyDict.set before key value)⟩
        else if char = point '}' then
          some ⟨outer, .complete (.dict (PyDict.set before key value))⟩
        else
          none

/-- Read one character. -/
def step?
    (reader : Reader)
    (char : CodePoint) :
    Option Reader :=
  let frames := reader.frames
  match reader.mode with
  | .value =>
      if isSpace char then some reader else startValue frames char
  | .firstItem =>
      if isSpace char then
        some reader
      else if char = point ']' then
        some ⟨frames, .complete (.list [])⟩
      else
        startValue (.items [] :: frames) char
  | .firstKey =>
      if isSpace char then
        some reader
      else if char = point '}' then
        some ⟨frames, .complete (.dict [])⟩
      else if char = point '"' then
        some ⟨frames, .string (.key []) ⟨[], none⟩⟩
      else
        none
  | .nextKey before =>
      if isSpace char then
        some reader
      else if char = point '"' then
        some ⟨frames, .string (.key before) ⟨[], none⟩⟩
      else
        none
  | .colon before key =>
      if isSpace char then
        some reader
      else if char = point ':' then
        some ⟨.member before key :: frames, .value⟩
      else
        none
  | .string target content =>
      if char = point '"' then
        some (finishString frames content target)
      else if char = point '\\' then
        some ⟨frames, .escape target content⟩
      else if char.val < 0x20 then
        none
      else
        some ⟨frames, .string target (content.push char)⟩
  | .escape target content =>
      if char = point 'u' then
        some ⟨frames, .hex target content 4 0⟩
      else
        (escaped? char).map fun meant =>
          ⟨frames, .string target (content.push meant)⟩
  | .hex target content left value =>
      (hexValue? char).map fun digit =>
        if left ≤ 1 then
          ⟨frames, .string target (content.pushEscaped (value * 16 + digit))⟩
        else
          ⟨frames, .hex target content (left - 1) (value * 16 + digit)⟩
  | .minus =>
      if char = point 'I' then
        some ⟨frames, .literal (chars "nfinity") (.float (.infinity true))⟩
      else if isDigit char then
        some ⟨frames, .number [point '-', char]⟩
      else
        none
  | .number lexeme =>
      if continuesNumber char then
        some ⟨frames, .number (lexeme ++ [char])⟩
      else
        (number? lexeme).bind fun value => afterValue frames value char
  | .literal expected value =>
      match expected with
      | [] => none
      | wanted :: rest =>
          if char = wanted then
            some (if rest.isEmpty then ⟨frames, .complete value⟩
              else ⟨frames, .literal rest value⟩)
          else
            none
  | .complete value => afterValue frames value char

section Steps

variable (frames : List Frame) (char : CodePoint)

theorem step?_value :
    step? ⟨frames, .value⟩ char =
      if isSpace char then some ⟨frames, .value⟩
      else startValue frames char := rfl

theorem step?_firstItem :
    step? ⟨frames, .firstItem⟩ char =
      if isSpace char then some ⟨frames, .firstItem⟩
      else if char = point ']' then some ⟨frames, .complete (.list [])⟩
      else startValue (.items [] :: frames) char := rfl

theorem step?_string
    (target : Target)
    (content : Partial) :
    step? ⟨frames, .string target content⟩ char =
      if char = point '"' then some (finishString frames content target)
      else if char = point '\\' then some ⟨frames, .escape target content⟩
      else if char.val < 0x20 then none
      else some ⟨frames, .string target (content.push char)⟩ := rfl

theorem step?_escape
    (target : Target)
    (content : Partial) :
    step? ⟨frames, .escape target content⟩ char =
      if char = point 'u' then some ⟨frames, .hex target content 4 0⟩
      else (escaped? char).map fun meant =>
        ⟨frames, .string target (content.push meant)⟩ := rfl

theorem step?_hex
    (target : Target)
    (content : Partial)
    (left value : Nat) :
    step? ⟨frames, .hex target content left value⟩ char =
      (hexValue? char).map fun digit =>
        if left ≤ 1 then
          ⟨frames, .string target (content.pushEscaped (value * 16 + digit))⟩
        else
          ⟨frames, .hex target content (left - 1) (value * 16 + digit)⟩ := rfl

theorem step?_minus :
    step? ⟨frames, .minus⟩ char =
      if char = point 'I' then
        some ⟨frames, .literal (chars "nfinity") (.float (.infinity true))⟩
      else if isDigit char then some ⟨frames, .number [point '-', char]⟩
      else none := rfl

theorem step?_number
    (lexeme : List CodePoint) :
    step? ⟨frames, .number lexeme⟩ char =
      if continuesNumber char then some ⟨frames, .number (lexeme ++ [char])⟩
      else (number? lexeme).bind fun value =>
        afterValue frames value char := rfl

theorem step?_complete
    (value : PyVal) :
    step? ⟨frames, .complete value⟩ char = afterValue frames value char := rfl

end Steps

/-- The reader in front of a text. -/
def start : Reader :=
  ⟨[], .value⟩

/-- The value of a text that ends here. -/
def finish? (reader : Reader) : Option PyVal :=
  match reader.frames, reader.mode with
  | [], .complete value => some value
  | [], .number lexeme => number? lexeme
  | _, _ => none

/-- `json.loads(text)`. -/
def loads (text : PyStr) : Except PyErr PyVal :=
  match (run? step? start text.chars).bind finish? with
  | some value => .ok value
  | none => .error .valueError

example :
    loads "\x7b\"a\": [1, -2.50e1, \"\\ud83d\\ude00\"], \"a\": null\x7d" =
      .ok (.dict [("a", .null)]) := by
  decide +kernel

end Maze.Python.Json
