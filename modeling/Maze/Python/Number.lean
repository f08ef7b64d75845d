import Mathlib.Algebra.Order.Round
import Mathlib.Data.Int.Log
import Mathlib.Data.Rat.Floor
import Maze.Python.Json

namespace Maze.Python

open Json

/-!
# Converting values to numbers

`float(value)` and `int(value)` of the values that a JSON document may hold. A
`float` is an IEEE double: a number is rounded to 53 bits, half to even. A text
may hold the decimal digits of any script, single underscores between digits and
surrounding white space.
-/

/-- The value of a `float`, the sign of zero aside. -/
inductive Double where
  | nan
  | infinity (negative : Bool)
  | finite (value : ℚ)
  deriving DecidableEq

namespace Double

/-- Round a nonnegative number to an integer, half to even. -/
def roundHalfEven (number : ℚ) : Int :=
  let lower := ⌊number⌋
  if number - lower < 1 / 2 then
    lower
  else if 1 / 2 < number - lower then
    lower + 1
  else if lower % 2 = 0 then
    lower
  else
    lower + 1

/-- The distance of neighbouring doubles around a positive number. -/
def spacing (number : ℚ) : ℚ :=
  (2 : ℚ) ^ max (Int.log 2 number - 52) (-1074)

/-- Round a number to a double. -/
def round (number : ℚ) : Double :=
  if number = 0 then
    .finite 0
  else
    let unit := spacing |number|
    let magnitude := roundHalfEven (|number| / unit) * unit
    if magnitude < 2 ^ 1024 then
      .finite (if number < 0 then -magnitude else magnitude)
    else
      .infinity (number < 0)

@[simp] theorem round_zero : round 0 = .finite 0 := by
  simp [round]

/-- The double that a `float` is. -/
def ofFloat : PyFloat → Double
  | .nan => .nan
  | .infinity negative => .infinity negative
  | .finite negative magnitude =>
      round ((if negative then -1 else 1) *
        magnitude.mantissa * (10 : ℚ) ^ magnitude.exponent)

/-- `float(number)` of an `int`. -/
def ofInt (number : Int) : Except PyErr Double :=
  match round number with
  | .finite value => .ok (.finite value)
  | _ => .error .overflowError

/-- `int(value)` of a `float`: towards zero. -/
def trunc : Double → Except PyErr Int
  | .nan => .error .valueError
  | .infinity _ => .error .overflowError
  | .finite value => .ok (if value < 0 then -⌊-value⌋ else ⌊value⌋)

/-- `math.ceil(value)`. -/
def ceil : Double → Except PyErr Int
  | .nan => .error .valueError
  | .infinity _ => .error .overflowError
  | .finite value => .ok ⌈value⌉

/-- `first * second` with a positive second factor. -/
def mul (first : Double) (second : ℚ) : Double :=
  match first with
  | .finite value => round (value * second)
  | other => other

end Double

namespace Number

/-- The zeros of the decimal digits of all scripts. -/
def digitZeros : List Nat :=
  [0x30, 0x660, 0x6f0, 0x7c0, 0x966, 0x9e6, 0xa66, 0xae6, 0xb66, 0xbe6, 0xc66,
    0xce6, 0xd66, 0xde6, 0xe50, 0xed0, 0xf20, 0x1040, 0x1090, 0x17e0, 0x1810,
    0x1946, 0x19d0, 0x1a80, 0x1a90, 0x1b50, 0x1bb0, 0x1c40, 0x1c50, 0xa620,
    0xa8d0, 0xa900, 0xa9d0, 0xa9f0, 0xaa50, 0xabf0, 0xff10, 0x104a0, 0x10d30,
    0x11066, 0x110f0, 0x11136, 0x111d0, 0x112f0, 0x11450, 0x114d0, 0x11650,
    0x116c0, 0x11730, 0x118e0, 0x11950, 0x11c50, 0x11d50, 0x11da0, 0x11f50,
    0x16a60, 0x16ac0, 0x16b50, 0x1d7ce, 0x1d7d8, 0x1d7e2, 0x1d7ec, 0x1d7f6,
    0x1e140, 0x1e2f0, 0x1e4f0, 0x1e950, 0x1fbf0]

/-- The value of a decimal digit. -/
def digit? (character : CodePoint) : Option Nat :=
  digitZeros.findSome? fun first =>
    if first ≤ character.val ∧ character.val < first + 10 then
      some (character.val - first)
    else
      none

/-- `str.isspace` of one character. -/
def isSpace (character : CodePoint) : Bool :=
  let code := character.val
  (9 ≤ code && code ≤ 13) || (0x1c ≤ code && code ≤ 0x20) || code = 0x85 ||
    code = 0xa0 || code = 0x1680 || (0x2000 ≤ code && code ≤ 0x200a) ||
    code = 0x2028 || code = 0x2029 || code = 0x202f || code = 0x205f ||
    code = 0x3000

/-- `str.strip`. -/
def strip (text : List CodePoint) : List CodePoint :=
  ((text.dropWhile isSpace).reverse.dropWhile isSpace).reverse

/-- The digits that may follow a digit, and the text behind them. -/
def moreDigits : List CodePoint → List Nat × List CodePoint
  | [] => ([], [])
  | first :: rest =>
      match digit? first with
      | some digit =>
          let (digits, behind) := moreDigits rest
          (digit :: digits, behind)
      | none =>
          match rest with
          | second :: _ =>
              if first = point '_' ∧ (digit? second).isSome then
                moreDigits rest
              else
                ([], first :: rest)
          | [] => ([], [first])

/-- Digits with single underscores between them, and the text behind them. -/
def digitPart (text : List CodePoint) : List Nat × List CodePoint :=
  match text.head?.bind digit? with
  | some _ => moreDigits text
  | none => ([], text)

/-- The number that decimal digits write. -/
def digitsValue (digits : List Nat) : Nat :=
  digits.foldl (fun value digit => 10 * value + digit) 0

/-- An optional sign; true for a minus. -/
def sign : List CodePoint → Bool × List CodePoint
  | first :: rest =>
      if first = point '-' then (true, rest)
      else if first = point '+' then (false, rest)
      else (false, first :: rest)
  | [] => (false, [])

/-- An ASCII letter in lower case. -/
def lower (character : CodePoint) : CodePoint :=
  if 0x41 ≤ character.val ∧ character.val ≤ 0x5a then character + 0x20
  else character

/-- The exponent at the end of a decimal text. -/
def exponent? : List CodePoint → Option Int
  | [] => some 0
  | first :: rest =>
      if lower first = point 'e' then
        let (negative, rest) := sign rest
        match digitPart rest with
        | ([], _) => none
        | (digits, []) =>
            some (if negative then -digitsValue digits else digitsValue digits)
        | _ => none
      else
        none

/-- A decimal text without its sign. -/
def decimal? (text : List CodePoint) : Option ℚ :=
  let (whole, rest) := digitPart text
  let (fraction, rest) :=
    match rest with
    | first :: behind =>
        if first = point '.' then digitPart behind else ([], rest)
    | [] => ([], [])
  if whole = [] ∧ fraction = [] then
    none
  else
    (exponent? rest).map fun exponent =>
      (digitsValue (whole ++ fraction) : ℚ) *
        (10 : ℚ) ^ (exponent - (fraction.length : Int))

/-- `float(text)`. -/
def floatOfText (text : PyStr) : Except PyErr Double :=
  let (negative, text) := sign (strip text.chars)
  let word := text.map lower
  if word = chars "inf" ∨ word = chars "infinity" then
    .ok (.infinity negative)
  else if word = chars "nan" then
    .ok .nan
  else
    match decimal? text with
    | some number => .ok (Double.round (if negative then -number else number))
    | none => .error .valueError

/-- `int(text)`; at most 4300 digits are converted. -/
def intOfText (text : PyStr) : Except PyErr Int :=
  let (negative, text) := sign (strip text.chars)
  match digitPart text with
  | ([], _) => .error .valueError
  | (digits, []) =>
      if 4300 < digits.length then .error .valueError
      else .ok (if negative then -digitsValue digits else digitsValue digits)
  | _ => .error .valueError

/-- `float(value)`. -/
def float : PyVal → Except PyErr Double
  | .bool value => .ok (.finite (if value then 1 else 0))
  | .int value => Double.ofInt value
  | .float value => .ok (Double.ofFloat value)
  | .str value => floatOfText value
  | .null | .list _ | .dict _ => .error .typeError

/-- `int(value)`. -/
def int : PyVal → Except PyErr Int
  | .bool value => .ok (if value then 1 else 0)
  | .int value => .ok value
  | .float value => (Double.ofFloat value).trunc
  | .str value => intOfText value
  | .null | .list _ | .dict _ => .error .typeError

/-- `int(float(value))`. -/
def intOfFloat (value : PyVal) : Except PyErr Int := do
  let number ← float value
  number.trunc

end Number

end Maze.Python
