import Maze.Python.JsonNumber

namespace Maze.Python

open Maze.Python.Json (point digitPoint isDigit digitsValue)

/-!
# Dates and times

`datetime` as far as events use it: the text that `isoformat` writes for an
instant in UTC, the texts that `fromisoformat` reads, and `timestamp`.
-/

/-- The fields of a `datetime`. -/
structure DateTime where
  year : Nat
  month : Nat
  day : Nat
  hour : Nat
  minute : Nat
  second : Nat
  microsecond : Nat
  deriving DecidableEq

namespace DateTime

/-- A leap year of the Gregorian calendar. -/
def isLeap (year : Nat) : Bool :=
  year % 4 = 0 && (year % 100 ≠ 0 || year % 400 = 0)

/-- The number of days of a month. -/
def daysInMonth (year month : Nat) : Nat :=
  if month = 2 then
    if isLeap year then 29 else 28
  else if month = 4 ∨ month = 6 ∨ month = 9 ∨ month = 11 then
    30
  else
    31

/-- The checks of the constructor. -/
def isValid (moment : DateTime) : Bool :=
  1 ≤ moment.year && moment.year ≤ 9999 &&
    1 ≤ moment.month && moment.month ≤ 12 &&
    1 ≤ moment.day && moment.day ≤ daysInMonth moment.year moment.month &&
    moment.hour < 24 && moment.minute < 60 && moment.second < 60 &&
    moment.microsecond < 1000000

/-- `toordinal` of the date. -/
def ordinal (moment : DateTime) : Nat :=
  let before := moment.year - 1
  let monthDays := ((List.range moment.month).drop 1).map
    (daysInMonth moment.year)
  before * 365 + before / 4 - before / 100 + before / 400 +
    monthDays.sum + moment.day

/-- The seconds since the epoch of an instant with its offset from UTC. -/
def timestamp
    (moment : DateTime)
    (offset : ℚ) :
    ℚ :=
  ((moment.ordinal : ℚ) - 719163) * 86400 + moment.hour * 3600 +
    moment.minute * 60 + moment.second + moment.microsecond / 1000000 - offset

/-- A number with a fixed count of digits. -/
def padded : Nat → Nat → List CodePoint
  | 0, _ => []
  | count + 1, number => padded count (number / 10) ++ [digitPoint (number % 10)]

/-- `isoformat()` of an instant in UTC. -/
def isoFormat (moment : DateTime) : PyStr :=
  ⟨padded 4 moment.year ++ point '-' :: (padded 2 moment.month ++
    point '-' :: (padded 2 moment.day ++ point 'T' :: (padded 2 moment.hour ++
      point ':' :: (padded 2 moment.minute ++ point ':' ::
        (padded 2 moment.second ++
          ((if moment.microsecond = 0 then []
            else point '.' :: padded 6 moment.microsecond) ++
            Json.chars "+00:00"))))))⟩

/-- Read a number with a fixed count of digits. -/
def digits?
    (count : Nat)
    (text : List CodePoint) :
    Option (Nat × List CodePoint) :=
  let digits := text.take count
  if digits.length = count ∧ digits.all isDigit then
    some (digitsValue digits, text.drop count)
  else
    none

/-- The fraction of a second: three or six digits. -/
def fraction? : List CodePoint → Option (Nat × List CodePoint)
  | [] => some (0, [])
  | char :: rest =>
      if char = point '.' then
        match digits? 6 rest with
        | some read => some read
        | none => (digits? 3 rest).map fun (value, rest) => (value * 1000, rest)
      else
        some (0, char :: rest)

/-- An optional field after a colon. -/
def colonField? : List CodePoint → Option (Option Nat × List CodePoint)
  | [] => some (none, [])
  | char :: rest =>
      if char = point ':' then
        (digits? 2 rest).map fun (value, rest) => (some value, rest)
      else
        some (none, char :: rest)

/-- `HH[:MM[:SS[.fff[fff]]]]`: the hour, the other fields and what follows. -/
def clock?
    (text : List CodePoint) :
    Option ((Nat × Option Nat × Nat × Nat) × List CodePoint) := do
  let (hour, rest) ← digits? 2 text
  let (minute, rest) ← colonField? rest
  if minute.isNone then
    return ((hour, none, 0, 0), rest)
  let (second, rest) ← colonField? rest
  if second.isNone then
    return ((hour, minute, 0, 0), rest)
  let (microsecond, rest) ← fraction? rest
  return ((hour, minute, second.getD 0, microsecond), rest)

/-- The offset from UTC that ends a text, in seconds. -/
def offset? : List CodePoint → Option (Option ℚ)
  | [] => some none
  | sign :: rest =>
      if sign = point '+' ∨ sign = point '-' then do
        let ((hour, minute, second, microsecond), rest) ← clock? rest
        if minute.isNone ∨ rest ≠ [] ∨ 24 ≤ hour then none else
        let seconds : ℚ := hour * 3600 + (minute.getD 0) * 60 + second +
          microsecond / 1000000
        some (some (if sign = point '-' then -seconds else seconds))
      else
        none

/-- `datetime.fromisoformat`: the fields, and the offset of an aware time. -/
def fromIsoFormat?
    (text : PyStr) :
    Option (DateTime × Option ℚ) := do
  let (year, rest) ← digits? 4 text.chars
  let rest ← if rest.head? = some (point '-') then some rest.tail else none
  let (month, rest) ← digits? 2 rest
  let rest ← if rest.head? = some (point '-') then some rest.tail else none
  let (day, rest) ← digits? 2 rest
  let ((hour, minute, second, microsecond), rest) ←
    if rest = [] then some ((0, none, 0, 0), []) else clock? rest.tail
  let offset ← offset? rest
  let moment : DateTime :=
    ⟨year, month, day, hour, minute.getD 0, second, microsecond⟩
  if moment.isValid then some (moment, offset) else none

/-- `text.replace("Z", "+00:00")`. -/
def replaceZulu (text : PyStr) : PyStr :=
  ⟨text.chars.flatMap fun char =>
    if char = point 'Z' then Json.chars "+00:00" else [char]⟩

/-! ## Reading back an instant in UTC -/

theorem digits_padded
    (count number : Nat) :
    Json.Digits (padded count number) := by
  induction count generalizing number with
  | zero =>
      simp [padded, Json.Digits]
  | succ count inductionHypothesis =>
      apply Json.digits_append (inductionHypothesis (number / 10))
      intro digit member
      obtain rfl := List.mem_singleton.mp member
      exact Json.isDigit_digitPoint (Nat.mod_lt _ (by decide))

@[simp] theorem length_padded
    (count number : Nat) :
    (padded count number).length = count := by
  induction count generalizing number with
  | zero =>
      rfl
  | succ count inductionHypothesis =>
      simp [padded, inductionHypothesis]

theorem digitsValue_padded
    {count number : Nat}
    (small : number < 10 ^ count) :
    digitsValue (padded count number) = number := by
  induction count generalizing number with
  | zero =>
      have zero : number = 0 := by simpa using small
      subst zero
      rfl
  | succ count inductionHypothesis =>
      have quotient : number / 10 < 10 ^ count := by
        rw [pow_succ] at small
        omega
      have digit : digitsValue [digitPoint (number % 10)] = number % 10 := by
        have value := Json.digitPoint_val (Nat.mod_lt number (by decide))
        simp only [digitsValue, List.foldl_cons, List.foldl_nil, value]
        omega
      rw [padded, Json.digitsValue_append, inductionHypothesis quotient, digit,
        List.length_singleton]
      omega

/-- A padded number is read back. -/
theorem digits?_padded
    {count number : Nat}
    (small : number < 10 ^ count)
    (rest : List CodePoint) :
    digits? count (padded count number ++ rest) = some (number, rest) := by
  have taken : (padded count number ++ rest).take count =
      padded count number := by
    rw [List.take_append_of_le_length (by simp), List.take_of_length_le (by simp)]
  have dropped : (padded count number ++ rest).drop count = rest := by
    rw [List.drop_append_of_le_length (by simp), List.drop_of_length_le (by simp),
      List.nil_append]
  have areDigits : (padded count number).all isDigit = true :=
    List.all_eq_true.mpr (digits_padded count number)
  simp only [digits?, taken, dropped, length_padded, areDigits, and_self,
    if_true, digitsValue_padded small]

/-- The fraction of a second is read up to the offset. -/
theorem fraction?_isoFormat
    {microsecond : Nat}
    (small : microsecond < 1000000) :
    fraction? ((if microsecond = 0 then []
      else point '.' :: padded 6 microsecond) ++ Json.chars "+00:00") =
      some (microsecond, Json.chars "+00:00") := by
  split
  · next zero =>
    subst zero
    rfl
  · rw [List.cons_append, fraction?, if_pos rfl, digits?_padded small]

/-- The time of day is read up to the offset. -/
theorem clock?_isoFormat
    {hour minute second microsecond : Nat}
    (hourSmall : hour < 24)
    (minuteSmall : minute < 60)
    (secondSmall : second < 60)
    (microsecondSmall : microsecond < 1000000) :
    clock? (padded 2 hour ++ point ':' :: (padded 2 minute ++ point ':' ::
      (padded 2 second ++ ((if microsecond = 0 then []
        else point '.' :: padded 6 microsecond) ++ Json.chars "+00:00")))) =
      some ((hour, some minute, second, microsecond),
        Json.chars "+00:00") := by
  have hourRead := digits?_padded (show hour < 10 ^ 2 by omega)
  have minuteRead := digits?_padded (show minute < 10 ^ 2 by omega)
  have secondRead := digits?_padded (show second < 10 ^ 2 by omega)
  simp only [clock?, hourRead, colonField?, if_true, minuteRead, secondRead,
    fraction?_isoFormat microsecondSmall, Option.map_some, Option.bind_eq_bind,
    Option.bind_some]
  rfl

/-- `fromisoformat` reads back what `isoformat` wrote. -/
theorem fromIsoFormat?_isoFormat
    (moment : DateTime)
    (valid : moment.isValid = true) :
    fromIsoFormat? moment.isoFormat = some (moment, some 0) := by
  have bounds := valid
  simp only [isValid, Bool.and_eq_true, decide_eq_true_eq] at bounds
  obtain ⟨⟨⟨⟨⟨⟨⟨⟨⟨_, yearSmall⟩, _⟩, monthSmall⟩, _⟩, daySmall⟩, hourSmall⟩,
    minuteSmall⟩, secondSmall⟩, microsecondSmall⟩ := bounds
  have monthDays : daysInMonth moment.year moment.month ≤ 31 := by
    unfold daysInMonth
    split_ifs <;> omega
  have yearRead := digits?_padded (show moment.year < 10 ^ 4 by omega)
  have monthRead := digits?_padded (show moment.month < 10 ^ 2 by omega)
  have dayRead := digits?_padded (show moment.day < 10 ^ 2 by omega)
  have clockRead := clock?_isoFormat hourSmall minuteSmall secondSmall
    microsecondSmall
  have offsetRead : offset? (Json.chars "+00:00") = some (some 0) := by
    decide +kernel
  simp only [fromIsoFormat?, isoFormat, yearRead, monthRead, dayRead,
    List.head?_cons, List.tail_cons, if_true, clockRead, offsetRead,
    Option.bind_eq_bind, Option.bind_some, reduceCtorEq, if_false,
    Option.getD_some, valid]

theorem replaceZulu_of_notMem
    {text : PyStr}
    (absent : point 'Z' ∉ text.chars) :
    replaceZulu text = text := by
  have kept : ∀ chars : List CodePoint, point 'Z' ∉ chars →
      (chars.flatMap fun char =>
        if char = point 'Z' then Json.chars "+00:00" else [char]) = chars := by
    intro chars absent
    induction chars with
    | nil =>
        rfl
    | cons char rest inductionHypothesis =>
        simp only [List.mem_cons, not_or] at absent
        rw [List.flatMap_cons, if_neg (Ne.symm absent.1),
          inductionHypothesis absent.2]
        rfl
  exact congrArg PyStr.mk (kept text.chars absent)

/-- The text of an instant in UTC has no `Z`. -/
theorem replaceZulu_isoFormat
    (moment : DateTime) :
    replaceZulu moment.isoFormat = moment.isoFormat := by
  apply replaceZulu_of_notMem
  have noDigit : ∀ count number, point 'Z' ∉ padded count number := by
    intro count number member
    exact absurd (digits_padded count number _ member) (by decide)
  have noOffset : point 'Z' ∉ Json.chars "+00:00" := by decide
  have dash : point 'Z' ≠ point '-' := by decide
  have letter : point 'Z' ≠ point 'T' := by decide
  have colon : point 'Z' ≠ point ':' := by decide
  have period : point 'Z' ≠ point '.' := by decide
  simp only [isoFormat, List.mem_append, List.mem_cons, noDigit, noOffset,
    dash, letter, colon, false_or, or_false]
  split <;> simp [noDigit, period]

theorem isoFormat_nonempty
    (moment : DateTime) :
    moment.isoFormat.isEmpty = false := by
  simp [isoFormat, PyStr.isEmpty]

end DateTime

end Maze.Python
