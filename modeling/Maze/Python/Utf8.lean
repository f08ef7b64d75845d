import Maze.Python.Value

namespace Maze.Python.Utf8

/-!
# UTF-8

`str.encode("utf-8")` and the strict decoder of a file opened as UTF-8 text. The
decoder reads one byte at a time and keeps the unfinished character, so that a
text cut at any byte is described by the state the cut leaves behind.
-/

/-- One byte of a file. -/
abbrev Byte := Fin 256

instance bytes_neZero : NeZero 256 := ⟨by decide⟩

/-- The byte with a given value. -/
def byte (value : Nat) : Byte :=
  Fin.ofNat 256 value

@[simp] theorem byte_val
    {value : Nat}
    (small : value < 256) :
    (byte value).val = value := by
  simp [byte, Nat.mod_eq_of_lt small]

/-- The bytes of one code point. -/
def encodePoint (point : CodePoint) : List Byte :=
  if point.val < 0x80 then
    [byte point.val]
  else if point.val < 0x800 then
    [byte (0xC0 + point.val / 0x40), byte (0x80 + point.val % 0x40)]
  else if point.val < 0x10000 then
    [byte (0xE0 + point.val / 0x1000),
      byte (0x80 + point.val / 0x40 % 0x40),
      byte (0x80 + point.val % 0x40)]
  else
    [byte (0xF0 + point.val / 0x40000),
      byte (0x80 + point.val / 0x1000 % 0x40),
      byte (0x80 + point.val / 0x40 % 0x40),
      byte (0x80 + point.val % 0x40)]

/-- The bytes of a list of code points. -/
def encodePoints (points : List CodePoint) : List Byte :=
  points.flatMap encodePoint

/-- `text.encode("utf-8")`: a surrogate has no encoding. -/
def encode (text : PyStr) : Except PyErr (List Byte) :=
  if text.encodable then
    .ok (encodePoints text.chars)
  else
    .error .unicodeError

/-- What the decoder has read of the current character. -/
inductive Decoding where
  | boundary
  | within (left : Nat) (value : Nat) (low high : Nat)
  deriving DecidableEq

/-- The first byte of a character. -/
def firstByte (lead : Byte) : Option (Decoding × Option CodePoint) :=
  if small : lead.val < 0x80 then
    some (.boundary, some ⟨lead.val, by omega⟩)
  else if 0xC2 ≤ lead.val ∧ lead.val ≤ 0xDF then
    some (.within 1 (lead.val - 0xC0) 0x80 0xBF, none)
  else if lead.val = 0xE0 then
    some (.within 2 0 0xA0 0xBF, none)
  else if lead.val = 0xED then
    some (.within 2 0xD 0x80 0x9F, none)
  else if 0xE1 ≤ lead.val ∧ lead.val ≤ 0xEF then
    some (.within 2 (lead.val - 0xE0) 0x80 0xBF, none)
  else if lead.val = 0xF0 then
    some (.within 3 0 0x90 0xBF, none)
  else if lead.val = 0xF4 then
    some (.within 3 4 0x80 0x8F, none)
  else if 0xF1 ≤ lead.val ∧ lead.val ≤ 0xF3 then
    some (.within 3 (lead.val - 0xF0) 0x80 0xBF, none)
  else
    none

/-- One byte: the new state and the character that it completes. -/
def stepByte :
    Decoding → Byte → Option (Decoding × Option CodePoint)
  | .boundary, lead => firstByte lead
  | .within left value low high, next =>
      if low ≤ next.val ∧ next.val ≤ high then
        let extended := value * 0x40 + (next.val - 0x80)
        if left ≤ 1 then
          if valid : extended < 0x110000 then
            some (.boundary, some ⟨extended, valid⟩)
          else
            none
        else
          some (.within (left - 1) extended 0x80 0xBF, none)
      else
        none

/-- Decode from a state; the bytes must not end inside a character. -/
def decodeFrom : Decoding → List Byte → Option (List CodePoint)
  | .boundary, [] => some []
  | .within _ _ _ _, [] => none
  | state, next :: rest =>
      (stepByte state next).bind fun (state, completed) =>
        (decodeFrom state rest).map fun points => completed.toList ++ points

/-- `bytes.decode("utf-8")`, also that of a text file. -/
def decode (bytes : List Byte) : Except PyErr (List CodePoint) :=
  match decodeFrom .boundary bytes with
  | some points => .ok points
  | none => .error .unicodeError

@[simp] theorem decodeFrom_boundary_nil :
    decodeFrom .boundary [] = some [] := rfl

@[simp] theorem decodeFrom_within_nil
    (left value low high : Nat) :
    decodeFrom (.within left value low high) [] = none := rfl

@[simp] theorem decodeFrom_cons
    (state : Decoding)
    (next : Byte)
    (rest : List Byte) :
    decodeFrom state (next :: rest) =
      (stepByte state next).bind fun (state, completed) =>
        (decodeFrom state rest).map
          fun points => completed.toList ++ points := by
  cases state <;> rfl

/-- A continuation byte that is not the last one of its character. -/
theorem stepByte_continue
    {left value low high payload : Nat}
    (inner : 1 < left)
    (small : payload < 0x40)
    (above : low ≤ 0x80 + payload)
    (below : 0x80 + payload ≤ high) :
    stepByte (.within left value low high) (byte (0x80 + payload)) =
      some (.within (left - 1) (value * 0x40 + payload) 0x80 0xBF, none) := by
  have sameByte : (byte (0x80 + payload)).val = 0x80 + payload :=
    byte_val (by omega)
  simp [stepByte, sameByte, above, below, Nat.not_le.mpr inner]

/-- The last byte of a character completes it. -/
theorem stepByte_last
    {value low high payload : Nat}
    (point : CodePoint)
    (small : payload < 0x40)
    (above : low ≤ 0x80 + payload)
    (below : 0x80 + payload ≤ high)
    (same : value * 0x40 + payload = point.val) :
    stepByte (.within 1 value low high) (byte (0x80 + payload)) =
      some (.boundary, some point) := by
  have sameByte : (byte (0x80 + payload)).val = 0x80 + payload :=
    byte_val (by omega)
  simp [stepByte, sameByte, above, below, same]

/-- The bounds on the second byte that a lead byte of three sets. -/
def secondOfThree (high4 : Nat) : Nat × Nat :=
  (if high4 = 0 then 0xA0 else 0x80, if high4 = 0xD then 0x9F else 0xBF)

/-- The bounds on the second byte that a lead byte of four sets. -/
def secondOfFour (high3 : Nat) : Nat × Nat :=
  (if high3 = 0 then 0x90 else 0x80, if high3 = 4 then 0x8F else 0xBF)

theorem firstByte_ascii
    (point : CodePoint)
    (ascii : point.val < 0x80) :
    firstByte (byte point.val) = some (.boundary, some point) := by
  have sameByte : (byte point.val).val = point.val := byte_val (by omega)
  simp [firstByte, sameByte, ascii]

theorem firstByte_two
    {payload : Nat}
    (notOverlong : 2 ≤ payload)
    (small : payload < 0x20) :
    firstByte (byte (0xC0 + payload)) =
      some (.within 1 payload 0x80 0xBF, none) := by
  have sameByte : (byte (0xC0 + payload)).val = 0xC0 + payload :=
    byte_val (by omega)
  have lower : 0xC2 ≤ 0xC0 + payload := by omega
  have upper : 0xC0 + payload ≤ 0xDF := by omega
  have large : ¬ 0xC0 + payload < 0x80 := by omega
  simp [firstByte, sameByte, lower, upper, large]

theorem firstByte_three
    {payload : Nat}
    (small : payload < 0x10) :
    firstByte (byte (0xE0 + payload)) =
      some (.within 2 payload (secondOfThree payload).1
        (secondOfThree payload).2, none) := by
  have sameByte : (byte (0xE0 + payload)).val = 0xE0 + payload :=
    byte_val (by omega)
  unfold firstByte secondOfThree
  simp only [sameByte]
  split_ifs <;> first | omega | simp_all

theorem firstByte_four
    {payload : Nat}
    (small : payload < 5) :
    firstByte (byte (0xF0 + payload)) =
      some (.within 3 payload (secondOfFour payload).1
        (secondOfFour payload).2, none) := by
  have sameByte : (byte (0xF0 + payload)).val = 0xF0 + payload :=
    byte_val (by omega)
  unfold firstByte secondOfFour
  simp only [sameByte]
  split_ifs <;> first | omega | simp_all

/-- The bytes take the decoder through one whole character. -/
def Completes
    (point : CodePoint) :
    Decoding → List Byte → Prop
  | _, [] => False
  | state, [last] => stepByte state last = some (.boundary, some point)
  | state, next :: rest =>
      ∃ left value low high,
        stepByte state next = some (.within left value low high, none) ∧
          Completes point (.within left value low high) rest

/-- The encoding of a character that has one is read as that character. -/
theorem completes_encodePoint
    (point : CodePoint)
    (encodable : PyStr.isSurrogate point = false) :
    Completes point .boundary (encodePoint point) := by
  have range := point.isLt
  have outside : point.val < 0xD800 ∨ 0xDFFF < point.val := by
    simp only [PyStr.isSurrogate, Bool.and_eq_false_iff,
      decide_eq_false_iff_not] at encodable
    omega
  unfold encodePoint
  split
  · next ascii =>
    exact firstByte_ascii point ascii
  · next large =>
    split
    · next two =>
      refine ⟨_, _, _, _, firstByte_two (by omega) (by omega), ?_⟩
      exact stepByte_last point (by omega) (by omega) (by omega) (by omega)
    · next large =>
      split
      · next three =>
        refine ⟨_, _, _, _, firstByte_three (by omega), ?_⟩
        refine ⟨_, _, _, _, stepByte_continue (by omega) (by omega) ?_ ?_, ?_⟩
        · unfold secondOfThree
          split <;> simp only <;> omega
        · unfold secondOfThree
          split_ifs <;> simp only <;> omega
        · exact stepByte_last point
            (by omega) (by omega) (by omega) (by omega)
      · next large =>
        refine ⟨_, _, _, _, firstByte_four (by omega), ?_⟩
        refine ⟨_, _, _, _, stepByte_continue (by omega) (by omega) ?_ ?_, ?_⟩
        · unfold secondOfFour
          split <;> simp only <;> omega
        · unfold secondOfFour
          split_ifs <;> simp only <;> omega
        · refine ⟨_, _, _, _, stepByte_continue
            (by omega) (by omega) (by omega) (by omega), ?_⟩
          exact stepByte_last point
            (by omega) (by omega) (by omega) (by omega)

/-- A whole character followed by other bytes. -/
theorem decodeFrom_of_completes
    {point : CodePoint}
    {state : Decoding}
    {bytes : List Byte}
    (completes : Completes point state bytes)
    (rest : List Byte) :
    decodeFrom state (bytes ++ rest) =
      (decodeFrom .boundary rest).map fun points => point :: points := by
  induction bytes generalizing state with
  | nil =>
      exact completes.elim
  | cons next later inductionHypothesis =>
      cases later with
      | nil =>
          have stepped : stepByte state next = some (.boundary, some point) :=
            completes
          simp [stepped]
      | cons second tail =>
          obtain ⟨left, value, low, high, stepped, remaining⟩ := completes
          have read := inductionHypothesis remaining
          simp only [List.cons_append, decodeFrom_cons, stepped,
            Option.bind_some, Option.toList_none, List.nil_append,
            Option.map_id'] at read ⊢
          exact read

/-- A text that ends inside a character is rejected. -/
theorem decodeFrom_prefix_of_completes
    {point : CodePoint}
    {state : Decoding}
    {bytes fragment : List Byte}
    (completes : Completes point state bytes)
    (isPrefix : fragment <+: bytes)
    (proper : fragment ≠ bytes)
    (inside : fragment ≠ [] ∨ state ≠ .boundary) :
    decodeFrom state fragment = none := by
  induction bytes generalizing state fragment with
  | nil =>
      exact completes.elim
  | cons next later inductionHypothesis =>
      cases fragment with
      | nil =>
          cases state with
          | boundary => simp at inside
          | within left value low high => rfl
      | cons head tail =>
          obtain ⟨rfl, tailPrefix⟩ := List.cons_prefix_cons.mp isPrefix
          have tailProper : tail ≠ later := fun same =>
            proper (by rw [same])
          cases later with
          | nil =>
              exact absurd (List.prefix_nil.mp tailPrefix) tailProper
          | cons second more =>
              obtain ⟨left, value, low, high, stepped, remaining⟩ := completes
              have rejected := inductionHypothesis remaining tailPrefix
                tailProper (Or.inr (by simp))
              simp [stepped, rejected]

section Text

variable {points : List CodePoint}

/-- Every character of the text has an encoding. -/
def Writable (points : List CodePoint) : Prop :=
  ∀ point ∈ points, PyStr.isSurrogate point = false

theorem writable_cons
    {point : CodePoint} :
    Writable (point :: points) ↔
      PyStr.isSurrogate point = false ∧ Writable points := by
  simp [Writable]

theorem writable_append
    {more : List CodePoint} :
    Writable (points ++ more) ↔ Writable points ∧ Writable more := by
  simp [Writable, or_imp, forall_and]

theorem writable_iff
    (text : PyStr) :
    text.encodable = true ↔ Writable text.chars := by
  simp [PyStr.encodable, Writable]

@[simp] theorem encodePoints_nil :
    encodePoints [] = [] := rfl

@[simp] theorem encodePoints_cons
    (point : CodePoint) :
    encodePoints (point :: points) =
      encodePoint point ++ encodePoints points := by
  simp [encodePoints]

@[simp] theorem encodePoints_append
    (more : List CodePoint) :
    encodePoints (points ++ more) =
      encodePoints points ++ encodePoints more := by
  simp [encodePoints]

/-- Encoded text in front of other bytes is decoded as itself. -/
theorem decodeFrom_encodePoints_append
    (encodable : Writable points)
    (rest : List Byte) :
    decodeFrom .boundary (encodePoints points ++ rest) =
      (decodeFrom .boundary rest).map fun more => points ++ more := by
  induction points with
  | nil =>
      simp
  | cons point later inductionHypothesis =>
      obtain ⟨head, tail⟩ := writable_cons.mp encodable
      rw [encodePoints_cons, List.append_assoc,
        decodeFrom_of_completes (completes_encodePoint point head),
        inductionHypothesis tail, Option.map_map]
      rfl

/-- Decoding is a left inverse of encoding. -/
theorem decode_encodePoints
    (encodable : Writable points) :
    decode (encodePoints points) = .ok points := by
  have read := decodeFrom_encodePoints_append encodable []
  simp only [List.append_nil, decodeFrom_boundary_nil,
    Option.map_some] at read
  simp [decode, read]

/-- What is decoded from the beginning of an encoded text begins the text. -/
theorem prefix_of_decodeFrom_prefix
    {fragment : List Byte}
    {read : List CodePoint}
    (encodable : Writable points)
    (isPrefix : fragment <+: encodePoints points)
    (decoded : decodeFrom .boundary fragment = some read) :
    ∃ unread, points = read ++ unread ∧ encodePoints read = fragment := by
  induction points generalizing fragment read with
  | nil =>
      obtain rfl := List.prefix_nil.mp isPrefix
      simp only [decodeFrom_boundary_nil, Option.some.injEq] at decoded
      subst decoded
      exact ⟨[], rfl, rfl⟩
  | cons point later inductionHypothesis =>
      obtain ⟨head, tail⟩ := writable_cons.mp encodable
      have completes := completes_encodePoint point head
      rw [encodePoints_cons] at isPrefix
      rcases List.prefix_or_prefix_of_prefix isPrefix
        (List.prefix_append _ _) with short | ⟨rest, rfl⟩
      · by_cases whole : fragment = encodePoint point
        · have decodedWhole := decodeFrom_of_completes completes []
          rw [List.append_nil, ← whole, decoded] at decodedWhole
          simp only [decodeFrom_boundary_nil, Option.map_some,
            Option.some.injEq] at decodedWhole
          subst decodedWhole
          exact ⟨later, rfl, by simp [whole]⟩
        · have empty : fragment = [] := by
            by_contra nonempty
            have rejected := decodeFrom_prefix_of_completes completes short
              whole (Or.inl nonempty)
            rw [rejected] at decoded
            cases decoded
          subst empty
          simp only [decodeFrom_boundary_nil, Option.some.injEq] at decoded
          subst decoded
          exact ⟨point :: later, rfl, rfl⟩
      · rw [decodeFrom_of_completes completes] at decoded
        obtain ⟨more, decodedRest, rfl⟩ := Option.map_eq_some_iff.mp decoded
        obtain ⟨unread, rfl, encodedRest⟩ :=
          inductionHypothesis tail
            ((List.prefix_append_right_inj _).mp isPrefix) decodedRest
        exact ⟨unread, rfl, by simp [encodedRest]⟩

end Text

end Maze.Python.Utf8
