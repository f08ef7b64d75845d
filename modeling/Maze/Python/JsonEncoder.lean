import Maze.Python.Value

namespace Maze.Python

/-!
# The values that the encoder meets

Any object may be handed to `json.dumps`. It writes the containers and the
scalars that JSON has, refuses everything else with one of `TypeError`,
`ValueError` and `OverflowError`, and gives up with a `RecursionError` on
containers that are nested more deeply than it has room for. What is found first
decides which of the two happens.
-/

/-- The length of an object: `len` answers nothing above `sys.maxsize`. -/
abbrev Size := Fin (2 ^ 63)

/--
A Python object. A `dict` is a container that the encoder knows, any other
`Mapping` is not; the `items()` of the latter may raise after the entries given
here. Binary buffers and all remaining objects are known by their identity.
-/
inductive PyObj where
  | none
  | bool (value : Bool)
  | int (value : Int)
  | float (value : PyFloat)
  | str (value : PyStr)
  | list (items : List PyObj)
  | tuple (items : List PyObj)
  | dict (entries : List (PyObj × PyObj))
  | mapping (identity : Nat) (entries : List (PyObj × PyObj)) (complete : Bool)
  | set (length : Size) (items : Fin length → PyObj)
  | buffer (identity : Nat)
  | other (identity : Nat)

namespace Encoder

/-- What comes of a call of the encoder. -/
inductive Outcome where
  | written
  | refused
  | tooDeep
  deriving DecidableEq

/-- The second part is looked at when the first one is written. -/
def Outcome.andThen : Outcome → Outcome → Outcome
  | .written, next => next
  | stopped, _ => stopped

/-- `sys.get_int_max_str_digits()` -/
def maxStrDigits : Nat := 4300

/-- `int.__repr__` raises a `ValueError` where the digits are too many. -/
def integer (number : Int) : Outcome :=
  if number.natAbs < 10 ^ maxStrDigits then .written else .refused

/-- `allow_nan=False` refuses what is not finite. -/
def number
    (strict : Bool) :
    PyFloat → Outcome
  | .finite _ _ => .written
  | _ => if strict then .refused else .written

/-- A key is a string, a number, a truth value or `None`. -/
def key
    (strict : Bool) :
    PyObj → Outcome
  | .none | .bool _ | .str _ => .written
  | .int value => integer value
  | .float value => number strict value
  | _ => .refused

mutual

/--
`json.dumps(value, allow_nan=not strict)` with room for so many containers inside each other.
-/
def dumps
    (strict : Bool) :
    Nat → PyObj → Outcome
  | _, .none | _, .bool _ | _, .str _ => .written
  | _, .int value => integer value
  | _, .float value => number strict value
  | 0, .list _ | 0, .tuple _ | 0, .dict _ => .tooDeep
  | room + 1, .list items | room + 1, .tuple items => dumpsItems strict room items
  | room + 1, .dict entries => dumpsEntries strict room entries
  | _, .mapping _ _ _ | _, .set _ _ | _, .buffer _ | _, .other _ => .refused

/-- The items of a list are written from the first to the last. -/
def dumpsItems
    (strict : Bool) :
    Nat → List PyObj → Outcome
  | _, [] => .written
  | room, item :: rest => (dumps strict room item).andThen (dumpsItems strict room rest)

/-- The members of an object are written in their order, each key before its value. -/
def dumpsEntries
    (strict : Bool) :
    Nat → List (PyObj × PyObj) → Outcome
  | _, [] => .written
  | room, (name, value) :: rest =>
      (key strict name).andThen
        ((dumps strict room value).andThen (dumpsEntries strict room rest))

end

@[simp] theorem dumps_bool
    (strict value : Bool)
    (room : Nat) :
    dumps strict room (.bool value) = .written := by
  simp [dumps]

@[simp] theorem dumps_str
    (strict : Bool)
    (room : Nat)
    (value : PyStr) :
    dumps strict room (.str value) = .written := by
  simp [dumps]

@[simp] theorem andThen_eq_written
    (first next : Outcome) :
    first.andThen next = .written ↔ first = .written ∧ next = .written := by
  cases first <;> simp [Outcome.andThen]

/-- All items are written if each is. -/
theorem dumpsItems_eq_written
    (strict : Bool)
    (room : Nat)
    (items : List PyObj) :
    dumpsItems strict room items = .written ↔
      ∀ item ∈ items, dumps strict room item = .written := by
  induction items with
  | nil =>
      simp [dumpsItems]
  | cons item rest inductionHypothesis =>
      simp [dumpsItems, inductionHypothesis]

/-- All members are written if each key and each value is. -/
theorem dumpsEntries_eq_written
    (strict : Bool)
    (room : Nat)
    (entries : List (PyObj × PyObj)) :
    dumpsEntries strict room entries = .written ↔
      ∀ entry ∈ entries,
        key strict entry.1 = .written ∧ dumps strict room entry.2 = .written := by
  induction entries with
  | nil =>
      simp [dumpsEntries]
  | cons entry rest inductionHypothesis =>
      simp [dumpsEntries, inductionHypothesis, and_assoc]

/-- A list is written where there is room for it and its items are written inside. -/
theorem dumps_list_eq_written
    (strict : Bool)
    (room : Nat)
    (items : List PyObj) :
    dumps strict room (.list items) = .written ↔
      0 < room ∧ ∀ item ∈ items, dumps strict (room - 1) item = .written := by
  cases room with
  | zero => simp [dumps]
  | succ inside => simp [dumps, dumpsItems_eq_written]

/-- A tuple is written as a list. -/
@[simp] theorem dumps_tuple
    (strict : Bool)
    (room : Nat)
    (items : List PyObj) :
    dumps strict room (.tuple items) = dumps strict room (.list items) := by
  cases room <;> simp [dumps]

/-- A `dict` is written where there is room for it and its members are written inside. -/
theorem dumps_dict_eq_written
    (strict : Bool)
    (room : Nat)
    (entries : List (PyObj × PyObj)) :
    dumps strict room (.dict entries) = .written ↔
      0 < room ∧ ∀ entry ∈ entries,
        key strict entry.1 = .written ∧ dumps strict (room - 1) entry.2 = .written := by
  cases room with
  | zero => simp [dumps]
  | succ inside => simp [dumps, dumpsEntries_eq_written]

/-- Items that the encoder gets through come out alike with more room. -/
private theorem dumpsItems_stable
    {strict : Bool}
    {room more : Nat}
    (inside : ∀ value, dumps strict room value ≠ .tooDeep →
      dumps strict more value = dumps strict room value)
    (items : List PyObj)
    (through : dumpsItems strict room items ≠ .tooDeep) :
    dumpsItems strict more items = dumpsItems strict room items := by
  induction items with
  | nil =>
      rfl
  | cons item rest inductionHypothesis =>
      simp only [dumpsItems] at through ⊢
      cases first : dumps strict room item with
      | tooDeep =>
          rw [first] at through
          exact absurd rfl through
      | refused =>
          rw [inside item (by simp [first]), first]
          rfl
      | written =>
          rw [first] at through
          rw [inside item (by simp [first]), first]
          exact inductionHypothesis through

/-- Members that the encoder gets through come out alike with more room. -/
private theorem dumpsEntries_stable
    {strict : Bool}
    {room more : Nat}
    (inside : ∀ value, dumps strict room value ≠ .tooDeep →
      dumps strict more value = dumps strict room value)
    (entries : List (PyObj × PyObj))
    (through : dumpsEntries strict room entries ≠ .tooDeep) :
    dumpsEntries strict more entries = dumpsEntries strict room entries := by
  induction entries with
  | nil =>
      rfl
  | cons entry rest inductionHypothesis =>
      obtain ⟨name, value⟩ := entry
      simp only [dumpsEntries] at through ⊢
      cases named : key strict name with
      | tooDeep | refused => rfl
      | written =>
          rw [named] at through
          simp only [Outcome.andThen] at through ⊢
          cases first : dumps strict room value with
          | tooDeep =>
              rw [first] at through
              exact absurd rfl through
          | refused => rw [inside value (by simp [first]), first]
          | written =>
              rw [first] at through
              rw [inside value (by simp [first]), first]
              exact inductionHypothesis through

/-- What the encoder gets through comes out alike with more room. -/
theorem dumps_stable
    {strict : Bool}
    {room more : Nat}
    {value : PyObj}
    (through : dumps strict room value ≠ .tooDeep)
    (enough : room ≤ more) :
    dumps strict more value = dumps strict room value := by
  induction room generalizing more value with
  | zero =>
      cases value with
      | list | tuple | dict => exact absurd rfl through
      | _ => simp [dumps]
  | succ room inductionHypothesis =>
      obtain ⟨more, rfl⟩ : ∃ inside, more = inside + 1 := ⟨more - 1, by omega⟩
      have inside (value : PyObj) (through : dumps strict room value ≠ .tooDeep) :
          dumps strict more value = dumps strict room value :=
        inductionHypothesis through (by omega)
      cases value with
      | list items | tuple items =>
          simp only [dumps] at through ⊢
          exact dumpsItems_stable inside items through
      | dict entries =>
          simp only [dumps] at through ⊢
          exact dumpsEntries_stable inside entries through
      | _ => simp [dumps]

theorem dumps_written_mono
    {strict : Bool}
    {room more : Nat}
    {value : PyObj}
    (written : dumps strict room value = .written)
    (enough : room ≤ more) :
    dumps strict more value = .written := by
  rw [dumps_stable (by simp [written]) enough, written]

/-- Two rooms are enough where the smaller one is. -/
theorem dumps_min_eq_written
    (strict : Bool)
    (first second : Nat)
    (value : PyObj) :
    dumps strict (min first second) value = .written ↔
      dumps strict first value = .written ∧ dumps strict second value = .written := by
  constructor
  · intro written
    exact ⟨dumps_written_mono written (min_le_left _ _),
      dumps_written_mono written (min_le_right _ _)⟩
  · rintro ⟨inFirst, inSecond⟩
    rcases min_choice first second with same | same
    · rw [same]
      exact inFirst
    · rw [same]
      exact inSecond

theorem number_lenient
    (value : PyFloat) :
    number false value = .written := by
  cases value <;> rfl

theorem key_lenient
    {value : PyObj}
    (written : key true value = .written) :
    key false value = .written := by
  cases value with
  | float value => exact number_lenient value
  | _ => exact written

/-- The lenient encoder writes all that the strict one writes. -/
theorem dumps_lenient
    {room : Nat}
    {value : PyObj}
    (written : dumps true room value = .written) :
    dumps false room value = .written := by
  induction room generalizing value with
  | zero =>
      cases value with
      | float value => simp [dumps, number_lenient]
      | list | tuple | dict => simp [dumps] at written
      | _ => exact written
  | succ room inductionHypothesis =>
      cases value with
      | float value => simp [dumps, number_lenient]
      | list items | tuple items =>
          simp only [dumps_tuple, dumps_list_eq_written] at written ⊢
          exact ⟨written.1, fun item member => inductionHypothesis (written.2 item member)⟩
      | dict entries =>
          rw [dumps_dict_eq_written] at written ⊢
          refine ⟨written.1, fun entry member => ?_⟩
          obtain ⟨named, inside⟩ := written.2 entry member
          exact ⟨key_lenient named, inductionHypothesis inside⟩
      | _ => exact written

/-- What the strict encoder writes, the lenient one never refuses. -/
theorem dumps_ne_refused
    {room : Nat}
    {value : PyObj}
    (written : dumps true room value = .written)
    (other : Nat) :
    dumps false other value ≠ .refused := by
  intro refused
  have both : dumps false (max room other) value = .written :=
    dumps_written_mono (dumps_lenient written) (le_max_left _ _)
  rw [dumps_stable (by simp [refused]) (le_max_right room other), refused] at both
  cases both

/-- What the strict encoder writes somewhere, it writes where the lenient one has room. -/
theorem dumps_strict_of_lenient
    {room other : Nat}
    {value : PyObj}
    (written : dumps true other value = .written)
    (lenient : dumps false room value = .written) :
    dumps true room value = .written := by
  induction room generalizing other value with
  | zero =>
      cases value with
      | list | tuple | dict => simp [dumps] at lenient
      | float value => simpa [dumps] using written
      | _ => exact lenient
  | succ room inductionHypothesis =>
      cases value with
      | float value => simpa [dumps] using written
      | list items | tuple items =>
          simp only [dumps_tuple, dumps_list_eq_written] at written lenient ⊢
          exact ⟨lenient.1, fun item member =>
            inductionHypothesis (written.2 item member) (lenient.2 item member)⟩
      | dict entries =>
          rw [dumps_dict_eq_written] at written lenient ⊢
          refine ⟨lenient.1, fun entry member => ?_⟩
          obtain ⟨named, inside⟩ := written.2 entry member
          exact ⟨named, inductionHypothesis inside (lenient.2 entry member).2⟩
      | _ => exact lenient

end Encoder

end Maze.Python
