import Mathlib.Data.List.Basic
import Mathlib.Data.Rat.Defs
import Mathlib.Algebra.Field.Rat
import Mathlib.Algebra.Order.Field.Rat
import Mathlib.Tactic.Common

namespace Maze.Python

/-!
# Python values

The values that travel between the components of the program: what `json.loads`
returns and what a task may put into a result, an error or a metrics payload.

A `str` is a list of code points, so that lone surrogates, which a Python string
may hold and UTF-8 cannot encode, are present. A finite `float` is identified
with the shortest decimal that `repr` prints for it. A `dict` keeps its entries
in insertion order; that its keys differ is the predicate `keysDistinct`.
-/

/-- A Unicode code point, surrogates included. -/
abbrev CodePoint := Fin 0x110000

instance codePoints_neZero : NeZero 0x110000 := ⟨by decide⟩

/-- A Python `str`. -/
structure PyStr where
  chars : List CodePoint
  deriving DecidableEq

namespace PyStr

/-- Every Lean character is a code point. -/
theorem char_toNat_lt
    (char : Char) :
    char.toNat < 0x110000 := by
  have valid := char.valid
  simp only [UInt32.isValidChar, Nat.isValidChar] at valid
  have same : char.toNat = char.val.toNat := rfl
  omega

/-- The code point of a Lean character. -/
def codePoint (char : Char) : CodePoint :=
  ⟨char.toNat, char_toNat_lt char⟩

/-- The Python string with the characters of a Lean string. -/
def ofString (text : String) : PyStr :=
  ⟨text.toList.map codePoint⟩

instance : Coe String PyStr := ⟨ofString⟩

instance : Inhabited PyStr := ⟨⟨[]⟩⟩

theorem codePoint_injective :
    Function.Injective codePoint := by
  intro first second same
  have sameNat : first.toNat = second.toNat := Fin.mk.inj same
  exact Char.ext (UInt32.toNat_inj.mp sameNat)

@[simp] theorem ofString_inj
    (first second : String) :
    ofString first = ofString second ↔ first = second := by
  constructor
  · intro same
    simp only [ofString, PyStr.mk.injEq] at same
    exact String.toList_inj.mp
      (List.map_injective_iff.mpr codePoint_injective same)
  · rintro rfl
    rfl

/-- The empty string is the only falsy string. -/
def isEmpty (text : PyStr) : Bool :=
  text.chars.isEmpty

/-- A surrogate code point, which no UTF-8 encoder accepts. -/
def isSurrogate (point : CodePoint) : Bool :=
  0xD800 ≤ point.val && point.val ≤ 0xDFFF

/-- Whether `text.encode("utf-8")` succeeds. -/
def encodable (text : PyStr) : Bool :=
  text.chars.all fun point => !isSurrogate point

end PyStr

/-- A nonempty string, such as a generated or validated identifier. -/
abbrev Identifier := { text : PyStr // text.isEmpty = false }

instance identifiers_lawful : LawfulBEq Identifier := inferInstance

instance pairs_lawful : LawfulBEq (PyStr × PyStr) := inferInstance

/-- The number `mantissa * 10 ^ exponent`, written without trailing zeros. -/
structure Decimal where
  mantissa : Nat
  exponent : Int
  shortest : mantissa % 10 ≠ 0 ∨ (mantissa = 0 ∧ exponent = 0)
  deriving DecidableEq

theorem Decimal.zero_shortest :
    0 % 10 ≠ 0 ∨ (0 = 0 ∧ (0 : Int) = 0) :=
  .inr ⟨rfl, rfl⟩

theorem Decimal.one_shortest :
    1 % 10 ≠ 0 ∨ (1 = 0 ∧ (0 : Int) = 0) :=
  .inl (by decide)

/-- A Python `float`. -/
inductive PyFloat where
  | nan
  | infinity (negative : Bool)
  | finite (negative : Bool) (magnitude : Decimal)
  deriving DecidableEq

/-- A Python value as far as the program handles it structurally. -/
inductive PyVal where
  | null
  | bool (value : Bool)
  | int (value : Int)
  | float (value : PyFloat)
  | str (value : PyStr)
  | list (items : List PyVal)
  | dict (entries : List (PyStr × PyVal))

namespace PyVal

mutual

/-- Structural equality of values. -/
def decEq : (first second : PyVal) → Decidable (first = second)
  | .null, .null => isTrue rfl
  | .bool first, .bool second => decidable_of_iff (first = second) (by simp)
  | .int first, .int second => decidable_of_iff (first = second) (by simp)
  | .float first, .float second => decidable_of_iff (first = second) (by simp)
  | .str first, .str second => decidable_of_iff (first = second) (by simp)
  | .list first, .list second =>
      match decEqItems first second with
      | isTrue same => isTrue (by rw [same])
      | isFalse differ => isFalse (by simpa using differ)
  | .dict first, .dict second =>
      match decEqEntries first second with
      | isTrue same => isTrue (by rw [same])
      | isFalse differ => isFalse (by simpa using differ)
  | .null, .bool _ | .null, .int _ | .null, .float _ | .null, .str _
  | .null, .list _ | .null, .dict _ => isFalse (by simp)
  | .bool _, .null | .bool _, .int _ | .bool _, .float _ | .bool _, .str _
  | .bool _, .list _ | .bool _, .dict _ => isFalse (by simp)
  | .int _, .null | .int _, .bool _ | .int _, .float _ | .int _, .str _
  | .int _, .list _ | .int _, .dict _ => isFalse (by simp)
  | .float _, .null | .float _, .bool _ | .float _, .int _ | .float _, .str _
  | .float _, .list _ | .float _, .dict _ => isFalse (by simp)
  | .str _, .null | .str _, .bool _ | .str _, .int _ | .str _, .float _
  | .str _, .list _ | .str _, .dict _ => isFalse (by simp)
  | .list _, .null | .list _, .bool _ | .list _, .int _ | .list _, .float _
  | .list _, .str _ | .list _, .dict _ => isFalse (by simp)
  | .dict _, .null | .dict _, .bool _ | .dict _, .int _ | .dict _, .float _
  | .dict _, .str _ | .dict _, .list _ => isFalse (by simp)

/-- Structural equality of lists of values. -/
def decEqItems : (first second : List PyVal) → Decidable (first = second)
  | [], [] => isTrue rfl
  | [], _ :: _ => isFalse (by simp)
  | _ :: _, [] => isFalse (by simp)
  | first :: firstRest, second :: secondRest =>
      match decEq first second, decEqItems firstRest secondRest with
      | isTrue same, isTrue sameRest => isTrue (by rw [same, sameRest])
      | isFalse differ, _ => isFalse (by simp [differ])
      | _, isFalse differ => isFalse (by simp [differ])

/-- Structural equality of dictionary entries. -/
def decEqEntries :
    (first second : List (PyStr × PyVal)) → Decidable (first = second)
  | [], [] => isTrue rfl
  | [], _ :: _ => isFalse (by simp)
  | _ :: _, [] => isFalse (by simp)
  | (firstKey, first) :: firstRest, (secondKey, second) :: secondRest =>
      match decEq first second, decEqEntries firstRest secondRest with
      | isTrue same, isTrue sameRest =>
          if sameKey : firstKey = secondKey then
            isTrue (by rw [same, sameRest, sameKey])
          else
            isFalse (by simp [sameKey])
      | isFalse differ, _ => isFalse (by simp [differ])
      | _, isFalse differ => isFalse (by simp [differ])

end

instance : DecidableEq PyVal := decEq

instance : Inhabited PyVal := ⟨.null⟩

end PyVal

/-- The entries of a `dict`, in insertion order. -/
abbrev PyDict := List (PyStr × PyVal)

namespace PyDict

/-- The value stored under a key. -/
def get? : PyDict → PyStr → Option PyVal
  | [], _ => none
  | (other, value) :: rest, key =>
      if key = other then some value else get? rest key

/-- `data.get(key)`. -/
def get
    (data : PyDict)
    (key : PyStr) :
    PyVal :=
  (get? data key).getD .null

/-- `data[key] = value`: an existing entry keeps its position. -/
def set :
    PyDict → PyStr → PyVal → PyDict
  | [], key, value => [(key, value)]
  | (other, old) :: rest, key, value =>
      if other = key then
        (other, value) :: rest
      else
        (other, old) :: set rest key value

/-- `data.setdefault(key, value)` as far as `data` is concerned. -/
def setDefault
    (data : PyDict)
    (key : PyStr)
    (value : PyVal) :
    PyDict :=
  if (get? data key).isSome then data else set data key value

/-- `data.pop(key, None)` as far as `data` is concerned. -/
def pop
    (data : PyDict)
    (key : PyStr) :
    PyDict :=
  data.filter fun entry => entry.1 ≠ key

/-- `data.update(changes)`. -/
def update
    (data changes : PyDict) :
    PyDict :=
  changes.foldl (fun result entry => set result entry.1 entry.2) data

@[simp] theorem get?_nil
    (key : PyStr) :
    get? [] key = none := rfl

@[simp] theorem get?_cons
    (key other : PyStr)
    (value : PyVal)
    (rest : PyDict) :
    get? ((other, value) :: rest) key =
      if key = other then some value else get? rest key := rfl

@[simp] theorem get?_set
    (data : PyDict)
    (key wanted : PyStr)
    (value : PyVal) :
    get? (set data key value) wanted =
      if wanted = key then some value else get? data wanted := by
  induction data with
  | nil =>
      simp [set]
  | cons entry rest inductionHypothesis =>
      obtain ⟨other, old⟩ := entry
      by_cases same : other = key
      · subst same
        by_cases here : wanted = other <;> simp [set, here]
      · by_cases here : wanted = other
        · subst here
          simp [set, same]
        · simp [set, same, here, inductionHypothesis]

theorem get?_pop_of_ne
    (data : PyDict)
    {key wanted : PyStr}
    (differ : wanted ≠ key) :
    get? (pop data key) wanted = get? data wanted := by
  induction data with
  | nil =>
      rfl
  | cons entry rest inductionHypothesis =>
      obtain ⟨other, old⟩ := entry
      simp only [pop, ne_eq, decide_not] at inductionHypothesis ⊢
      by_cases here : other = key
      · subst here
        simp [differ, inductionHypothesis]
      · simp [here, inductionHypothesis]

theorem get?_setDefault_of_ne
    (data : PyDict)
    (value : PyVal)
    {key wanted : PyStr}
    (differ : wanted ≠ key) :
    get? (setDefault data key value) wanted = get? data wanted := by
  unfold setDefault
  split <;> simp [differ]

theorem set_of_notMem
    (data : PyDict)
    (value : PyVal)
    {key : PyStr}
    (absent : key ∉ data.map Prod.fst) :
    set data key value = data ++ [(key, value)] := by
  induction data with
  | nil =>
      rfl
  | cons entry rest inductionHypothesis =>
      obtain ⟨other, old⟩ := entry
      simp only [List.map_cons, List.mem_cons, not_or] at absent
      simp [set, Ne.symm absent.1, inductionHypothesis absent.2]

/-- Updating with new keys appends the new entries. -/
theorem update_of_nodup
    (data changes : PyDict)
    (distinct : ((data ++ changes).map Prod.fst).Nodup) :
    update data changes = data ++ changes := by
  induction changes generalizing data with
  | nil =>
      simp [update]
  | cons entry rest inductionHypothesis =>
      have absent : entry.1 ∉ data.map Prod.fst := by
        rw [List.map_append, List.nodup_append] at distinct
        intro present
        exact distinct.2.2 _ present _ (by simp) rfl
      have extended : data ++ entry :: rest =
          set data entry.1 entry.2 ++ rest := by
        rw [set_of_notMem data entry.2 absent]
        simp
      calc
        update data (entry :: rest)
            = update (set data entry.1 entry.2) rest := rfl
        _ = set data entry.1 entry.2 ++ rest :=
          inductionHypothesis _ (extended ▸ distinct)
        _ = data ++ entry :: rest := extended.symm

theorem mem_set
    {data : PyDict}
    {key : PyStr}
    {value : PyVal}
    {entry : PyStr × PyVal}
    (member : entry ∈ set data key value) :
    entry ∈ data ∨ entry = (key, value) := by
  induction data with
  | nil =>
      exact Or.inr (by simpa [set] using member)
  | cons first rest inductionHypothesis =>
      obtain ⟨other, old⟩ := first
      unfold set at member
      split at member
      · next same =>
        rcases List.mem_cons.mp member with rfl | later
        · exact Or.inr (by rw [same])
        · exact Or.inl (List.mem_cons_of_mem _ later)
      · rcases List.mem_cons.mp member with rfl | later
        · exact Or.inl List.mem_cons_self
        · rcases inductionHypothesis later with old | new
          · exact Or.inl (List.mem_cons_of_mem _ old)
          · exact Or.inr new

theorem mem_update
    {data changes : PyDict}
    {entry : PyStr × PyVal}
    (member : entry ∈ update data changes) :
    entry ∈ data ∨ entry ∈ changes := by
  induction changes generalizing data with
  | nil =>
      exact Or.inl member
  | cons first rest inductionHypothesis =>
      rcases inductionHypothesis (show entry ∈ update
        (set data first.1 first.2) rest from member) with early | late
      · rcases mem_set early with old | rfl
        · exact Or.inl old
        · exact Or.inr List.mem_cons_self
      · exact Or.inr (List.mem_cons_of_mem _ late)

theorem nodup_set
    {data : PyDict}
    (key : PyStr)
    (value : PyVal)
    (distinct : (data.map Prod.fst).Nodup) :
    ((set data key value).map Prod.fst).Nodup := by
  induction data with
  | nil =>
      simp [set]
  | cons first rest inductionHypothesis =>
      obtain ⟨other, old⟩ := first
      simp only [List.map_cons, List.nodup_cons] at distinct
      unfold set
      split
      · simpa using distinct
      · next differ =>
        simp only [List.map_cons, List.nodup_cons]
        refine ⟨?_, inductionHypothesis distinct.2⟩
        intro present
        obtain ⟨entry, member, same⟩ := List.mem_map.mp present
        rcases mem_set member with earlier | rfl
        · exact distinct.1 (List.mem_map.mpr ⟨entry, earlier, same⟩)
        · exact differ same.symm

/-- The result of an update has distinct keys. -/
theorem nodup_update
    {data : PyDict}
    (changes : PyDict)
    (distinct : (data.map Prod.fst).Nodup) :
    ((update data changes).map Prod.fst).Nodup := by
  induction changes generalizing data with
  | nil =>
      exact distinct
  | cons first rest inductionHypothesis =>
      exact inductionHypothesis (nodup_set first.1 first.2 distinct)

/-- With distinct keys, looking up a key is finding its entry. -/
theorem get?_eq_some_iff
    {data : PyDict}
    (distinct : (data.map Prod.fst).Nodup)
    (key : PyStr)
    (value : PyVal) :
    get? data key = some value ↔ (key, value) ∈ data := by
  induction data with
  | nil =>
      simp
  | cons first rest inductionHypothesis =>
      obtain ⟨other, old⟩ := first
      simp only [List.map_cons, List.nodup_cons] at distinct
      by_cases same : key = other
      · subst same
        have absent : (key, value) ∉ rest := fun member =>
          distinct.1 (List.mem_map.mpr ⟨_, member, rfl⟩)
        simp [absent, eq_comm]
      · simp [same, inductionHypothesis distinct.2]

theorem get?_update_of_notMem
    (data changes : PyDict)
    {wanted : PyStr}
    (absent : ∀ value, (wanted, value) ∉ changes) :
    get? (update data changes) wanted = get? data wanted := by
  induction changes generalizing data with
  | nil =>
      rfl
  | cons entry rest inductionHypothesis =>
      have later : ∀ value, (wanted, value) ∉ rest := fun value member =>
        absent value (List.mem_cons_of_mem _ member)
      have differ : wanted ≠ entry.1 := by
        rintro rfl
        exact absent entry.2 (by simp)
      calc
        get? (update data (entry :: rest)) wanted
            = get? (set data entry.1 entry.2) wanted :=
          inductionHypothesis (set data entry.1 entry.2) later
        _ = get? data wanted := by simp [differ]

end PyDict

/-- The exceptions that the modelled code raises or lets escape. -/
inductive PyErr where
  | osError
  | valueError
  | typeError
  | keyError
  | attributeError
  | overflowError
  | indexError
  | runtimeError
  | timeoutError
  | unicodeError
  | recursionError
  | artifactError
  | resourceLimitExceeded
  deriving DecidableEq

/-- A sequence of two calls returns if both do. -/
theorem bind_eq_ok
    {α β : Type}
    {first : Except PyErr α}
    {second : α → Except PyErr β}
    {result : β} :
    (first >>= second) = .ok result ↔
      ∃ value, first = .ok value ∧ second value = .ok result := by
  cases first with
  | error raised =>
      simp [Bind.bind, Except.bind]
  | ok value =>
      simp [Bind.bind, Except.bind]

/-- A sequence of two calls raises if one of them does. -/
theorem bind_eq_error
    {α β : Type}
    {first : Except PyErr α}
    {second : α → Except PyErr β}
    {raised : PyErr} :
    (first >>= second) = .error raised ↔
      first = .error raised ∨ ∃ value, first = .ok value ∧ second value = .error raised := by
  cases first <;> simp [Bind.bind, Except.bind]

/-- What a list of calls returns comes from its items. -/
theorem mem_of_mapM
    {α β : Type}
    {call : α → Except PyErr β}
    {items : List α}
    {results : List β}
    (returned : items.mapM call = .ok results)
    {result : β}
    (inside : result ∈ results) :
    ∃ item ∈ items, call item = .ok result := by
  induction items generalizing results with
  | nil =>
      cases returned
      exact absurd inside List.not_mem_nil
  | cons item rest inductionHypothesis =>
      rw [List.mapM_cons] at returned
      obtain ⟨first, called, returned⟩ := bind_eq_ok.mp returned
      obtain ⟨others, later, same⟩ := bind_eq_ok.mp returned
      cases same
      rcases List.mem_cons.mp inside with rfl | member
      · exact ⟨item, List.mem_cons_self, called⟩
      · obtain ⟨origin, there, made⟩ := inductionHypothesis later member
        exact ⟨origin, List.mem_cons_of_mem _ there, made⟩

/-- Every item of a list of calls that return is in the results. -/
theorem mem_mapM_of_mem
    {α β : Type}
    {call : α → Except PyErr β}
    {items : List α}
    {results : List β}
    (returned : items.mapM call = .ok results)
    {item : α}
    (inside : item ∈ items) :
    ∃ result ∈ results, call item = .ok result := by
  induction items generalizing results with
  | nil =>
      exact absurd inside List.not_mem_nil
  | cons head rest inductionHypothesis =>
      rw [List.mapM_cons] at returned
      obtain ⟨first, called, returned⟩ := bind_eq_ok.mp returned
      obtain ⟨others, later, same⟩ := bind_eq_ok.mp returned
      cases same
      rcases List.mem_cons.mp inside with rfl | member
      · exact ⟨first, List.mem_cons_self, called⟩
      · obtain ⟨result, there, made⟩ := inductionHypothesis later member
        exact ⟨result, List.mem_cons_of_mem _ there, made⟩

/-- A list of calls returns if each of them does. -/
theorem mapM_of_forall
    {α β : Type}
    {call : α → Except PyErr β}
    {items : List α}
    (returns : ∀ item ∈ items, ∃ result, call item = .ok result) :
    ∃ results, items.mapM call = .ok results := by
  induction items with
  | nil =>
      exact ⟨[], rfl⟩
  | cons item rest inductionHypothesis =>
      obtain ⟨here, later⟩ := List.forall_mem_cons.mp returns
      obtain ⟨first, called⟩ := here
      obtain ⟨others, calledLater⟩ := inductionHypothesis later
      refine ⟨first :: others, ?_⟩
      rw [List.mapM_cons, called, calledLater]
      rfl

/-- Calls that all return what is picked from their items pick from all items. -/
theorem filterMap_of_mapM
    {α β : Type}
    {call : α → Except PyErr β}
    {pick : α → Option β}
    {items : List α}
    {results : List β}
    (returned : items.mapM call = .ok results)
    (picks : ∀ item result, call item = .ok result → pick item = some result) :
    items.filterMap pick = results := by
  induction items generalizing results with
  | nil =>
      cases returned
      rfl
  | cons item rest inductionHypothesis =>
      rw [List.mapM_cons] at returned
      obtain ⟨first, called, returned⟩ := bind_eq_ok.mp returned
      obtain ⟨others, later, same⟩ := bind_eq_ok.mp returned
      cases same
      rw [List.filterMap_cons_some (picks item first called),
        inductionHypothesis later]

namespace PyVal

/-- `bool(value)`. -/
def truthy : PyVal → Bool
  | .null => false
  | .bool value => value
  | .int value => value ≠ 0
  | .float (.finite _ magnitude) => magnitude.mantissa ≠ 0
  | .float _ => true
  | .str value => !value.isEmpty
  | .list items => !items.isEmpty
  | .dict entries => !entries.isEmpty

/-- `value or other`. -/
def orElse
    (value other : PyVal) :
    PyVal :=
  if value.truthy then value else other

/-- Whether `hash(value)` is defined. -/
def hashable : PyVal → Bool
  | .list _ | .dict _ => false
  | _ => true

/-- `value.get(key)`: only a `dict` has the method. -/
def get
    (value : PyVal)
    (key : PyStr) :
    Except PyErr PyVal :=
  match value with
  | .dict entries => .ok (PyDict.get entries key)
  | _ => .error .attributeError

mutual

/-- No dictionary inside the value has two entries with one key. -/
def keysDistinct : PyVal → Bool
  | .list items => itemsKeysDistinct items
  | .dict entries =>
      decide (entries.map Prod.fst).Nodup && entriesKeysDistinct entries
  | _ => true

/-- Every item has distinct keys. -/
def itemsKeysDistinct : List PyVal → Bool
  | [] => true
  | item :: rest => keysDistinct item && itemsKeysDistinct rest

/-- Every entry has distinct keys. -/
def entriesKeysDistinct : List (PyStr × PyVal) → Bool
  | [] => true
  | (_, value) :: rest => keysDistinct value && entriesKeysDistinct rest

end

/-- The rational value of a finite number; `bool` is a subclass of `int`. -/
def number? : PyVal → Option ℚ
  | .bool value => some (if value then 1 else 0)
  | .int value => some value
  | .float (.finite negative magnitude) =>
      some ((if negative then -1 else 1) *
        magnitude.mantissa * (10 : ℚ) ^ magnitude.exponent)
  | _ => none

mutual

/-- `first == second`; numbers compare by value, `nan` equals nothing. -/
def pyEq : PyVal → PyVal → Bool
  | .null, .null => true
  | .str first, .str second => first = second
  | .list first, .list second => pyEqItems first second
  | .dict first, .dict second =>
      first.length = second.length && pyEqEntries first second
  | .float (.infinity first), .float (.infinity second) => first = second
  | first, second =>
      match first.number?, second.number? with
      | some firstNumber, some secondNumber => firstNumber = secondNumber
      | _, _ => false

/-- Elementwise `==` of two lists. -/
def pyEqItems : List PyVal → List PyVal → Bool
  | [], [] => true
  | first :: firstRest, second :: secondRest =>
      pyEq first second && pyEqItems firstRest secondRest
  | _, _ => false

/-- Every entry of the first dictionary has an equal one in the second. -/
def pyEqEntries : List (PyStr × PyVal) → List (PyStr × PyVal) → Bool
  | [], _ => true
  | (key, first) :: rest, entries =>
      (match PyDict.get? entries key with
        | some second => pyEq first second
        | none => false) &&
        pyEqEntries rest entries

end

end PyVal

end Maze.Python
