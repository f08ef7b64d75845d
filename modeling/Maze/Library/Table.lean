import Mathlib.Algebra.BigOperators.Group.List.Basic
import Mathlib.Algebra.Order.Group.Defs
import Mathlib.Algebra.Order.Group.Lattice
import Mathlib.Algebra.BigOperators.Ring.Finset
import Maze.Library.Dict

namespace Maze.Library

/-!
# Tables

A table is a dictionary with the proof that no key has two entries. Its entries
can be summed up, and a sum follows every change of the table. What a sum of
reservations leaves of a total is never negative, and what it leaves can be
reserved on top of it.
-/

/-- A dictionary that holds at most one entry for a key. -/
structure Table (Key Value : Type) where
  entries : List (Key × Value)
  distinct : (entries.map Prod.fst).Nodup

namespace Table

variable {Key Value Other : Type} [DecidableEq Key]

instance [DecidableEq Value] : DecidableEq (Table Key Value) := fun first second =>
  decidable_of_iff (first.entries = second.entries) <| by
    cases first
    cases second
    simp

/-- The table without entries. -/
def empty : Table Key Value where
  entries := []
  distinct := List.nodup_nil

/-- The value of a key. -/
def get?
    (table : Table Key Value)
    (key : Key) :
    Option Value :=
  table.entries.lookup key

/-- Whether the key has an entry. -/
def contains
    (table : Table Key Value)
    (key : Key) :
    Bool :=
  (table.get? key).isSome

/-- Set the value of a key; a key that is there keeps its place. -/
def set
    (table : Table Key Value)
    (key : Key)
    (value : Value) :
    Table Key Value where
  entries := Dict.set table.entries key value
  distinct := Dict.nodup_set key value table.distinct

/-- Change the value of a key that is there. -/
def modify
    (table : Table Key Value)
    (key : Key)
    (change : Value → Value) :
    Table Key Value where
  entries := Dict.modify table.entries key change
  distinct := by
    rw [Dict.keys_modify]
    exact table.distinct

/-- Take a key away. -/
def erase
    (table : Table Key Value)
    (key : Key) :
    Table Key Value where
  entries := Dict.erase table.entries key
  distinct := Dict.nodup_erase key table.distinct

/-- Change every value. -/
def mapValues
    (table : Table Key Value)
    (change : Key → Value → Other) :
    Table Key Other where
  entries := table.entries.map fun entry => (entry.1, change entry.1 entry.2)
  distinct := by
    rw [List.map_map]
    exact table.distinct

@[simp] theorem get?_empty (key : Key) :
    (empty : Table Key Value).get? key = none := rfl

@[simp] theorem get?_set
    (table : Table Key Value)
    (key wanted : Key)
    (value : Value) :
    (table.set key value).get? wanted =
      if wanted = key then some value else table.get? wanted :=
  Dict.lookup_set _ _ _ _

theorem get?_set_self
    (table : Table Key Value)
    (key : Key)
    (value : Value) :
    (table.set key value).get? key = some value := by
  rw [get?_set, if_pos rfl]

@[simp] theorem get?_modify
    (table : Table Key Value)
    (key wanted : Key)
    (change : Value → Value) :
    (table.modify key change).get? wanted =
      if wanted = key then (table.get? wanted).map change
      else table.get? wanted :=
  Dict.lookup_modify _ _ _ _

@[simp] theorem get?_erase
    (table : Table Key Value)
    (key wanted : Key) :
    (table.erase key).get? wanted =
      if wanted = key then none else table.get? wanted :=
  Dict.lookup_erase _ _ _

@[simp] theorem get?_mapValues
    (table : Table Key Value)
    (change : Key → Value → Other)
    (wanted : Key) :
    (table.mapValues change).get? wanted =
      (table.get? wanted).map (change wanted) :=
  Dict.lookup_map _ _ _

theorem get?_eq_some_iff
    (table : Table Key Value)
    (key : Key)
    (value : Value) :
    table.get? key = some value ↔ (key, value) ∈ table.entries :=
  Dict.lookup_eq_some_iff table.distinct key value

/-- A key that is not there has no entry. -/
theorem notMem_of_get?_eq_none
    {table : Table Key Value}
    {key : Key}
    (absent : table.get? key = none) :
    key ∉ table.entries.map Prod.fst := by
  intro inside
  obtain ⟨entry, member, rfl⟩ := List.mem_map.mp inside
  have found := (table.get?_eq_some_iff entry.1 entry.2).mpr member
  rw [absent] at found
  cases found

/-- A table in which nothing is found has no entries. -/
theorem entries_eq_nil
    {table : Table Key Value}
    (absent : ∀ key, table.get? key = none) :
    table.entries = [] := by
  apply List.eq_nil_iff_forall_not_mem.mpr
  rintro ⟨key, value⟩ inside
  have found := (table.get?_eq_some_iff key value).mpr inside
  rw [absent] at found
  cases found

/-! ## Changing every value where it is -/

/-- To change one value is to map all of them, the others to themselves. -/
theorem modify_mapValues
    (table : Table Key Value)
    (make : Key → Value → Other)
    (key : Key)
    (change : Other → Other) :
    (table.mapValues make).modify key change =
      table.mapValues fun other value =>
        if other = key then change (make other value) else make other value := by
  simp only [modify, mapValues, Dict.modify, List.map_map, Table.mk.injEq]
  apply List.map_congr_left
  intro entry _
  simp only [Function.comp_apply]
  split <;> rfl

theorem mapValues_congr
    {table : Table Key Value}
    {first second : Key → Value → Other}
    (same :
      ∀ key value, table.get? key = some value →
        first key value = second key value) :
    table.mapValues first = table.mapValues second := by
  simp only [mapValues, Table.mk.injEq]
  apply List.map_congr_left
  intro entry inside
  rw [same entry.1 entry.2 ((table.get?_eq_some_iff entry.1 entry.2).mpr inside)]

theorem mapValues_self
    {table : Table Key Value}
    {change : Key → Value → Value}
    (same : ∀ key value, table.get? key = some value → change key value = value) :
    table.mapValues change = table := by
  have unchanged : ∀ entry ∈ table.entries,
      (entry.1, change entry.1 entry.2) = entry := by
    intro entry inside
    rw [same entry.1 entry.2 ((table.get?_eq_some_iff entry.1 entry.2).mpr inside)]
  obtain ⟨entries, distinct⟩ := table
  simp only [mapValues, Table.mk.injEq]
  exact (List.map_congr_left unchanged).trans (List.map_id entries)

/-! ## Sums -/

section Sums

variable {Amount : Type} [AddCommMonoid Amount]

/-- The sum of what the values amount to. -/
def sumOf
    (table : Table Key Value)
    (amount : Value → Amount) :
    Amount :=
  (table.entries.map fun entry => amount entry.2).sum

omit [DecidableEq Key] in
@[simp] theorem sumOf_empty (amount : Value → Amount) :
    (empty : Table Key Value).sumOf amount = 0 := rfl

theorem sum_set_of_notMem
    {entries : List (Key × Value)}
    {key : Key}
    (absent : key ∉ entries.map Prod.fst)
    (value : Value)
    (amount : Value → Amount) :
    ((Dict.set entries key value).map fun entry => amount entry.2).sum =
      (entries.map fun entry => amount entry.2).sum + amount value := by
  induction entries with
  | nil =>
      simp [Dict.set]
  | cons entry rest inductionHypothesis =>
      obtain ⟨other, old⟩ := entry
      simp only [List.map_cons, List.mem_cons, not_or] at absent
      obtain ⟨differ, later⟩ := absent
      rw [Dict.set, if_neg (Ne.symm differ), List.map_cons, List.sum_cons,
        inductionHypothesis later, List.map_cons, List.sum_cons, add_assoc]

/-- A new entry is added to every sum. -/
theorem sumOf_set
    {table : Table Key Value}
    {key : Key}
    (absent : table.get? key = none)
    (value : Value)
    (amount : Value → Amount) :
    (table.set key value).sumOf amount = table.sumOf amount + amount value :=
  sum_set_of_notMem (notMem_of_get?_eq_none absent) value amount

theorem erase_of_notMem
    {entries : List (Key × Value)}
    {key : Key}
    (absent : key ∉ entries.map Prod.fst) :
    Dict.erase entries key = entries := by
  apply List.filter_eq_self.mpr
  intro entry inside
  simp only [decide_eq_true_eq]
  rintro rfl
  exact absent (List.mem_map.mpr ⟨entry, inside, rfl⟩)

theorem sum_erase_of_lookup
    {entries : List (Key × Value)}
    {key : Key}
    {value : Value}
    (distinct : (entries.map Prod.fst).Nodup)
    (found : entries.lookup key = some value)
    (amount : Value → Amount) :
    (entries.map fun entry => amount entry.2).sum =
      ((Dict.erase entries key).map fun entry => amount entry.2).sum +
        amount value := by
  induction entries with
  | nil =>
      cases found
  | cons entry rest inductionHypothesis =>
      obtain ⟨other, old⟩ := entry
      obtain ⟨fresh, distinct⟩ := List.nodup_cons.mp distinct
      rw [Dict.lookup_cons] at found
      by_cases here : key = other
      · subst here
        rw [if_pos rfl, Option.some.injEq] at found
        subst found
        have dropped : Dict.erase ((key, old) :: rest) key = rest := by
          rw [Dict.erase, List.filter_cons_of_neg (by simp)]
          exact erase_of_notMem fresh
        rw [dropped, List.map_cons, List.sum_cons, add_comm]
      · rw [if_neg here] at found
        have kept : Dict.erase ((other, old) :: rest) key =
            (other, old) :: Dict.erase rest key := by
          rw [Dict.erase, List.filter_cons_of_pos (by simpa using Ne.symm here)]
          rfl
        rw [kept, List.map_cons, List.sum_cons, List.map_cons, List.sum_cons,
          inductionHypothesis distinct found, add_assoc]

/-- An entry that is taken away is missing in every sum. -/
theorem sumOf_erase
    {table : Table Key Value}
    {key : Key}
    {value : Value}
    (found : table.get? key = some value)
    (amount : Value → Amount) :
    table.sumOf amount = (table.erase key).sumOf amount + amount value :=
  sum_erase_of_lookup table.distinct found amount

end Sums

/-- A sum of numbers that are counted is the number that is counted. -/
theorem sumOf_natCast
    {Amount : Type}
    [AddCommMonoidWithOne Amount]
    {table : Table Key Value}
    {amount : Value → Amount}
    {count : Value → ℕ}
    (same :
      ∀ key value, table.get? key = some value → amount value = count value) :
    table.sumOf amount = (table.sumOf count : ℕ) := by
  have counted : table.entries.map (fun entry => amount entry.2) =
      table.entries.map fun entry => ((count entry.2 : ℕ) : Amount) := by
    apply List.map_congr_left
    intro entry inside
    exact same entry.1 entry.2 ((table.get?_eq_some_iff entry.1 entry.2).mpr inside)
  rw [sumOf, counted, sumOf, Nat.cast_list_sum, List.map_map]
  rfl

end Table

/-! ## What is left of a total -/

section Remaining

variable {Amount : Type} [AddCommGroup Amount] [LinearOrder Amount]
  [IsOrderedAddMonoid Amount]

/-- What reservations leave of a total. -/
def remaining (total reserved : Amount) : Amount :=
  max 0 (total - reserved)

omit [IsOrderedAddMonoid Amount] in
theorem remaining_zero
    {total : Amount}
    (nonneg : 0 ≤ total) :
    remaining total 0 = total := by
  rw [remaining, sub_zero, max_eq_right nonneg]

/-- To take what is left is to reserve it on top. -/
theorem remaining_sub
    {total reserved need : Amount}
    (nonneg : 0 ≤ need)
    (enough : need ≤ remaining total reserved) :
    remaining total reserved - need = remaining total (reserved + need) := by
  unfold remaining at enough ⊢
  rcases le_total (total - reserved) 0 with short | some_
  · -- nothing is left, so nothing was asked for
    rw [max_eq_left short] at enough ⊢
    have none_ : need = 0 := le_antisymm enough nonneg
    rw [none_, sub_zero, add_zero, max_eq_left short]
  · rw [max_eq_right some_] at enough ⊢
    rw [← sub_sub, max_eq_right (sub_nonneg.mpr enough)]

/-- Where something is left, the reservations keep within the total. -/
theorem reserved_le_of_remaining
    {total reserved need : Amount}
    (some_ : 0 < need)
    (enough : need ≤ remaining total reserved) :
    reserved + need ≤ total := by
  unfold remaining at enough
  rcases le_max_iff.mp enough with none_ | fits
  · exact absurd some_ (not_lt.mpr none_)
  · rw [add_comm]
    exact le_sub_iff_add_le.mp fits

end Remaining

end Maze.Library
