import Mathlib.Data.List.Forall2
import Mathlib.Data.List.Basic

namespace Maze.Library.Calls

/-!
# Lists of calls

A call for each item of a list returns if all of them do, and pairs the items
with what is returned for them.
-/

variable {Item Result Error : Type}

/-- What is related to an item of the second list is in the first one. -/
theorem exists_of_forall₂
    {related : Item → Result → Prop}
    {items : List Item}
    {results : List Result}
    (all : List.Forall₂ related items results)
    {result : Result}
    (member : result ∈ results) :
    ∃ item ∈ items, related item result := by
  induction all with
  | nil => cases member
  | cons here _ inductionHypothesis =>
      rcases List.mem_cons.mp member with rfl | later
      · exact ⟨_, List.mem_cons_self, here⟩
      · obtain ⟨item, inside, isRelated⟩ := inductionHypothesis later
        exact ⟨item, List.mem_cons_of_mem _ inside, isRelated⟩

/-- Where related items have a property together, all items of both lists do. -/
theorem forall_iff_of_forall₂
    {related : Item → Result → Prop}
    {First : Item → Prop}
    {Second : Result → Prop}
    {items : List Item}
    {results : List Result}
    (all : List.Forall₂ related items results)
    (together : ∀ item result, related item result → (First item ↔ Second result)) :
    (∀ item ∈ items, First item) ↔ ∀ result ∈ results, Second result := by
  induction all with
  | nil => simp
  | cons here _ inductionHypothesis =>
      rw [List.forall_mem_cons, List.forall_mem_cons, together _ _ here, inductionHypothesis]

section Option

variable {call : Item → Option Result} {items : List Item}

/-- A list of calls that returns pairs its items with what they return. -/
theorem forall₂_of_mapM
    {results : List Result}
    (returned : items.mapM call = some results) :
    List.Forall₂ (fun item result => call item = some result) items results := by
  induction items generalizing results with
  | nil =>
      cases returned
      exact .nil
  | cons item rest inductionHypothesis =>
      simp only [List.mapM_cons, Option.bind_eq_bind, Option.bind_eq_some_iff] at returned
      obtain ⟨first, here, others, there, same⟩ := returned
      cases same
      exact .cons here (inductionHypothesis there)

/-- A list of calls returns if each of them does. -/
theorem isSome_mapM :
    (items.mapM call).isSome ↔ ∀ item ∈ items, (call item).isSome := by
  induction items with
  | nil => simp
  | cons item rest inductionHypothesis =>
      rw [List.forall_mem_cons, ← inductionHypothesis, List.mapM_cons]
      cases call item <;> cases rest.mapM call <;> simp

end Option

section Except

variable {call : Item → Except Error Result} {items : List Item}

/-- A list of calls that returns pairs its items with what they return. -/
theorem forall₂_of_returned
    {results : List Result}
    (returned : items.mapM call = .ok results) :
    List.Forall₂ (fun item result => call item = .ok result) items results := by
  induction items generalizing results with
  | nil =>
      cases returned
      exact .nil
  | cons item rest inductionHypothesis =>
      rw [List.mapM_cons] at returned
      cases here : call item with
      | error raised =>
          rw [here] at returned
          cases returned
      | ok first =>
          rw [here] at returned
          cases there : rest.mapM call with
          | error raised =>
              rw [there] at returned
              cases returned
          | ok others =>
              rw [there] at returned
              cases returned
              exact .cons here (inductionHypothesis there)

/-- Items that are rendered one by one are read back one by one. -/
theorem mapM_map
    {Raw : Type}
    {call : Raw → Except Error Result}
    {render : Item → Raw}
    {make : Item → Result}
    (returns : ∀ item ∈ items, call (render item) = .ok (make item)) :
    (items.map render).mapM call = .ok (items.map make) := by
  induction items with
  | nil => rfl
  | cons first rest inductionHypothesis =>
      obtain ⟨here, later⟩ := List.forall_mem_cons.mp returns
      rw [List.map_cons, List.mapM_cons, here, inductionHypothesis later]
      rfl

/-- What is rendered item by item comes back where each item does. -/
theorem mapM_of_back
    {call : Item → Except Error Result}
    {render : Result → Item}
    {results : List Result}
    (back : ∀ result ∈ results, call (render result) = .ok result) :
    (results.map render).mapM call = .ok results := by
  have returned := mapM_map back
  rwa [List.map_id''] at returned
  exact fun _ => rfl

end Except

end Maze.Library.Calls
