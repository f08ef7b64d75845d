import Maze.Python.Value

namespace Maze.Python

/-!
# Text that is put together and taken apart

`split` cuts a text at every separator. A text that has none before the first
separator that was put in comes back whole as the first part.
-/

namespace PyStr

/-- `first + second`. -/
def append (first second : PyStr) : PyStr :=
  ⟨first.chars ++ second.chars⟩

instance : Append PyStr := ⟨append⟩

@[simp] theorem append_chars (first second : PyStr) :
    (first ++ second).chars = first.chars ++ second.chars := rfl

/-- The parts of a list between its separators. -/
def parts (separator : CodePoint) : List CodePoint → List (List CodePoint)
  | [] => [[]]
  | char :: rest =>
      if char = separator then
        [] :: parts separator rest
      else
        match parts separator rest with
        | [] => [[char]]
        | first :: others => (char :: first) :: others

/-- `text.split(separator)`, for a separator of one character. -/
def split
    (text : PyStr)
    (separator : CodePoint) :
    List PyStr :=
  (parts separator text.chars).map PyStr.mk

theorem parts_ne_nil (separator : CodePoint) (chars : List CodePoint) :
    parts separator chars ≠ [] := by
  cases chars with
  | nil =>
      simp [parts]
  | cons char rest =>
      unfold parts
      split
      · simp
      · split <;> simp

/-- What comes before the first separator is the first part. -/
theorem parts_append
    {separator : CodePoint}
    {first : List CodePoint}
    (whole : separator ∉ first)
    (rest : List CodePoint) :
    parts separator (first ++ separator :: rest) =
      first :: parts separator rest := by
  induction first with
  | nil =>
      simp [parts]
  | cons char others inductionHypothesis =>
      obtain ⟨differ, later⟩ := not_or.mp (List.mem_cons.not.mp whole)
      have differs : char ≠ separator := fun same => differ same.symm
      rw [List.cons_append, parts, if_neg differs, inductionHypothesis later]

/-- A text without a separator is its only part. -/
theorem parts_of_notMem
    {separator : CodePoint}
    {chars : List CodePoint}
    (whole : separator ∉ chars) :
    parts separator chars = [chars] := by
  induction chars with
  | nil =>
      rfl
  | cons char rest inductionHypothesis =>
      obtain ⟨differ, later⟩ := not_or.mp (List.mem_cons.not.mp whole)
      have differs : char ≠ separator := fun same => differ same.symm
      rw [parts, if_neg differs, inductionHypothesis later]

/-- No part holds a separator. -/
theorem notMem_of_mem_parts
    {separator : CodePoint}
    {chars part : List CodePoint}
    (inside : part ∈ parts separator chars) :
    separator ∉ part := by
  induction chars generalizing part with
  | nil =>
      simp only [parts, List.mem_singleton] at inside
      simp [inside]
  | cons char rest inductionHypothesis =>
      unfold parts at inside
      split at inside
      · rcases List.mem_cons.mp inside with rfl | later
        · exact List.not_mem_nil
        · exact inductionHypothesis later
      · next differ =>
        cases cut : parts separator rest with
        | nil =>
            exact absurd cut (parts_ne_nil separator rest)
        | cons first others =>
            rw [cut] at inside inductionHypothesis
            rcases List.mem_cons.mp inside with rfl | later
            · rw [List.mem_cons, not_or]
              exact ⟨fun same => differ same.symm,
                inductionHypothesis List.mem_cons_self⟩
            · exact inductionHypothesis (List.mem_cons_of_mem _ later)

theorem split_append
    {separator : CodePoint}
    {first : PyStr}
    (whole : separator ∉ first.chars)
    (rest : PyStr) :
    (first ++ ⟨[separator]⟩ ++ rest).split separator =
      first :: rest.split separator := by
  simp only [split, append_chars, List.append_assoc, List.singleton_append,
    parts_append whole, List.map_cons]

theorem split_of_notMem
    {separator : CodePoint}
    {text : PyStr}
    (whole : separator ∉ text.chars) :
    text.split separator = [text] := by
  simp [split, parts_of_notMem whole]

theorem notMem_of_mem_split
    {separator : CodePoint}
    {text part : PyStr}
    (inside : part ∈ text.split separator) :
    separator ∉ part.chars := by
  obtain ⟨chars, member, rfl⟩ := List.mem_map.mp inside
  exact notMem_of_mem_parts member

theorem split_ne_nil (text : PyStr) (separator : CodePoint) :
    text.split separator ≠ [] := by
  simp [split, parts_ne_nil]

end PyStr

namespace PyVal

/-- `str(value)`, where `str` renders what is no text. -/
def text
    (str : PyVal → PyStr) :
    PyVal → PyStr
  | .str value => value
  | value => str value

end PyVal

end Maze.Python
