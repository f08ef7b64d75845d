import Mathlib.Data.List.Basic

namespace Maze.Library.Regex

/-!
# Backtracking regular expressions

A pattern is matched from a position by trying its alternatives in order and repeating
greedily, as backtracking engines do: the results of a pattern are listed from the most to
the least preferred one, and the first of them is taken. What a pattern may match, and
what its groups capture then, is stated without the order in `Spells`; the results are
exactly that.
-/

variable {Symbol : Type}

/-- A pattern; a set of symbols is given by its test. -/
inductive Pattern (Symbol : Type) where
  | set (accepts : Symbol → Bool)
  /-- Any number of symbols of the set, as many as possible. -/
  | many (accepts : Symbol → Bool)
  | seq (first second : Pattern Symbol)
  | alt (first second : Pattern Symbol)
  /-- Nothing is matched. -/
  | empty
  /-- What the pattern matches is captured. -/
  | group (inner : Pattern Symbol)

/-- A match from a position: what the groups have captured, in order, and what is left. -/
structure Match (Symbol : Type) where
  captures : List (List Symbol)
  rest : List Symbol

namespace Pattern

/-- The symbols of a set in a row; the longest row comes first. -/
def manyResults (accepts : Symbol → Bool) : List Symbol → List (Match Symbol)
  | [] => [⟨[], []⟩]
  | symbol :: rest =>
      if accepts symbol then manyResults accepts rest ++ [⟨[], symbol :: rest⟩]
      else [⟨[], symbol :: rest⟩]

/-- All matches from the beginning of the text, the preferred ones first. -/
def results : Pattern Symbol → List Symbol → List (Match Symbol)
  | .set _, [] => []
  | .set accepts, symbol :: rest => if accepts symbol then [⟨[], rest⟩] else []
  | .many accepts, text => manyResults accepts text
  | .seq first second, text =>
      (first.results text).flatMap fun left =>
        (second.results left.rest).map fun right =>
          ⟨left.captures ++ right.captures, right.rest⟩
  | .alt first second, text => first.results text ++ second.results text
  | .empty, text => [⟨[], text⟩]
  | .group inner, text =>
      (inner.results text).map fun found =>
        ⟨text.take (text.length - found.rest.length) :: found.captures, found.rest⟩

/-- The first match of the leftmost position that has one. -/
def search (pattern : Pattern Symbol) (text : List Symbol) : Option (Match Symbol) :=
  text.tails.findSome? fun position => (pattern.results position).head?

/-- One or more symbols of the set. -/
def many1 (accepts : Symbol → Bool) : Pattern Symbol :=
  .seq (.set accepts) (.many accepts)

/-- The pattern, or nothing if it does not match. -/
def opt (inner : Pattern Symbol) : Pattern Symbol :=
  .alt inner .empty

/-- One symbol after the other. -/
def word (sets : List (Symbol → Bool)) : Pattern Symbol :=
  sets.foldr (fun accepts rest => .seq (.set accepts) rest) .empty

/-- What the pattern may match, with what its groups capture. -/
inductive Spells : Pattern Symbol → List Symbol → List (List Symbol) → Prop where
  | set
      {accepts : Symbol → Bool}
      {symbol : Symbol}
      (accepted : accepts symbol = true) :
      Spells (.set accepts) [symbol] []
  | many
      {accepts : Symbol → Bool}
      {symbols : List Symbol}
      (accepted : ∀ symbol ∈ symbols, accepts symbol = true) :
      Spells (.many accepts) symbols []
  | seq
      {first second : Pattern Symbol}
      {left right : List Symbol}
      {leftCaptures rightCaptures : List (List Symbol)}
      (before : Spells first left leftCaptures)
      (behind : Spells second right rightCaptures) :
      Spells (.seq first second) (left ++ right) (leftCaptures ++ rightCaptures)
  | altFirst
      {first second : Pattern Symbol}
      {symbols : List Symbol}
      {captures : List (List Symbol)}
      (taken : Spells first symbols captures) :
      Spells (.alt first second) symbols captures
  | altSecond
      {first second : Pattern Symbol}
      {symbols : List Symbol}
      {captures : List (List Symbol)}
      (taken : Spells second symbols captures) :
      Spells (.alt first second) symbols captures
  | empty : Spells .empty [] []
  | group
      {inner : Pattern Symbol}
      {symbols : List Symbol}
      {captures : List (List Symbol)}
      (taken : Spells inner symbols captures) :
      Spells (.group inner) symbols (symbols :: captures)

/-- A row of symbols of the set is in front of what is left. -/
theorem mem_manyResults_iff
    (accepts : Symbol → Bool)
    (text : List Symbol)
    (found : Match Symbol) :
    found ∈ manyResults accepts text ↔
      found.captures = [] ∧ ∃ symbols, text = symbols ++ found.rest ∧
        ∀ symbol ∈ symbols, accepts symbol = true := by
  obtain ⟨captures, left⟩ := found
  induction text with
  | nil =>
      simp only [manyResults, List.mem_singleton, Match.mk.injEq]
      constructor
      · rintro ⟨rfl, rfl⟩
        exact ⟨rfl, [], rfl, fun _ member => by cases member⟩
      · rintro ⟨rfl, symbols, split, _⟩
        exact ⟨rfl, (List.append_eq_nil_iff.mp split.symm).2⟩
  | cons symbol rest inductionHypothesis =>
      have stop : (⟨captures, left⟩ : Match Symbol) = ⟨[], symbol :: rest⟩ →
          captures = [] ∧ ∃ symbols, symbol :: rest = symbols ++ left ∧
            ∀ symbol ∈ symbols, accepts symbol = true := by
        rintro same
        cases same
        exact ⟨rfl, [], rfl, fun _ member => by cases member⟩
      rw [manyResults]
      by_cases accepted : accepts symbol = true
      · rw [if_pos accepted, List.mem_append, List.mem_singleton, inductionHypothesis]
        constructor
        · rintro (⟨none, symbols, rfl, all⟩ | same)
          · refine ⟨none, symbol :: symbols, rfl, fun other member => ?_⟩
            rcases List.mem_cons.mp member with rfl | member
            · exact accepted
            · exact all other member
          · exact stop same
        · rintro ⟨none, symbols, split, all⟩
          cases symbols with
          | nil =>
              rw [List.nil_append] at split
              exact .inr (by rw [split, show captures = [] from none])
          | cons first others =>
              obtain ⟨rfl, behind⟩ := List.cons_eq_cons.mp split
              exact .inl ⟨none, others, behind, fun other member =>
                all other (List.mem_cons_of_mem _ member)⟩
      · rw [if_neg accepted, List.mem_singleton]
        refine ⟨stop, ?_⟩
        rintro ⟨none, symbols, split, all⟩
        cases symbols with
        | nil =>
            rw [List.nil_append] at split
            rw [split, show captures = [] from none]
        | cons first others =>
            obtain ⟨rfl, _⟩ := List.cons_eq_cons.mp split
            exact absurd (all symbol List.mem_cons_self) accepted

/-- The results are what the pattern may match in front of what is left. -/
theorem mem_results_iff
    (pattern : Pattern Symbol)
    (text : List Symbol)
    (found : Match Symbol) :
    found ∈ pattern.results text ↔
      ∃ symbols, text = symbols ++ found.rest ∧ Spells pattern symbols found.captures := by
  induction pattern generalizing text found with
  | set accepts =>
      obtain ⟨captures, left⟩ := found
      constructor
      · intro member
        cases text with
        | nil => cases member
        | cons symbol rest =>
            rw [results] at member
            split at member
            · next accepted =>
              cases List.mem_singleton.mp member
              exact ⟨[symbol], rfl, .set accepted⟩
            · cases member
      · rintro ⟨symbols, rfl, spelled⟩
        cases spelled with
        | set accepted => simp [results, accepted]
  | many accepts =>
      rw [results, mem_manyResults_iff]
      constructor
      · rintro ⟨none, symbols, split, all⟩
        exact ⟨symbols, split, none ▸ .many all⟩
      · rintro ⟨symbols, split, spelled⟩
        obtain ⟨captures, rest⟩ := found
        cases spelled with
        | many all => exact ⟨rfl, symbols, split, all⟩
  | seq first second firstHypothesis secondHypothesis =>
      rw [results, List.mem_flatMap]
      constructor
      · rintro ⟨left, before, member⟩
        obtain ⟨right, behind, rfl⟩ := List.mem_map.mp member
        obtain ⟨symbols, rfl, spelled⟩ := (firstHypothesis text left).mp before
        obtain ⟨others, split, spelled'⟩ := (secondHypothesis left.rest right).mp behind
        exact ⟨symbols ++ others, by rw [split, List.append_assoc], .seq spelled spelled'⟩
      · rintro ⟨symbols, rfl, spelled⟩
        obtain ⟨captures, rest⟩ := found
        cases spelled with
        | seq before behind =>
            next left right leftCaptures rightCaptures =>
            refine ⟨⟨leftCaptures, right ++ rest⟩,
              (firstHypothesis _ _).mpr ⟨left, by rw [List.append_assoc], before⟩, ?_⟩
            exact List.mem_map.mpr ⟨⟨rightCaptures, rest⟩,
              (secondHypothesis _ _).mpr ⟨right, rfl, behind⟩, rfl⟩
  | alt first second firstHypothesis secondHypothesis =>
      rw [results, List.mem_append, firstHypothesis, secondHypothesis]
      constructor
      · rintro (⟨symbols, split, spelled⟩ | ⟨symbols, split, spelled⟩)
        · exact ⟨symbols, split, .altFirst spelled⟩
        · exact ⟨symbols, split, .altSecond spelled⟩
      · rintro ⟨symbols, split, spelled⟩
        cases spelled with
        | altFirst taken => exact .inl ⟨symbols, split, taken⟩
        | altSecond taken => exact .inr ⟨symbols, split, taken⟩
  | empty =>
      rw [results, List.mem_singleton]
      constructor
      · rintro rfl
        exact ⟨[], rfl, .empty⟩
      · rintro ⟨symbols, split, spelled⟩
        obtain ⟨captures, rest⟩ := found
        cases spelled with
        | empty => rw [split, List.nil_append]
  | group inner inductionHypothesis =>
      rw [results, List.mem_map]
      constructor
      · rintro ⟨within, member, rfl⟩
        obtain ⟨symbols, rfl, spelled⟩ := (inductionHypothesis text within).mp member
        refine ⟨symbols, rfl, ?_⟩
        simpa using Spells.group spelled
      · rintro ⟨symbols, rfl, spelled⟩
        obtain ⟨captures, rest⟩ := found
        cases spelled with
        | group taken =>
            next captures =>
            exact ⟨⟨captures, rest⟩, (inductionHypothesis _ _).mpr ⟨symbols, rfl, taken⟩,
              by simp⟩

/-- What a search finds is spelled somewhere in the text. -/
theorem spells_of_search
    {pattern : Pattern Symbol}
    {text : List Symbol}
    {found : Match Symbol}
    (searched : pattern.search text = some found) :
    ∃ symbols, Spells pattern symbols found.captures := by
  obtain ⟨position, _, first⟩ := List.exists_of_findSome?_eq_some searched
  obtain ⟨symbols, _, spelled⟩ :=
    (pattern.mem_results_iff position found).mp (List.mem_of_head? first)
  exact ⟨symbols, spelled⟩

/-! ## Inversion -/

section Inversion

variable {accepts : Symbol → Bool} {symbols : List Symbol} {captures : List (List Symbol)}

theorem spells_set_iff :
    Spells (.set accepts) symbols captures ↔
      captures = [] ∧ ∃ symbol, symbols = [symbol] ∧ accepts symbol = true := by
  constructor
  · intro spelled
    cases spelled with
    | set accepted => exact ⟨rfl, _, rfl, accepted⟩
  · rintro ⟨rfl, symbol, rfl, accepted⟩
    exact .set accepted

theorem spells_many_iff :
    Spells (.many accepts) symbols captures ↔
      captures = [] ∧ ∀ symbol ∈ symbols, accepts symbol = true := by
  constructor
  · intro spelled
    cases spelled with
    | many accepted => exact ⟨rfl, accepted⟩
  · rintro ⟨rfl, accepted⟩
    exact .many accepted

theorem spells_seq_iff
    {first second : Pattern Symbol} :
    Spells (.seq first second) symbols captures ↔
      ∃ left right leftCaptures rightCaptures, symbols = left ++ right ∧
        captures = leftCaptures ++ rightCaptures ∧ Spells first left leftCaptures ∧
          Spells second right rightCaptures := by
  constructor
  · intro spelled
    cases spelled with
    | seq before behind => exact ⟨_, _, _, _, rfl, rfl, before, behind⟩
  · rintro ⟨left, right, leftCaptures, rightCaptures, rfl, rfl, before, behind⟩
    exact .seq before behind

theorem spells_alt_iff
    {first second : Pattern Symbol} :
    Spells (.alt first second) symbols captures ↔
      Spells first symbols captures ∨ Spells second symbols captures := by
  constructor
  · intro spelled
    cases spelled with
    | altFirst taken => exact .inl taken
    | altSecond taken => exact .inr taken
  · rintro (taken | taken)
    · exact .altFirst taken
    · exact .altSecond taken

theorem spells_opt_set_iff :
    Spells (opt (.set accepts)) symbols captures ↔
      captures = [] ∧ (symbols = [] ∨ ∃ symbol, symbols = [symbol] ∧
        accepts symbol = true) := by
  rw [opt, spells_alt_iff, spells_set_iff]
  constructor
  · rintro (⟨rfl, given⟩ | nothing)
    · exact ⟨rfl, .inr given⟩
    · cases nothing
      exact ⟨rfl, .inl rfl⟩
  · rintro ⟨rfl, rfl | given⟩
    · exact .inr .empty
    · exact .inl ⟨rfl, given⟩

theorem spells_group_iff
    {inner : Pattern Symbol} :
    Spells (.group inner) symbols captures ↔
      ∃ others, captures = symbols :: others ∧ Spells inner symbols others := by
  constructor
  · intro spelled
    cases spelled with
    | group taken => exact ⟨_, rfl, taken⟩
  · rintro ⟨others, rfl, taken⟩
    exact .group taken

theorem spells_many1_iff :
    Spells (many1 accepts) symbols captures ↔
      captures = [] ∧ symbols ≠ [] ∧ ∀ symbol ∈ symbols, accepts symbol = true := by
  rw [many1, spells_seq_iff]
  constructor
  · rintro ⟨left, right, leftCaptures, rightCaptures, rfl, rfl, before, behind⟩
    obtain ⟨rfl, symbol, rfl, accepted⟩ := spells_set_iff.mp before
    obtain ⟨rfl, all⟩ := spells_many_iff.mp behind
    refine ⟨rfl, by simp, fun other member => ?_⟩
    rcases List.mem_cons.mp member with rfl | member
    · exact accepted
    · exact all other member
  · rintro ⟨rfl, given, all⟩
    cases symbols with
    | nil => exact absurd rfl given
    | cons symbol rest =>
        exact ⟨[symbol], rest, [], [], rfl, rfl, .set (all symbol List.mem_cons_self),
          .many fun other member => all other (List.mem_cons_of_mem _ member)⟩

/-- A word captures nothing. -/
theorem captures_of_spells_word
    {sets : List (Symbol → Bool)}
    (spelled : Spells (word sets) symbols captures) :
    captures = [] := by
  induction sets generalizing symbols captures with
  | nil =>
      cases spelled with
      | empty => rfl
  | cons accepts others inductionHypothesis =>
      obtain ⟨left, right, leftCaptures, rightCaptures, rfl, rfl, before, behind⟩ :=
        spells_seq_iff.mp spelled
      rw [(spells_set_iff.mp before).1, inductionHypothesis behind]
      rfl

end Inversion

end Pattern

end Maze.Library.Regex
