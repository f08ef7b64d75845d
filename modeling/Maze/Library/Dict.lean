import Mathlib.Data.List.Basic

namespace Maze.Library.Dict

/-!
# Dictionaries as lists of entries

A dictionary keeps its entries in the order in which its keys were first set, and
has at most one entry for a key. `List.lookup` reads it; here are the operations
that change it, each with what a later lookup finds.
-/

variable {Key Value : Type} [DecidableEq Key]

/-- Set the value of a key; a key that is there keeps its place. -/
def set : List (Key × Value) → Key → Value → List (Key × Value)
  | [], key, value => [(key, value)]
  | (other, old) :: rest, key, value =>
      if other = key then
        (other, value) :: rest
      else
        (other, old) :: set rest key value

/-- Change the value of a key that is there. -/
def modify
    (entries : List (Key × Value))
    (key : Key)
    (change : Value → Value) :
    List (Key × Value) :=
  entries.map fun entry =>
    if entry.1 = key then (entry.1, change entry.2) else entry

/-- Take a key away. -/
def erase
    (entries : List (Key × Value))
    (key : Key) :
    List (Key × Value) :=
  entries.filter fun entry => entry.1 ≠ key

/-- Whether the first entry is the one that is looked for. -/
theorem lookup_cons
    (entry : Key × Value)
    (rest : List (Key × Value))
    (wanted : Key) :
    (entry :: rest).lookup wanted =
      if wanted = entry.1 then some entry.2 else rest.lookup wanted := by
  obtain ⟨key, value⟩ := entry
  rw [List.lookup_cons]
  by_cases here : wanted = key
  · simp [here]
  · have differ : (wanted == key) = false := by simpa using here
    simp [differ, here]

@[simp] theorem lookup_set
    (entries : List (Key × Value))
    (key wanted : Key)
    (value : Value) :
    (set entries key value).lookup wanted =
      if wanted = key then some value else entries.lookup wanted := by
  induction entries with
  | nil =>
      simp [set, lookup_cons]
  | cons entry rest inductionHypothesis =>
      obtain ⟨other, old⟩ := entry
      by_cases same : other = key
      · subst same
        by_cases here : wanted = other <;> simp [set, lookup_cons, here]
      · by_cases here : wanted = other
        · subst here
          simp [set, lookup_cons, same]
        · simp [set, lookup_cons, same, here, inductionHypothesis]

@[simp] theorem lookup_modify
    (entries : List (Key × Value))
    (key wanted : Key)
    (change : Value → Value) :
    (modify entries key change).lookup wanted =
      if wanted = key then (entries.lookup wanted).map change
      else entries.lookup wanted := by
  induction entries with
  | nil =>
      simp [modify]
  | cons entry rest inductionHypothesis =>
      obtain ⟨other, old⟩ := entry
      unfold modify at inductionHypothesis ⊢
      by_cases here : wanted = other
      · subst here
        by_cases same : wanted = key <;> simp [lookup_cons, same]
      · by_cases same : other = key
        · subst same
          simp only [List.map_cons, if_true, lookup_cons]
          simp [here, inductionHypothesis]
        · simp only [List.map_cons, if_neg same, lookup_cons]
          simp [here, inductionHypothesis]

@[simp] theorem lookup_erase
    (entries : List (Key × Value))
    (key wanted : Key) :
    (erase entries key).lookup wanted =
      if wanted = key then none else entries.lookup wanted := by
  induction entries with
  | nil =>
      simp [erase]
  | cons entry rest inductionHypothesis =>
      obtain ⟨other, old⟩ := entry
      by_cases same : other = key
      · subst same
        have dropped : erase ((other, old) :: rest) other = erase rest other := by
          simp [erase]
        rw [dropped, inductionHypothesis, lookup_cons]
        by_cases here : wanted = other <;> simp [here]
      · have kept : erase ((other, old) :: rest) key =
            (other, old) :: erase rest key := by
          simp [erase, same]
        rw [kept, lookup_cons, lookup_cons, inductionHypothesis]
        by_cases here : wanted = other
        · subst here
          simp [same]
        · simp [here]

/-- Changing every value changes what a lookup finds. -/
theorem lookup_map
    {Other : Type}
    (entries : List (Key × Value))
    (change : Key → Value → Other)
    (wanted : Key) :
    (entries.map fun entry => (entry.1, change entry.1 entry.2)).lookup wanted =
      (entries.lookup wanted).map (change wanted) := by
  induction entries with
  | nil =>
      rfl
  | cons entry rest inductionHypothesis =>
      rw [List.map_cons, lookup_cons, lookup_cons, inductionHypothesis]
      by_cases here : wanted = entry.1 <;> simp [here]

theorem keys_set
    (entries : List (Key × Value))
    (key wanted : Key)
    (value : Value) :
    wanted ∈ (set entries key value).map Prod.fst ↔
      wanted = key ∨ wanted ∈ entries.map Prod.fst := by
  induction entries with
  | nil =>
      simp [set]
  | cons entry rest inductionHypothesis =>
      obtain ⟨other, old⟩ := entry
      by_cases same : other = key
      · subst same
        simp [set]
      · simp only [set, if_neg same, List.map_cons, List.mem_cons,
          inductionHypothesis]
        tauto

/-- Setting a key keeps the keys apart. -/
theorem nodup_set
    {entries : List (Key × Value)}
    (key : Key)
    (value : Value)
    (distinct : (entries.map Prod.fst).Nodup) :
    ((set entries key value).map Prod.fst).Nodup := by
  induction entries with
  | nil =>
      simp [set]
  | cons entry rest inductionHypothesis =>
      obtain ⟨other, old⟩ := entry
      obtain ⟨fresh, distinct⟩ := List.nodup_cons.mp distinct
      by_cases same : other = key
      · subst same
        rw [set, if_pos rfl]
        exact List.nodup_cons.mpr ⟨fresh, distinct⟩
      · have absent : other ∉ (set rest key value).map Prod.fst := by
          rw [keys_set]
          rintro (here | inside)
          · exact same here
          · exact fresh inside
        simp only [set, if_neg same, List.map_cons]
        exact List.nodup_cons.mpr ⟨absent, inductionHypothesis distinct⟩

@[simp] theorem keys_modify
    (entries : List (Key × Value))
    (key : Key)
    (change : Value → Value) :
    (modify entries key change).map Prod.fst = entries.map Prod.fst := by
  simp only [modify, List.map_map]
  apply List.map_congr_left
  intro entry _
  simp only [Function.comp_apply]
  split <;> rfl

theorem nodup_erase
    {entries : List (Key × Value)}
    (key : Key)
    (distinct : (entries.map Prod.fst).Nodup) :
    ((erase entries key).map Prod.fst).Nodup :=
  distinct.sublist (List.filter_sublist.map Prod.fst)

/-- In a dictionary the entries are what the lookups find. -/
theorem lookup_eq_some_iff
    {entries : List (Key × Value)}
    (distinct : (entries.map Prod.fst).Nodup)
    (key : Key)
    (value : Value) :
    entries.lookup key = some value ↔ (key, value) ∈ entries := by
  induction entries with
  | nil =>
      simp
  | cons entry rest inductionHypothesis =>
      obtain ⟨other, old⟩ := entry
      obtain ⟨fresh, distinct⟩ := List.nodup_cons.mp distinct
      by_cases here : key = other
      · subst here
        have absent : (key, value) ∉ rest := fun member =>
          fresh (List.mem_map.mpr ⟨_, member, rfl⟩)
        simp [lookup_cons, absent, eq_comm]
      · simp [lookup_cons, here, inductionHypothesis distinct]

/-- A key that is not there comes to the end. -/
theorem set_of_absent
    {entries : List (Key × Value)}
    {key : Key}
    (absent : key ∉ entries.map Prod.fst)
    (value : Value) :
    set entries key value = entries ++ [(key, value)] := by
  induction entries with
  | nil =>
      rfl
  | cons entry rest inductionHypothesis =>
      obtain ⟨differ, later⟩ := not_or.mp (List.mem_cons.not.mp absent)
      rw [set, if_neg fun same => differ same.symm, inductionHypothesis later,
        List.cons_append]

theorem lookup_of_absent
    {entries : List (Key × Value)}
    {key : Key}
    (absent : key ∉ entries.map Prod.fst) :
    entries.lookup key = none := by
  induction entries with
  | nil =>
      rfl
  | cons entry rest inductionHypothesis =>
      obtain ⟨differ, later⟩ := not_or.mp (List.mem_cons.not.mp absent)
      rw [lookup_cons, if_neg differ, inductionHypothesis later]

/-- In a dictionary the entries for a key are what is looked up. -/
theorem flatMap_of_lookup
    {Item : Type}
    {entries : List (Key × Value)}
    (distinct : (entries.map Prod.fst).Nodup)
    (key : Key)
    (items : Value → List Item) :
    (entries.flatMap fun entry => if entry.1 = key then items entry.2 else []) =
      ((entries.lookup key).map items).getD [] := by
  induction entries with
  | nil =>
      rfl
  | cons entry rest inductionHypothesis =>
      obtain ⟨fresh, distinct⟩ := List.nodup_cons.mp distinct
      rw [List.flatMap_cons, inductionHypothesis distinct, lookup_cons]
      by_cases here : key = entry.1
      · subst here
        rw [if_pos rfl, if_pos rfl, lookup_of_absent fresh]
        exact List.append_nil _
      · rw [if_neg fun back => here back.symm, if_neg here, List.nil_append]

/-- A key that is not there is taken away without a change. -/
theorem erase_of_lookup_none
    {entries : List (Key × Value)}
    {key : Key}
    (absent : entries.lookup key = none) :
    erase entries key = entries := by
  refine List.filter_eq_self.mpr fun entry inside => ?_
  have differ : key ≠ entry.1 := by
    simpa using List.lookup_eq_none_iff.mp absent entry inside
  exact decide_eq_true fun same => differ same.symm

/-- An entry that is there after a key was set is the new one or was there before. -/
theorem mem_set
    {entries : List (Key × Value)}
    {key : Key}
    {value : Value}
    {entry : Key × Value}
    (member : entry ∈ set entries key value) :
    entry = (key, value) ∨ entry ∈ entries := by
  induction entries with
  | nil => exact .inl (List.mem_singleton.mp member)
  | cons first rest inductionHypothesis =>
      obtain ⟨other, old⟩ := first
      rw [set] at member
      split at member
      · next same =>
        subst same
        exact (List.mem_cons.mp member).imp_right (List.mem_cons_of_mem _)
      · rcases List.mem_cons.mp member with rfl | member
        · exact .inr List.mem_cons_self
        · exact (inductionHypothesis member).imp_right (List.mem_cons_of_mem _)

theorem length_set
    (entries : List (Key × Value))
    (key : Key)
    (value : Value) :
    (set entries key value).length =
      if key ∈ entries.map Prod.fst then entries.length else entries.length + 1 := by
  induction entries with
  | nil => rfl
  | cons first rest inductionHypothesis =>
      by_cases same : first.1 = key
      · simp [set, same]
      · have other : key ≠ first.1 := Ne.symm same
        simp only [set, if_neg same, List.length_cons, inductionHypothesis, List.map_cons,
          List.mem_cons, other, false_or]
        split <;> rfl

/-- A change to the value of one key changes what is counted by at most one. -/
theorem countP_modify
    {entries : List (Key × Value)}
    (distinct : (entries.map Prod.fst).Nodup)
    {key : Key}
    {value : Value}
    (there : entries.lookup key = some value)
    (change : Value → Value)
    (test : Value → Bool) :
    ((modify entries key change).map Prod.snd).countP test + (if test value then 1 else 0) =
      (entries.map Prod.snd).countP test + (if test (change value) then 1 else 0) := by
  induction entries with
  | nil => cases there
  | cons first rest inductionHypothesis =>
      obtain ⟨other, old⟩ := first
      obtain ⟨apart, restDistinct⟩ := List.nodup_cons.mp distinct
      rw [lookup_cons] at there
      by_cases same : key = other
      · subst same
        rw [if_pos rfl] at there
        cases there
        have kept : modify rest key change = rest := by
          unfold modify
          rw [List.map_congr_left (g := id), List.map_id]
          intro entry member
          have differ : entry.1 ≠ key := fun same =>
            apart (List.mem_map.mpr ⟨entry, member, same⟩)
          exact if_neg differ
        have changed : modify ((key, old) :: rest) key change = (key, change old) :: rest := by
          rw [modify, List.map_cons, if_pos rfl]
          exact congrArg _ kept
        simp only [changed, List.map_cons, List.countP_cons]
        omega
      · rw [if_neg same] at there
        have rest := inductionHypothesis restDistinct there
        simp only [modify, List.map_cons, List.countP_cons, if_neg (Ne.symm same)] at rest ⊢
        omega

section Displays

/-- What is in a dictionary after a key is set. -/
theorem mem_set_iff
    {entries : List (Key × Value)}
    (distinct : (entries.map Prod.fst).Nodup)
    (key : Key)
    (value : Value)
    (entry : Key × Value) :
    entry ∈ set entries key value ↔
      entry = (key, value) ∨ entry ∈ entries ∧ entry.1 ≠ key := by
  obtain ⟨wanted, found⟩ := entry
  rw [← lookup_eq_some_iff (nodup_set key value distinct), lookup_set,
    ← lookup_eq_some_iff distinct]
  by_cases here : wanted = key
  · subst here
    simp [eq_comm]
  · simp [here]

/-- The dictionary that is built from entries, where a later value replaces an earlier one. -/
def ofEntries (entries : List (Key × Value)) : List (Key × Value) :=
  entries.foldl (fun built entry => set built entry.1 entry.2) []

/-- The entries whose key does not come again. -/
def lasting : List (Key × Value) → List (Key × Value)
  | [] => []
  | entry :: rest =>
      if entry.1 ∈ rest.map Prod.fst then
        lasting rest
      else
        entry :: lasting rest

/-- Entries are put into a dictionary: those that last replace what is there. -/
theorem mem_foldl_set
    {entries start : List (Key × Value)}
    (distinct : (start.map Prod.fst).Nodup)
    (entry : Key × Value) :
    entry ∈ entries.foldl (fun built entry => set built entry.1 entry.2) start ↔
      entry ∈ lasting entries ∨ entry ∈ start ∧ entry.1 ∉ entries.map Prod.fst := by
  induction entries generalizing start with
  | nil =>
      simp [lasting]
  | cons first rest inductionHypothesis =>
      rw [List.foldl_cons, inductionHypothesis (nodup_set first.1 first.2 distinct),
        mem_set_iff distinct, lasting, List.map_cons, List.mem_cons]
      by_cases again : first.1 ∈ rest.map Prod.fst
      · rw [if_pos again]
        constructor
        · rintro (lasts | ⟨rfl | ⟨old, differ⟩, absent⟩)
          · exact .inl lasts
          · exact absurd again absent
          · exact .inr ⟨old, not_or.mpr ⟨differ, absent⟩⟩
        · rintro (lasts | ⟨old, absent⟩)
          · exact .inl lasts
          · obtain ⟨differ, absent⟩ := not_or.mp absent
            exact .inr ⟨.inr ⟨old, differ⟩, absent⟩
      · rw [if_neg again, List.mem_cons]
        constructor
        · rintro (lasts | ⟨rfl | ⟨old, differ⟩, absent⟩)
          · exact .inl (.inr lasts)
          · exact .inl (.inl rfl)
          · exact .inr ⟨old, not_or.mpr ⟨differ, absent⟩⟩
        · rintro ((rfl | lasts) | ⟨old, absent⟩)
          · exact .inr ⟨.inl rfl, again⟩
          · exact .inl lasts
          · obtain ⟨differ, absent⟩ := not_or.mp absent
            exact .inr ⟨.inr ⟨old, differ⟩, absent⟩

/-- A dictionary is built of the entries that last. -/
theorem mem_ofEntries
    (entries : List (Key × Value))
    (entry : Key × Value) :
    entry ∈ ofEntries entries ↔ entry ∈ lasting entries := by
  have empty : (([] : List (Key × Value)).map Prod.fst).Nodup := List.nodup_nil
  rw [ofEntries, mem_foldl_set empty]
  simp

/-- Entries that are related one by one, under names of their keys, last together. -/
theorem forall₂_lasting
    {Name Other : Type}
    [DecidableEq Name]
    {name : Key → Name}
    (apart : Function.Injective name)
    (related : Other → Value → Prop)
    {named : List (Name × Other)}
    {entries : List (Key × Value)}
    (all : List.Forall₂ (fun first second =>
      first.1 = name second.1 ∧ related first.2 second.2) named entries) :
    List.Forall₂ (fun first second =>
      first.1 = name second.1 ∧ related first.2 second.2) (lasting named) (lasting entries) := by
  have keys {named : List (Name × Other)} {entries : List (Key × Value)}
      (all : List.Forall₂ (fun first second =>
        first.1 = name second.1 ∧ related first.2 second.2) named entries) :
      named.map Prod.fst = (entries.map Prod.fst).map name := by
    induction all with
    | nil => rfl
    | cons here _ inductionHypothesis =>
        rw [List.map_cons, List.map_cons, List.map_cons, here.1, inductionHypothesis]
  induction all with
  | nil => exact .nil
  | @cons first second _ rest here later inductionHypothesis =>
      rw [lasting, lasting]
      by_cases again : second.1 ∈ rest.map Prod.fst
      · have againNamed := (List.mem_map_of_injective apart).mpr again
        rw [← here.1, ← keys later] at againNamed
        rw [if_pos again, if_pos againNamed]
        exact inductionHypothesis
      · have freshNamed := (List.mem_map_of_injective apart).not.mpr again
        rw [← here.1, ← keys later] at freshNamed
        rw [if_neg again, if_neg freshNamed]
        exact .cons here inductionHypothesis

end Displays

section Merging

variable {Entry Error : Type}

/--
Entries under different keys are merged into a dictionary, where a step looks at its own key
only: all of them are merged if each fits what is there at the start.
-/
theorem foldlM_iff
    (key : Entry → Key)
    {step : List (Key × Value) → Entry → Except Error (List (Key × Value))}
    (Fits : Entry → Prop)
    {entries : List Entry}
    {start : List (Key × Value)}
    (frame : ∀ target entry next, step target entry = .ok next →
      ∀ other, other ≠ key entry → next.lookup other = target.lookup other)
    (returns : ∀ target entry, entry ∈ entries →
      target.lookup (key entry) = start.lookup (key entry) →
        ((∃ next, step target entry = .ok next) ↔ Fits entry))
    (distinct : (entries.map key).Nodup) :
    (∃ result, entries.foldlM step start = .ok result) ↔ ∀ entry ∈ entries, Fits entry := by
  suffices every : ∀ target : List (Key × Value),
      (∀ entry ∈ entries, target.lookup (key entry) = start.lookup (key entry)) →
        ((∃ result, entries.foldlM step target = .ok result) ↔ ∀ entry ∈ entries, Fits entry)
    from every start fun _ _ => rfl
  induction entries with
  | nil =>
      exact fun target _ =>
        ⟨fun _ _ inside => absurd inside List.not_mem_nil, fun _ => ⟨target, rfl⟩⟩
  | cons entry rest inductionHypothesis =>
      intro target same
      obtain ⟨fresh, distinct⟩ := List.nodup_cons.mp distinct
      have here := returns target entry List.mem_cons_self (same entry List.mem_cons_self)
      have later {next : List (Key × Value)} (stepped : step target entry = .ok next) :
          (∃ result, rest.foldlM step next = .ok result) ↔ ∀ other ∈ rest, Fits other := by
        refine inductionHypothesis (fun target other inside =>
          returns target other (List.mem_cons_of_mem _ inside)) distinct next ?_
        intro other inside
        rw [frame target entry next stepped (key other)
          fun same => fresh (same ▸ List.mem_map_of_mem inside)]
        exact same other (List.mem_cons_of_mem _ inside)
      rw [List.forall_mem_cons, ← here, List.foldlM_cons]
      constructor
      · rintro ⟨result, merged⟩
        cases stepped : step target entry with
        | error raised =>
            rw [stepped] at merged
            cases merged
        | ok next =>
            rw [stepped] at merged
            exact ⟨⟨next, rfl⟩, (later stepped).mp ⟨result, merged⟩⟩
      · rintro ⟨⟨next, stepped⟩, fits⟩
        obtain ⟨result, merged⟩ := (later stepped).mpr fits
        exact ⟨result, by rw [stepped]; exact merged⟩

omit [DecidableEq Key] in
/-- Entries that are not there are added one after the other. -/
theorem foldlM_append
    {step : List (Key × Value) → Key × Value → Except Error (List (Key × Value))}
    {entries target : List (Key × Value)}
    (adds : ∀ target entry, entry ∈ entries → entry.1 ∉ target.map Prod.fst →
      step target entry = .ok (target ++ [entry]))
    (distinct : ((target ++ entries).map Prod.fst).Nodup) :
    entries.foldlM step target = .ok (target ++ entries) := by
  induction entries generalizing target with
  | nil =>
      rw [List.append_nil]
      rfl
  | cons entry rest inductionHypothesis =>
      have absent : entry.1 ∉ target.map Prod.fst := by
        rw [List.map_append, List.map_cons] at distinct
        exact fun inside =>
          (List.nodup_append.mp distinct).2.2 _ inside _ List.mem_cons_self rfl
      have moved : target ++ entry :: rest = target ++ [entry] ++ rest := by
        rw [List.append_assoc, List.singleton_append]
      rw [moved] at distinct ⊢
      rw [List.foldlM_cons, adds target entry List.mem_cons_self absent]
      exact inductionHypothesis
        (fun target other inside => adds target other (List.mem_cons_of_mem _ inside)) distinct

section Columns

variable {State Column Item Result : Type}

/--
Entries are taken in one by one, and each changes what is looked up in a column by the items
that it has for the column: if every column can be run through, so can the entries.
-/
theorem foldlM_columns
    {step : State → Entry → Except Error State}
    (look : State → Column → Option Result)
    (items : Entry → Column → List Item)
    (cell : Option Result → Item → Except Error (Option Result))
    {entries : List Entry}
    (each : ∀ state entry, entry ∈ entries →
      (∀ column, ∃ result, (items entry column).foldlM cell (look state column) = .ok result) →
        ∃ next, step state entry = .ok next ∧
          ∀ column, (items entry column).foldlM cell (look state column) =
            .ok (look next column))
    (start : State)
    (runs : ∀ column, ∃ result,
      (entries.flatMap fun entry => items entry column).foldlM cell (look start column) =
        .ok result) :
    ∃ next, entries.foldlM step start = .ok next ∧
      ∀ column,
        (entries.flatMap fun entry => items entry column).foldlM cell (look start column) =
          .ok (look next column) := by
  induction entries generalizing start with
  | nil =>
      exact ⟨start, rfl, fun _ => rfl⟩
  | cons entry rest inductionHypothesis =>
      simp only [List.flatMap_cons, List.foldlM_append] at runs ⊢
      have here (column : Column) : ∃ result,
          (items entry column).foldlM cell (look start column) = .ok result := by
        obtain ⟨result, ran⟩ := runs column
        cases first : (items entry column).foldlM cell (look start column) with
        | error raised =>
            rw [first] at ran
            cases ran
        | ok middle => exact ⟨middle, rfl⟩
      obtain ⟨middle, stepped, columns⟩ := each start entry List.mem_cons_self here
      obtain ⟨next, later, found⟩ := inductionHypothesis
        (fun state other inside => each state other (List.mem_cons_of_mem _ inside)) middle
        fun column => by
          obtain ⟨result, ran⟩ := runs column
          rw [columns column] at ran
          exact ⟨result, ran⟩
      refine ⟨next, ?_, fun column => ?_⟩
      · rw [List.foldlM_cons, stepped]
        exact later
      · rw [columns column]
        exact found column

end Columns

end Merging

end Maze.Library.Dict
