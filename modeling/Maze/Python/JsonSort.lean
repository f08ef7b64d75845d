import Maze.Python.Json

namespace Maze.Python.Json

/-!
# Values with sorted keys

`sortKeys` is the value that a JSON text with sorted keys stands for: it only
reorders the members of objects, and two orders of the same members have the
same result.
-/

/-- The members of an object with the keys inside them sorted. -/
def sortMember (entry : PyStr × PyVal) : PyStr × PyVal :=
  (entry.1, sortKeys entry.2)

theorem sortValues_eq_map
    (entries : List (PyStr × PyVal)) :
    sortValues entries = entries.map sortMember := by
  induction entries with
  | nil =>
      rfl
  | cons entry rest inductionHypothesis =>
      obtain ⟨key, value⟩ := entry
      simp [sortValues, sortMember, inductionHypothesis]

theorem map_fst_sortMember
    (entries : List (PyStr × PyVal)) :
    (entries.map sortMember).map Prod.fst = entries.map Prod.fst := by
  rw [List.map_map]
  rfl

theorem sortKeys_dict
    (entries : List (PyStr × PyVal)) :
    sortKeys (.dict entries) =
      .dict ((entries.map sortMember).insertionSort KeyLE) := by
  rw [sortKeys, sortValues_eq_map]

instance : Std.Total KeyLE :=
  ⟨fun first second => le_total first.1.chars second.1.chars⟩

instance : IsTrans (PyStr × PyVal) KeyLE :=
  ⟨fun _ _ _ first second => le_trans first second⟩

/-- Members with distinct keys have one sorted order. -/
theorem insertionSort_eq_of_perm
    {first second : List (PyStr × PyVal)}
    (permuted : first.Perm second)
    (distinct : (first.map Prod.fst).Nodup) :
    first.insertionSort KeyLE = second.insertionSort KeyLE := by
  have sortedPerm := (List.perm_insertionSort KeyLE first).trans
    (permuted.trans (List.perm_insertionSort KeyLE second).symm)
  apply sortedPerm.eq_of_pairwise _
    (List.pairwise_insertionSort KeyLE first)
    (List.pairwise_insertionSort KeyLE second)
  intro left right leftMember rightMember leftBelow rightBelow
  have leftIn : left ∈ first := by simpa using leftMember
  have rightIn : right ∈ first := permuted.mem_iff.mpr
    (by simpa using rightMember)
  have sameChars : left.1.chars = right.1.chars :=
    le_antisymm leftBelow rightBelow
  have sameKey : left.1 = right.1 := by
    cases leftKey : left.1
    cases rightKey : right.1
    simp_all
  exact List.inj_on_of_nodup_map distinct leftIn rightIn sameKey

mutual

/-- Sorting the keys a second time changes nothing. -/
theorem sortKeys_sortKeys
    (value : PyVal)
    (distinct : value.keysDistinct = true) :
    sortKeys (sortKeys value) = sortKeys value := by
  match value with
  | .null | .bool _ | .int _ | .float _ | .str _ =>
      simp [sortKeys]
  | .list items =>
      simp only [PyVal.keysDistinct] at distinct
      simp only [sortKeys, sortItems_sortItems items distinct]
  | .dict entries =>
      simp only [PyVal.keysDistinct, Bool.and_eq_true,
        decide_eq_true_eq] at distinct
      have inner := sortMember_sortMember entries distinct.2
      rw [sortKeys_dict, sortKeys_dict]
      congr 1
      apply insertionSort_eq_of_perm
      · calc
          (((entries.map sortMember).insertionSort KeyLE).map sortMember).Perm
              ((entries.map sortMember).map sortMember) :=
            (List.perm_insertionSort _ _).map _
          _ = entries.map sortMember := inner
      · rw [map_fst_sortMember]
        apply ((List.perm_insertionSort _ _).map _).nodup_iff.mpr
        rw [map_fst_sortMember]
        exact distinct.1

theorem sortItems_sortItems
    (items : List PyVal)
    (distinct : PyVal.itemsKeysDistinct items = true) :
    sortItems (sortItems items) = sortItems items := by
  match items with
  | [] => rfl
  | item :: rest =>
      simp only [PyVal.itemsKeysDistinct, Bool.and_eq_true] at distinct
      simp only [sortItems, sortKeys_sortKeys item distinct.1,
        sortItems_sortItems rest distinct.2]

theorem sortMember_sortMember
    (entries : List (PyStr × PyVal))
    (distinct : PyVal.entriesKeysDistinct entries = true) :
    (entries.map sortMember).map sortMember = entries.map sortMember := by
  match entries with
  | [] => rfl
  | (key, value) :: rest =>
      simp only [PyVal.entriesKeysDistinct, Bool.and_eq_true] at distinct
      simp only [List.map_cons, sortMember, sortKeys_sortKeys value distinct.1]
      congr 1
      exact sortMember_sortMember rest distinct.2

end

theorem entriesKeysDistinct_iff
    (entries : List (PyStr × PyVal)) :
    PyVal.entriesKeysDistinct entries = true ↔
      ∀ entry ∈ entries, entry.2.keysDistinct = true := by
  induction entries with
  | nil =>
      simp [PyVal.entriesKeysDistinct]
  | cons entry rest inductionHypothesis =>
      obtain ⟨key, value⟩ := entry
      simp [PyVal.entriesKeysDistinct, inductionHypothesis]

theorem entriesWithinDigitLimit_iff
    (entries : List (PyStr × PyVal)) :
    entriesWithinDigitLimit entries = true ↔
      ∀ entry ∈ entries, withinDigitLimit entry.2 = true := by
  induction entries with
  | nil =>
      simp [entriesWithinDigitLimit]
  | cons entry rest inductionHypothesis =>
      obtain ⟨key, value⟩ := entry
      simp [entriesWithinDigitLimit, inductionHypothesis]

/-- Sorting the keys does not change what a key is bound to. -/
theorem get?_sorted
    {entries : PyDict}
    (distinct : (entries.map Prod.fst).Nodup)
    (key : PyStr) :
    PyDict.get? ((entries.map sortMember).insertionSort KeyLE) key =
      (PyDict.get? entries key).map sortKeys := by
  have sortedDistinct :
      (((entries.map sortMember).insertionSort KeyLE).map Prod.fst).Nodup := by
    apply ((List.perm_insertionSort _ _).map _).nodup_iff.mpr
    rw [map_fst_sortMember]
    exact distinct
  apply Option.ext
  intro value
  rw [PyDict.get?_eq_some_iff sortedDistinct, Option.map_eq_some_iff]
  simp only [List.mem_insertionSort, List.mem_map,
    PyDict.get?_eq_some_iff distinct]
  constructor
  · rintro ⟨⟨original, inner⟩, member, same⟩
    obtain ⟨rfl, rfl⟩ := Prod.mk.inj same
    exact ⟨inner, member, rfl⟩
  · rintro ⟨inner, member, rfl⟩
    exact ⟨(key, inner), member, rfl⟩

/-- Membership in the sorted members of an object. -/
theorem mem_sorted_iff
    (entries : List (PyStr × PyVal))
    (entry : PyStr × PyVal) :
    entry ∈ (entries.map sortMember).insertionSort KeyLE ↔
      ∃ original ∈ entries, sortMember original = entry := by
  simp

mutual

theorem keysDistinct_sortKeys
    (value : PyVal)
    (distinct : value.keysDistinct = true) :
    (sortKeys value).keysDistinct = true := by
  match value with
  | .null | .bool _ | .int _ | .float _ | .str _ =>
      simp [sortKeys, PyVal.keysDistinct]
  | .list items =>
      simp only [PyVal.keysDistinct] at distinct
      simp only [sortKeys, PyVal.keysDistinct]
      exact itemsKeysDistinct_sortItems items distinct
  | .dict entries =>
      simp only [PyVal.keysDistinct, Bool.and_eq_true,
        decide_eq_true_eq] at distinct
      have inner := keysDistinct_sortMember entries distinct.2
      rw [sortKeys_dict]
      simp only [PyVal.keysDistinct, Bool.and_eq_true, decide_eq_true_eq,
        entriesKeysDistinct_iff]
      constructor
      · apply ((List.perm_insertionSort _ _).map _).nodup_iff.mpr
        rw [map_fst_sortMember]
        exact distinct.1
      · intro entry member
        obtain ⟨original, present, rfl⟩ :=
          (mem_sorted_iff entries entry).mp member
        exact inner original present

theorem itemsKeysDistinct_sortItems
    (items : List PyVal)
    (distinct : PyVal.itemsKeysDistinct items = true) :
    PyVal.itemsKeysDistinct (sortItems items) = true := by
  match items with
  | [] => rfl
  | item :: rest =>
      simp only [PyVal.itemsKeysDistinct, Bool.and_eq_true] at distinct
      simp only [sortItems, PyVal.itemsKeysDistinct, Bool.and_eq_true]
      exact ⟨keysDistinct_sortKeys item distinct.1,
        itemsKeysDistinct_sortItems rest distinct.2⟩

theorem keysDistinct_sortMember
    (entries : List (PyStr × PyVal))
    (distinct : PyVal.entriesKeysDistinct entries = true) :
    ∀ entry ∈ entries, (sortMember entry).2.keysDistinct = true := by
  match entries with
  | [] => simp
  | (key, value) :: rest =>
      simp only [PyVal.entriesKeysDistinct, Bool.and_eq_true] at distinct
      intro entry member
      rcases List.mem_cons.mp member with rfl | later
      · exact keysDistinct_sortKeys value distinct.1
      · exact keysDistinct_sortMember rest distinct.2 entry later

end

mutual

theorem withinDigitLimit_sortKeys
    (value : PyVal)
    (limit : withinDigitLimit value = true) :
    withinDigitLimit (sortKeys value) = true := by
  match value with
  | .null | .bool _ | .float _ | .str _ =>
      simp [sortKeys, withinDigitLimit]
  | .int number =>
      simpa [sortKeys] using limit
  | .list items =>
      simp only [withinDigitLimit] at limit
      simp only [sortKeys, withinDigitLimit]
      exact itemsWithinDigitLimit_sortItems items limit
  | .dict entries =>
      simp only [withinDigitLimit] at limit
      have inner := withinDigitLimit_sortMember entries limit
      rw [sortKeys_dict]
      simp only [withinDigitLimit, entriesWithinDigitLimit_iff]
      intro entry member
      obtain ⟨original, present, rfl⟩ :=
        (mem_sorted_iff entries entry).mp member
      exact inner original present

theorem itemsWithinDigitLimit_sortItems
    (items : List PyVal)
    (limit : itemsWithinDigitLimit items = true) :
    itemsWithinDigitLimit (sortItems items) = true := by
  match items with
  | [] => rfl
  | item :: rest =>
      simp only [itemsWithinDigitLimit, Bool.and_eq_true] at limit
      simp only [sortItems, itemsWithinDigitLimit, Bool.and_eq_true]
      exact ⟨withinDigitLimit_sortKeys item limit.1,
        itemsWithinDigitLimit_sortItems rest limit.2⟩

theorem withinDigitLimit_sortMember
    (entries : List (PyStr × PyVal))
    (limit : entriesWithinDigitLimit entries = true) :
    ∀ entry ∈ entries, withinDigitLimit (sortMember entry).2 = true := by
  match entries with
  | [] => simp
  | (key, value) :: rest =>
      simp only [entriesWithinDigitLimit, Bool.and_eq_true] at limit
      intro entry member
      rcases List.mem_cons.mp member with rfl | later
      · exact withinDigitLimit_sortKeys value limit.1
      · exact withinDigitLimit_sortMember rest limit.2 entry later

end

/-- Dropping members by their keys before or after sorting is the same. -/
theorem sortKeys_filter_sorted
    (keep : PyStr → Bool)
    {entries : PyDict}
    (distinct : (PyVal.dict entries).keysDistinct = true) :
    sortKeys (.dict (((entries.map sortMember).insertionSort KeyLE).filter
      fun entry => keep entry.1)) =
      sortKeys (.dict (entries.filter fun entry => keep entry.1)) := by
  simp only [PyVal.keysDistinct, Bool.and_eq_true,
    decide_eq_true_eq] at distinct
  have kept : ∀ members : PyDict,
      (members.filter fun entry => keep entry.1).map sortMember =
        (members.map sortMember).filter fun entry => keep entry.1 := by
    intro members
    rw [List.filter_map]
    rfl
  rw [sortKeys_dict, sortKeys_dict]
  congr 1
  apply insertionSort_eq_of_perm
  · calc
      ((((entries.map sortMember).insertionSort KeyLE).filter
          fun entry => keep entry.1).map sortMember).Perm
          (((entries.map sortMember).filter
            fun entry => keep entry.1).map sortMember) :=
        ((List.perm_insertionSort _ _).filter _).map _
      _ = (entries.filter fun entry => keep entry.1).map sortMember := by
        rw [kept (entries.map sortMember),
          sortMember_sortMember entries distinct.2, ← kept]
  · rw [map_fst_sortMember]
    apply List.Nodup.sublist (List.filter_sublist.map _)
    apply ((List.perm_insertionSort _ _).map _).nodup_iff.mpr
    rw [map_fst_sortMember]
    exact distinct.1

end Maze.Python.Json
