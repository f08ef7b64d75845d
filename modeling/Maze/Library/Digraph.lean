import Mathlib.Data.List.MinMax
import Mathlib.Data.List.Perm.Subperm
import Mathlib.Data.Set.Finite.Basic
import Mathlib.Logic.Relation
import Mathlib.Order.Bounds.Basic
import Mathlib.Order.WellFoundedSet
import Maze.Library.Dict

namespace Maze.Library.Digraph

/-!
# Layers and orders of a directed graph

The layer of a vertex is 0 if it has no parent, and otherwise one more than the largest
layer of its parents. It is the length of the longest path to the vertex from one without
parents. Where every vertex comes after its parents, one pass finds the layers. A finite
graph has such an order exactly if it has no cycle.
-/

/-! ## Paths -/

section Paths

variable {Vertex : Type} {edge : Vertex → Vertex → Prop}

/-- A path with its length. -/
inductive Walk (edge : Vertex → Vertex → Prop) : Vertex → Vertex → ℕ → Prop where
  | nil (vertex : Vertex) : Walk edge vertex vertex 0
  | snoc {first middle last : Vertex} {length : ℕ} :
      Walk edge first middle length → edge middle last → Walk edge first last (length + 1)

theorem Walk.cons
    {first middle last : Vertex}
    {length : ℕ}
    (step : edge first middle)
    (walk : Walk edge middle last length) :
    Walk edge first last (length + 1) := by
  induction walk with
  | nil => exact .snoc (.nil first) step
  | snoc _ next inductionHypothesis => exact inductionHypothesis.snoc next

/-- A path of the turned edges is a path the other way. -/
theorem Walk.flip
    {first last : Vertex}
    {length : ℕ}
    (walk : Walk (fun source target => edge target source) first last length) :
    Walk edge last first length := by
  induction walk with
  | nil => exact .nil _
  | snoc _ step inductionHypothesis => exact inductionHypothesis.cons step

/-- A vertex that no edge leads to. -/
def Root
    (edge : Vertex → Vertex → Prop)
    (vertex : Vertex) : Prop :=
  ∀ source, ¬edge source vertex

/-- The lengths of the paths from a root. -/
def lengthsTo
    (edge : Vertex → Vertex → Prop)
    (vertex : Vertex) :
    Set ℕ :=
  {length | ∃ root, Root edge root ∧ Walk edge root vertex length}

/-- The lengths of the paths to a vertex that no edge leaves. -/
def lengthsFrom
    (edge : Vertex → Vertex → Prop)
    (vertex : Vertex) :
    Set ℕ :=
  {length | ∃ leaf, (∀ target, ¬edge leaf target) ∧ Walk edge vertex leaf length}

/-- What leads from a vertex to a leaf leads to it from a root of the turned edges. -/
theorem lengthsTo_flip
    (edge : Vertex → Vertex → Prop)
    (vertex : Vertex) :
    lengthsTo (fun source target => edge target source) vertex = lengthsFrom edge vertex := by
  ext length
  constructor
  · rintro ⟨leaf, isLeaf, walk⟩
    exact ⟨leaf, isLeaf, walk.flip⟩
  · rintro ⟨leaf, isLeaf, walk⟩
    exact ⟨leaf, isLeaf, walk.flip⟩

/-- Each vertex of a part that holds the sources of its edges lies in its layer. -/
structure Layered
    (edge : Vertex → Vertex → Prop)
    (part : Vertex → Prop)
    (layer : Vertex → ℕ) : Prop where
  closed : ∀ {source target}, part target → edge source target → part source
  root : ∀ {vertex}, part vertex → Root edge vertex → layer vertex = 0
  above : ∀ {source target}, part target → edge source target → layer source < layer target
  reached : ∀ {vertex}, part vertex → ¬Root edge vertex →
    ∃ source, edge source vertex ∧ layer vertex = layer source + 1

/-- The layer is the length of the longest path from a root. -/
theorem Layered.isGreatest
    {part : Vertex → Prop}
    {layer : Vertex → ℕ}
    (layered : Layered edge part layer)
    {vertex : Vertex}
    (inside : part vertex) :
    IsGreatest (lengthsTo edge vertex) (layer vertex) := by
  constructor
  · -- from the vertex back to a root, one layer at a time
    generalize level : layer vertex = height
    induction height generalizing vertex with
    | zero =>
        refine ⟨vertex, ?_, .nil vertex⟩
        by_contra notRoot
        obtain ⟨source, _, next⟩ := layered.reached inside notRoot
        omega
    | succ height inductionHypothesis =>
        have notRoot : ¬Root edge vertex := fun root => by
          have zero := layered.root inside root
          omega
        obtain ⟨source, step, next⟩ := layered.reached inside notRoot
        obtain ⟨root, isRoot, walk⟩ :=
          inductionHypothesis (layered.closed inside step) (by omega)
        exact ⟨root, isRoot, walk.snoc step⟩
  · rintro length ⟨root, _, walk⟩
    induction walk with
    | nil => exact Nat.zero_le _
    | snoc _ step inductionHypothesis =>
        exact (inductionHypothesis (layered.closed inside step)).trans_lt
          (layered.above inside step)

end Paths

/-! ## Orders -/

section Orders

variable {Vertex : Type} {edge : Vertex → Vertex → Prop}

/-- No path leads back to where it began. -/
def Acyclic (edge : Vertex → Vertex → Prop) : Prop :=
  ∀ vertex, ¬Relation.TransGen edge vertex vertex

/-- Every vertex comes after its parents. -/
def Sorted
    (parents : Vertex → List Vertex)
    (order : List Vertex) : Prop :=
  ∀ earlier vertex later, order = earlier ++ vertex :: later →
    ∀ parent ∈ parents vertex, parent ∈ earlier

/-- A graph with fewer edges has no more cycles. -/
theorem Acyclic.mono
    {other : Vertex → Vertex → Prop}
    (acyclic : Acyclic edge)
    (fewer : ∀ {source target}, other source target → edge source target) :
    Acyclic other :=
  fun vertex path => acyclic vertex (path.lift id fun _ _ => fewer)

variable {parents : Vertex → List Vertex}

theorem Sorted.nil : Sorted parents [] := by
  intro earlier vertex later split
  simp at split

theorem Sorted.concat
    {order : List Vertex}
    (sorted : Sorted parents order)
    {vertex : Vertex}
    (above : ∀ parent ∈ parents vertex, parent ∈ order) :
    Sorted parents (order ++ [vertex]) := by
  intro earlier last later split parent isParent
  rcases List.eq_nil_or_concat later with rfl | ⟨between, final, rfl⟩
  · obtain ⟨rfl, same⟩ := List.append_inj' split rfl
    cases same
    exact above parent isParent
  · rw [List.concat_eq_append, ← List.cons_append, ← List.append_assoc] at split
    obtain ⟨rfl, _⟩ := List.append_inj' split rfl
    exact sorted earlier last between rfl parent isParent

/-- Turned around, an order is one of the turned edges. -/
theorem Sorted.reverse
    {children : Vertex → List Vertex}
    {order : List Vertex}
    (distinct : order.Nodup)
    (sorted : Sorted parents order)
    (turned : ∀ vertex ∈ order, ∀ child ∈ children vertex,
      child ∈ order ∧ vertex ∈ parents child) :
    Sorted children order.reverse := by
  intro later vertex earlier split child isChild
  have forward : order = earlier.reverse ++ vertex :: later.reverse := by
    rw [← List.reverse_reverse order, split]
    simp
  obtain ⟨childInside, isParent⟩ := turned vertex (by simp [forward]) child isChild
  rw [forward, List.nodup_append] at distinct
  rw [forward] at childInside
  rcases List.mem_append.mp childInside with early | late
  · -- the child would stand on both sides of the vertex
    obtain ⟨front, back, frontSplit⟩ := List.append_of_mem early
    have above := sorted front child (back ++ vertex :: later.reverse)
      (by rw [forward, frontSplit]; simp) vertex isParent
    exact absurd rfl (distinct.2.2 vertex
      (frontSplit ▸ List.mem_append_left _ above) vertex List.mem_cons_self)
  · rcases List.mem_cons.mp late with rfl | late
    · have above := sorted earlier.reverse child later.reverse forward child isParent
      exact absurd rfl (distinct.2.2 child above child List.mem_cons_self)
    · exact List.mem_reverse.mp late

/-- A graph whose edges lead onwards in an order has no cycle. -/
theorem acyclic_of_sorted
    [DecidableEq Vertex]
    {order : List Vertex}
    (distinct : order.Nodup)
    (sorted : Sorted parents order)
    (edges : ∀ {source target}, edge source target → target ∈ order ∧ source ∈ parents target) :
    Acyclic edge := by
  have onwards : ∀ {source target}, edge source target →
      order.idxOf source < order.idxOf target := by
    intro source target step
    obtain ⟨inside, isParent⟩ := edges step
    obtain ⟨earlier, later, split⟩ := List.append_of_mem inside
    have before := sorted earlier target later split source isParent
    rw [split, List.nodup_append] at distinct
    have absent : target ∉ earlier := fun member =>
      distinct.2.2 target member target List.mem_cons_self rfl
    rw [split, List.idxOf_append_of_mem before, List.idxOf_append_of_notMem absent,
      List.idxOf_cons_self]
    exact (List.idxOf_lt_length_of_mem before).trans_le (Nat.le_add_right _ _)
  intro vertex path
  have below : ∀ {first last}, Relation.TransGen edge first last →
      order.idxOf first < order.idxOf last := by
    intro first last path
    induction path with
    | single step => exact onwards step
    | tail _ step inductionHypothesis => exact inductionHypothesis.trans (onwards step)
  exact (below path).false

/-- Some member of a finite part of a graph without cycles has no parent in the part. -/
theorem Acyclic.exists_first
    (acyclic : Acyclic edge)
    {part : List Vertex}
    (nonempty : part ≠ []) :
    ∃ vertex ∈ part, ∀ source ∈ part, ¬edge source vertex := by
  by_contra absent
  push Not at absent
  have order : IsStrictOrder Vertex (Relation.TransGen edge) :=
    { irrefl := acyclic, trans := fun _ _ _ => Relation.TransGen.trans }
  obtain ⟨vertex, inside⟩ := List.exists_mem_of_ne_nil part nonempty
  have founded : {vertex | vertex ∈ part}.WellFoundedOn (Relation.TransGen edge) :=
    (List.finite_toSet part).wellFoundedOn
  refine founded.induction (P := fun _ => False) inside
    fun vertex inside inductionHypothesis => ?_
  obtain ⟨source, member, step⟩ := absent vertex inside
  exact inductionHypothesis source member (.single step)

/-- Put the vertices in an order, one whose parents have all come after the other. -/
def sortFrom
    [DecidableEq Vertex]
    (parents : Vertex → List Vertex)
    (vertices : List Vertex) :
    ℕ → List Vertex → List Vertex
  | 0, order => order
  | fuel + 1, order =>
      match vertices.find? fun vertex =>
          vertex ∉ order ∧ ∀ parent ∈ parents vertex, parent ∈ order with
      | none => order
      | some vertex => sortFrom parents vertices fuel (order ++ [vertex])

/-- The vertices in an order, less those of the cycles and what lies below these. -/
def sort
    [DecidableEq Vertex]
    (parents : Vertex → List Vertex)
    (vertices : List Vertex) :
    List Vertex :=
  sortFrom parents vertices vertices.length []

theorem sortFrom_spec
    [DecidableEq Vertex]
    {vertices order : List Vertex}
    (fuel : ℕ)
    (enough : vertices.length ≤ order.length + fuel)
    (distinct : order.Nodup)
    (inside : ∀ vertex ∈ order, vertex ∈ vertices)
    (sorted : Sorted parents order) :
    (sortFrom parents vertices fuel order).Nodup ∧
      (∀ vertex ∈ sortFrom parents vertices fuel order, vertex ∈ vertices) ∧
      Sorted parents (sortFrom parents vertices fuel order) ∧
      ∀ vertex ∈ vertices, vertex ∉ sortFrom parents vertices fuel order →
        ∃ parent ∈ parents vertex, parent ∉ sortFrom parents vertices fuel order := by
  induction fuel generalizing order with
  | zero =>
      have all : order.Perm vertices :=
        (List.subperm_of_subset distinct inside).perm_of_length_le enough
      exact ⟨distinct, inside, sorted, fun vertex member missing =>
        absurd (all.mem_iff.mpr member) missing⟩
  | succ fuel inductionHypothesis =>
      unfold sortFrom
      split
      · next none =>
        refine ⟨distinct, inside, sorted, fun vertex member missing => ?_⟩
        have stuck := List.find?_eq_none.mp none vertex member
        simpa [missing] using stuck
      · next vertex found =>
        have next := List.find?_some found
        have member := List.mem_of_find?_eq_some found
        simp only [decide_eq_true_eq] at next
        apply inductionHypothesis
        · simp only [List.length_append, List.length_singleton]
          omega
        · exact List.nodup_append.mpr ⟨distinct, List.nodup_singleton vertex, by
            rintro old isOld new isNew rfl
            exact next.1 (List.mem_singleton.mp isNew ▸ isOld)⟩
        · intro other isIn
          rcases List.mem_append.mp isIn with old | new
          · exact inside other old
          · exact List.mem_singleton.mp new ▸ member
        · exact sorted.concat next.2

theorem sort_spec
    [DecidableEq Vertex]
    (parents : Vertex → List Vertex)
    (vertices : List Vertex) :
    (sort parents vertices).Nodup ∧
      (∀ vertex ∈ sort parents vertices, vertex ∈ vertices) ∧
      Sorted parents (sort parents vertices) ∧
      ∀ vertex ∈ vertices, vertex ∉ sort parents vertices →
        ∃ parent ∈ parents vertex, parent ∉ sort parents vertices :=
  sortFrom_spec vertices.length (by simp) List.nodup_nil (by simp) .nil

/-- The order holds all vertices exactly where the graph has no cycle. -/
theorem sort_perm_iff
    [DecidableEq Vertex]
    {vertices : List Vertex}
    (distinct : vertices.Nodup)
    (edges : ∀ source target,
      edge source target ↔ target ∈ vertices ∧ source ∈ parents target)
    (ends : ∀ source target, edge source target → source ∈ vertices) :
    (sort parents vertices).Perm vertices ↔ Acyclic edge := by
  obtain ⟨sortDistinct, inside, sorted, stuck⟩ := sort_spec parents vertices
  constructor
  · intro all
    refine acyclic_of_sorted sortDistinct sorted fun step => ?_
    obtain ⟨member, isParent⟩ := (edges _ _).mp step
    exact ⟨all.mem_iff.mpr member, isParent⟩
  · intro acyclic
    rw [List.perm_ext_iff_of_nodup sortDistinct distinct]
    refine fun vertex => ⟨inside vertex, fun member => ?_⟩
    by_contra missing
    let rest := vertices.filter fun vertex => vertex ∉ sort parents vertices
    have nonempty : rest ≠ [] :=
      List.ne_nil_of_mem (List.mem_filter.mpr ⟨member, by simpa using missing⟩)
    obtain ⟨first, isFirst, least⟩ := acyclic.exists_first nonempty
    obtain ⟨firstMember, firstMissing⟩ := List.mem_filter.mp isFirst
    obtain ⟨parent, isParent, parentMissing⟩ :=
      stuck first firstMember (by simpa using firstMissing)
    have step := (edges parent first).mpr ⟨firstMember, isParent⟩
    exact least parent
      (List.mem_filter.mpr ⟨ends parent first step, by simpa using parentMissing⟩) step

end Orders

/-! ## One pass over the vertices -/

section Pass

variable {Vertex : Type} [DecidableEq Vertex]

/-- The layer that the layers of the parents give. -/
def layerOf
    (layer : Vertex → ℕ)
    (parents : List Vertex) :
    ℕ :=
  if parents = [] then 0 else (parents.map layer).foldr max 0 + 1

/-- The layers that have been found; a vertex without one counts as a root. -/
def found
    (layers : List (Vertex × ℕ))
    (vertex : Vertex) :
    ℕ :=
  (layers.lookup vertex).getD 0

/-- Find the layers of the vertices one after the other. -/
def findLayers
    (parents : Vertex → List Vertex)
    (order : List Vertex)
    (layers : List (Vertex × ℕ)) :
    List (Vertex × ℕ) :=
  order.foldl (fun layers vertex =>
    Dict.set layers vertex (layerOf (found layers) (parents vertex))) layers

omit [DecidableEq Vertex] in
theorem layerOf_congr
    {layer other : Vertex → ℕ}
    {parents : List Vertex}
    (same : ∀ parent ∈ parents, layer parent = other parent) :
    layerOf layer parents = layerOf other parents := by
  unfold layerOf
  rw [List.map_congr_left same]

/-- Vertices that do not come up keep what was found. -/
theorem lookup_findLayers_of_notMem
    (parents : Vertex → List Vertex)
    {order : List Vertex}
    {vertex : Vertex}
    (absent : vertex ∉ order)
    (layers : List (Vertex × ℕ)) :
    (findLayers parents order layers).lookup vertex = layers.lookup vertex := by
  induction order generalizing layers with
  | nil => rfl
  | cons first rest inductionHypothesis =>
      obtain ⟨differ, later⟩ := not_or.mp (List.mem_cons.not.mp absent)
      rw [findLayers, List.foldl_cons]
      rw [show List.foldl _ _ rest = findLayers parents rest _ from rfl,
        inductionHypothesis later, Dict.lookup_set, if_neg differ]

theorem findLayers_append
    (parents : Vertex → List Vertex)
    (first second : List Vertex)
    (layers : List (Vertex × ℕ)) :
    findLayers parents (first ++ second) layers =
      findLayers parents second (findLayers parents first layers) :=
  List.foldl_append

/-- After the pass every vertex has the layer that the layers of its parents give. -/
theorem lookup_findLayers
    {parents : Vertex → List Vertex}
    {order : List Vertex}
    (distinct : order.Nodup)
    (sorted : Sorted parents order)
    (layers : List (Vertex × ℕ))
    {vertex : Vertex}
    (inside : vertex ∈ order) :
    (findLayers parents order layers).lookup vertex =
      some (layerOf (found (findLayers parents order layers)) (parents vertex)) := by
  obtain ⟨earlier, later, split⟩ := List.append_of_mem inside
  have apart := distinct
  rw [split, List.nodup_append] at apart
  obtain ⟨_, laterDistinct, disjoint⟩ := apart
  have notLater : vertex ∉ later := (List.nodup_cons.mp laterDistinct).1
  have kept : ∀ parent ∈ parents vertex,
      found (findLayers parents earlier layers) parent =
        found (findLayers parents order layers) parent := by
    intro parent isParent
    have before := sorted earlier vertex later split parent isParent
    have after : parent ∉ vertex :: later := fun again => disjoint _ before _ again rfl
    rw [found, found, split, findLayers_append, lookup_findLayers_of_notMem _ after]
  rw [← layerOf_congr kept]
  conv_lhs => rw [split, findLayers_append]
  rw [findLayers, List.foldl_cons]
  rw [show List.foldl _ _ later = findLayers parents later _ from rfl,
    lookup_findLayers_of_notMem _ notLater, Dict.lookup_set, if_pos rfl]

omit [DecidableEq Vertex] in
/-- Layers that fit together make the vertices layered. -/
theorem layered_of_layerOf
    {edge : Vertex → Vertex → Prop}
    {part : Vertex → Prop}
    {layer : Vertex → ℕ}
    {parents : Vertex → List Vertex}
    (edges : ∀ {vertex}, part vertex → ∀ source, edge source vertex ↔ source ∈ parents vertex)
    (closed : ∀ {source target}, part target → edge source target → part source)
    (fits : ∀ {vertex}, part vertex → layer vertex = layerOf layer (parents vertex)) :
    Layered edge part layer where
  closed := closed
  root := by
    intro vertex inside isRoot
    have none : parents vertex = [] :=
      List.eq_nil_iff_forall_not_mem.mpr fun source member =>
        isRoot source ((edges inside source).mpr member)
    rw [fits inside, layerOf, if_pos none]
  above := by
    intro source target inside step
    have member := (edges inside source).mp step
    rw [fits inside, layerOf, if_neg (List.ne_nil_of_mem member)]
    exact Nat.lt_succ_of_le (List.le_max_of_le' 0 (List.mem_map_of_mem member) le_rfl)
  reached := by
    intro vertex inside notRoot
    have some : parents vertex ≠ [] := by
      intro none
      refine notRoot fun source step => ?_
      rw [edges inside, none] at step
      cases step
    have largest := List.foldr_max_of_ne_nil
      (List.map_eq_nil_iff.not.mpr some : (parents vertex).map layer ≠ [])
    obtain ⟨source, member, attained⟩ := List.mem_map.mp (List.maximum_mem largest.symm)
    refine ⟨source, (edges inside source).mpr member, ?_⟩
    rw [fits inside, layerOf, if_neg some, attained]
    rfl

/-- The pass finds the lengths of the longest paths from the roots. -/
theorem findLayers_isGreatest
    {edge : Vertex → Vertex → Prop}
    {parents : Vertex → List Vertex}
    {order : List Vertex}
    (distinct : order.Nodup)
    (sorted : Sorted parents order)
    (edges : ∀ source target, edge source target ↔ source ∈ parents target)
    (layers : List (Vertex × ℕ))
    {vertex : Vertex}
    (inside : vertex ∈ order) :
    ∃ depth, (findLayers parents order layers).lookup vertex = some depth ∧
      IsGreatest (lengthsTo edge vertex) depth := by
  have fits : ∀ {vertex}, vertex ∈ order →
      found (findLayers parents order layers) vertex =
        layerOf (found (findLayers parents order layers)) (parents vertex) := by
    intro vertex inside
    conv_lhs => rw [found, lookup_findLayers distinct sorted layers inside]
    rfl
  have closed : ∀ {source target}, target ∈ order → edge source target → source ∈ order := by
    intro source target inside step
    obtain ⟨earlier, later, split⟩ := List.append_of_mem inside
    have before := sorted earlier target later split source ((edges source target).mp step)
    exact split ▸ List.mem_append_left _ before
  have layered : Layered edge (· ∈ order) (found (findLayers parents order layers)) :=
    layered_of_layerOf (fun _ source => edges source _) closed fits
  refine ⟨_, lookup_findLayers distinct sorted layers inside, ?_⟩
  rw [← fits inside]
  exact layered.isGreatest inside

end Pass

end Maze.Library.Digraph
