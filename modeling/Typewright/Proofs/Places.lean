import Typewright.Proofs.Declared

/-!
The places of types in a source.

A place is the way down to a tree, child by child (`Tree.at?`), so places are ordered as the source is: by the first number
in which they differ, outer ones before those inside them. In terms of places it can be said what a listing of the types of
a source should be, without saying how it is made (`Listing`):
- its entries are in the order of their places, so no type comes twice;
- there is an entry for each place where a type is declared, and for no other;
- an entry has the name and the kind of the type at its place, and what the surroundings of the place tell as its parent
  (`scopeAt`);
- a type that is declared in a type comes after it.

The parent of a place is told by looking up and back. What it stands in is the tree above it, or the one above that when a
body comes between (`outerPlace`). If that is a namespace, it is the parent; if it is a type, it is; and otherwise the last
namespace without a body among the neighbours before it, or nothing that has a name (`namespaceAt?`).

The listing that runs does not look up. It hands down what the trees below will stand among (`Surroundings`), so the step
from the one to the other is an induction over the way down (`surroundingsAt_snoc`), and what is found at the end of it is
what looking up and back finds (`parent_surroundingsAt`). Nothing is asked of the shape of the tree, but that its root is no
type: also trees that no source has are listed like that.

Proved:
- `Tree.listing_located`: the types of every tree that stands for a file are a `Listing`.
- `read_located`: what is listed and what is extracted from a source, by places.
- `passed_over_iff`: the test before extraction passes over just what extraction would refuse.
- `namespace_types_extracted_once`: of every source that is read, the types that belong to a namespace are extracted once
  each and in order, with that namespace as the last of the imports.
-/

namespace Typewright.Source

open Syntax

namespace Tree

def at? : Tree → List Nat → Option Tree
  | t, [] => some t
  | t, i :: place => t.children[i]?.bind fun c => c.at? place

def isType (t : Tree) : Bool := t.word?.isSome

theorem typeNode?_isType {parent : Node} {t : Tree} {n : TypeNode} (h : t.typeNode? parent = some n) : t.isType = true := by
  obtain ⟨-, -, -, w, hw, -⟩ := typeNode?_eq h
  rw [isType, hw, Option.isSome_some]

end Tree

/-! ## Types with their places -/

mutual

def Tree.located (s : Surroundings) : Tree → List (List Nat × TypeNode)
  | .leaf _ => []
  | .node kind children =>
    let self := Tree.node kind children
    (self.typeNode? s.parent).toList.map (([], ·)) ++ treesLocated (s.inside self) 0 children

def treesLocated (s : Surroundings) (i : Nat) : List Tree → List (List Nat × TypeNode)
  | [] => []
  | t :: rest => (t.located s).map (fun e => (i :: e.1, e.2)) ++ treesLocated (s.past t) (i + 1) rest

end

mutual

theorem Tree.located_types : (t : Tree) → ∀ s, (t.located s).map (·.2) = t.types s
  | .leaf _ => by
    intro s
    rw [Tree.located, Tree.types]
    rfl
  | .node kind children => by
    intro s
    rw [Tree.located, Tree.types, List.map_append, treesLocated_types children, List.map_map]
    simp [Function.comp_def]

theorem treesLocated_types : (ts : List Tree) → ∀ s i, (treesLocated s i ts).map (·.2) = treeTypes s ts
  | [] => by
    intro s i
    rw [treesLocated, treeTypes]
    rfl
  | t :: rest => by
    intro s i
    rw [treesLocated, treeTypes, List.map_append, treesLocated_types rest, List.map_map, ← Tree.located_types t]
    rfl

end

theorem mem_treesLocated {s : Surroundings} {i : Nat} {ts : List Tree} {place : List Nat} {n : TypeNode} :
    (place, n) ∈ treesLocated s i ts ↔
      ∃ j below t, place = (i + j) :: below ∧ ts[j]? = some t ∧ (below, n) ∈ t.located ((ts.take j).foldl .past s) := by
  induction ts generalizing s i with
  | nil => simp [treesLocated]
  | cons t rest ih =>
    rw [treesLocated, List.mem_append, ih, List.mem_map]
    constructor
    · rintro (⟨⟨below, m⟩, hm, he⟩ | ⟨j, below, u, rfl, hu, hm⟩)
      · cases he
        exact ⟨0, below, t, rfl, rfl, hm⟩
      · exact ⟨j + 1, below, u, by rw [Nat.add_right_comm, Nat.add_assoc], hu, hm⟩
    · rintro ⟨j, below, u, rfl, hu, hm⟩
      cases j with
      | zero =>
        cases hu
        exact .inl ⟨(below, n), hm, rfl⟩
      | succ j => exact .inr ⟨j, below, u, by rw [Nat.add_right_comm, Nat.add_assoc], hu, hm⟩

/-- What the tree at a place stands among, found on the way down. -/
def Tree.surroundingsAt (s : Surroundings) : Tree → List Nat → Surroundings
  | _, [] => s
  | t, i :: place =>
    match t.children[i]? with
    | some c => c.surroundingsAt ((t.children.take i).foldl .past (s.inside t)) place
    | none => {}

theorem Tree.mem_located {place : List Nat} {n : TypeNode} {t : Tree} {s : Surroundings} :
    (place, n) ∈ t.located s ↔ ∃ u, t.at? place = some u ∧ u.typeNode? (t.surroundingsAt s place).parent = some n := by
  -- The way down is the list that `at?` and `surroundingsAt` recurse on; a tree is only opened for its children.
  induction place generalizing t s with
  | nil =>
    have hnone : ∀ s i ts, ([], n) ∉ treesLocated s i ts := by simp [mem_treesLocated]
    cases t with
    | leaf t => simp [located, at?, typeNode?, kind?]
    | node kind children => simp [located, at?, surroundingsAt, hnone]
  | cons i place ih =>
    cases t with
    | leaf t => simp [located, at?, children]
    | node kind children =>
      have hself : (i :: place, n) ∉ ((Tree.node kind children).typeNode? s.parent).toList.map (([], ·)) := by simp
      simp only [located, List.mem_append, hself, false_or, mem_treesLocated, Nat.zero_add, List.cons.injEq, at?,
        surroundingsAt, Tree.children]
      constructor
      · rintro ⟨j, below, c, ⟨rfl, rfl⟩, hc, hm⟩
        simp only [hc, Option.bind_some]
        exact ih.mp hm
      · rintro ⟨u, hu, hn⟩
        obtain ⟨c, hc, hu⟩ := Option.bind_eq_some_iff.mp hu
        simp only [hc] at hn
        exact ⟨i, place, c, ⟨rfl, rfl⟩, hc, ih.mpr ⟨u, hu, hn⟩⟩

mutual

/-- Types are listed in the order of their places. -/
theorem Tree.located_sorted : (t : Tree) → ∀ s, (t.located s).Pairwise fun a b => a.1 < b.1
  | .leaf _ => by
    intro s
    rw [Tree.located]
    exact .nil
  | .node kind children => by
    intro s
    rw [Tree.located]
    refine List.pairwise_append.mpr ⟨?_, treesLocated_sorted children _ _, ?_⟩
    · cases (Tree.node kind children).typeNode? s.parent <;> simp
    · rintro ⟨p, m⟩ hp ⟨q, n⟩ hq
      obtain ⟨_, _, hp⟩ := List.mem_map.mp hp
      obtain ⟨j, below, u, rfl, -⟩ := mem_treesLocated.mp hq
      cases hp
      exact List.nil_lt_cons _ _

theorem treesLocated_sorted : (ts : List Tree) → ∀ s i, (treesLocated s i ts).Pairwise fun a b => a.1 < b.1
  | [] => by
    intro s i
    rw [treesLocated]
    exact .nil
  | t :: rest => by
    intro s i
    rw [treesLocated]
    refine List.pairwise_append.mpr ⟨List.pairwise_map.mpr ?_, treesLocated_sorted rest _ _, ?_⟩
    · exact (Tree.located_sorted t s).imp fun h => List.cons_lt_cons_iff.mpr (.inr ⟨rfl, h⟩)
    · rintro ⟨p, m⟩ hp ⟨q, n⟩ hq
      obtain ⟨e, -, he⟩ := List.mem_map.mp hp
      obtain ⟨j, below, u, rfl, -⟩ := mem_treesLocated.mp hq
      cases he
      exact List.cons_lt_cons_iff.mpr (.inl (by omega))

end

/-! ## Parents -/

def nearest (before : Option Node) (ts : List Tree) : Option Node := ts.foldl (fun b t => t.fileScope? <|> b) before

/-- Neighbours change nothing but the namespace that was last declared. -/
theorem foldl_past (s : Surroundings) (ts : List Tree) : ts.foldl .past s = { s with before := nearest s.before ts } := by
  induction ts generalizing s with
  | nil => rfl
  | cons t ts ih => exact ih (s.past t)

namespace Tree

variable {t u c root : Tree} {place : List Nat} {i : Nat}

theorem at?_snoc (place : List Nat) (i : Nat) (t : Tree) : t.at? (place ++ [i]) = (t.at? place).bind fun u => u.children[i]? := by
  induction place generalizing t with
  | nil => simp [at?]
  | cons j place ih => simp [at?, ih, Option.bind_assoc]

/-- A tree below the root stands right in another one. -/
theorem at?_above (hc : t.at? place = some c) (hp : place ≠ []) :
    ∃ above i u, place = above ++ [i] ∧ t.at? above = some u ∧ u.children[i]? = some c := by
  obtain ⟨above, i, rfl⟩ : ∃ above i, place = above ++ [i] := ⟨_, _, (List.dropLast_append_getLast hp).symm⟩
  rw [at?_snoc] at hc
  obtain ⟨u, hu, hc⟩ := Option.bind_eq_some_iff.mp hc
  exact ⟨above, i, u, rfl, hu, hc⟩

/-- In a file every type stands in something: the file itself is none. -/
theorem above_type (hk : root.kind? = some .other) (ht : root.at? place = some t) (hw : t.isType = true) :
    ∃ above i u, place = above ++ [i] ∧ root.at? above = some u ∧ u.children[i]? = some t := by
  refine at?_above ht ?_
  rintro rfl
  cases ht
  simp [isType, word?, hk, typeWord?] at hw

theorem surroundingsAt_snoc {s : Surroundings} (hu : t.at? place = some u) (hc : u.children[i]? = some c) :
    t.surroundingsAt s (place ++ [i]) =
      { (t.surroundingsAt s place).inside u with before := nearest none (u.children.take i) } := by
  induction place generalizing t s with
  | nil =>
    cases hu
    simp only [List.nil_append, surroundingsAt, hc, foldl_past]
    rfl
  | cons j place ih =>
    obtain ⟨d, hd, hu⟩ := Option.bind_eq_some_iff.mp hu
    simp only [List.cons_append, surroundingsAt, hd]
    exact ih hu

/-- The place of what a type stands in: the tree above it, or the one above that when a body comes between. -/
def outerPlace (root : Tree) (place : List Nat) : List Nat :=
  if (root.at? place.dropLast).bind kind? = some .body then place.dropLast.dropLast else place.dropLast

def earlier (root : Tree) (place : List Nat) : List Tree :=
  (((root.at? place.dropLast).map children).getD []).take (place.getLast?.getD 0)

def isFileNamespace (t : Tree) : Bool := t.kind? == some .fileNamespace

def isNamespace (t : Tree) : Bool := t.kind? == some .blockNamespace || t.isFileNamespace

/-- The namespace that a place belongs to: what it stands in, or else, unless that is a type, the last namespace without a body
among the neighbours before it. -/
def namespaceAt? (root : Tree) (place : List Nat) : Option Tree :=
  match root.at? (root.outerPlace place) with
  | none => none
  | some outer =>
    if outer.isNamespace then some outer
    else if outer.isType then none
    else (root.earlier place).reverse.find? isFileNamespace

def asScope (word : String) (t : Tree) : Node := .scope (some (t.childText .name)) (some word)

theorem scope?_eq (t : Tree) :
    t.scope? = if t.isNamespace then some (t.asScope "namespace") else t.word?.map fun w => t.asScope w := by
  cases t with
  | leaf t => rfl
  | node kind children => cases kind <;> rfl

theorem nearest_eq (before : Option Node) (ts : List Tree) :
    nearest before ts = ((ts.reverse.find? isFileNamespace).map (asScope "namespace")).or before := by
  induction ts generalizing before with
  | nil => rfl
  | cons t ts ih =>
    have hfile : t.fileScope? = if t.isFileNamespace then some (t.asScope "namespace") else none := by
      rw [fileScope?, scope?_eq, isNamespace, isFileNamespace]
      cases t.kind? == some .fileNamespace <;> simp
    show nearest (t.fileScope? <|> before) ts = _
    rw [ih, List.reverse_cons, List.find?_append, List.find?_singleton, hfile]
    cases ts.reverse.find? isFileNamespace with
    | some u => rfl
    | none => cases t.isFileNamespace <;> rfl

/-- What stands around a place is the tree above it, or the one above that when a body comes between. -/
theorem outerPlace_cases (hb : root.kind? ≠ some .body) (hu : root.at? place = some u) :
    u.kind? ≠ some .body ∧ root.outerPlace (place ++ [i]) = place ∨
      ∃ above j outer, u.kind? = some .body ∧ place = above ++ [j] ∧ root.at? above = some outer ∧
        outer.children[j]? = some u ∧ root.outerPlace (place ++ [i]) = above := by
  by_cases hbody : u.kind? = some .body
  · have hplace : place ≠ [] := by
      rintro rfl
      cases hu
      exact hb hbody
    obtain ⟨above, j, outer, rfl, ho, hou⟩ := at?_above hu hplace
    exact .inr ⟨above, j, outer, hbody, rfl, ho, hou, by simp [outerPlace, hu, hbody]⟩
  · exact .inl ⟨hbody, by simp [outerPlace, hu, hbody]⟩

/-- The place of what stands around a place is above it, and the way down finds what stands there. -/
theorem outerPlace_eq (hb : root.kind? ≠ some .body) (hu : root.at? place = some u) (hc : u.children[i]? = some c) :
    ∃ outer, root.at? (root.outerPlace (place ++ [i])) = some outer ∧ root.outerPlace (place ++ [i]) <+: place ∧
      (root.surroundingsAt {} (place ++ [i])).around = outer.scope? := by
  rw [surroundingsAt_snoc hu hc]
  rcases outerPlace_cases (i := i) hb hu with ⟨hbody, houter⟩ | ⟨above, j, outer, hbody, rfl, ho, hou, houter⟩
  · refine ⟨u, by rw [houter, hu], by simp [houter], ?_⟩
    rw [Surroundings.inside, if_neg hbody]
  · refine ⟨outer, by rw [houter, ho], by rw [houter]; exact List.prefix_append _ _, ?_⟩
    -- One body is looked through: what is right above it counts, whatever stands above that.
    rw [surroundingsAt_snoc ho hou, Surroundings.inside, if_pos hbody]
    rfl

theorem typeWord?_ne {k : Kind} {w : String} (h : typeWord? k = some w) : w ≠ "namespace" ∧ w ≠ "other" := by
  cases k <;> cases h <;> decide

/-- What a type at a place belongs to: its namespace, or the type around it, or nothing that has a name. -/
def scopeAt (root : Tree) (place : List Nat) : Node :=
  match root.namespaceAt? place with
  | some ns => ns.asScope "namespace"
  | none =>
    ((root.at? (root.outerPlace place)).bind fun outer => outer.word?.map fun w => outer.asScope w).getD noScope

/-- The parent found on the way down is what the surroundings of the place tell. -/
theorem parent_surroundingsAt (hb : root.kind? ≠ some .body) (hu : root.at? place = some u) (hc : u.children[i]? = some c) :
    (root.surroundingsAt {} (place ++ [i])).parent = root.scopeAt (place ++ [i]) := by
  obtain ⟨outer, houter, -, haround⟩ := outerPlace_eq hb hu hc
  have hearlier : root.earlier (place ++ [i]) = u.children.take i := by simp [earlier, hu]
  have hbefore : (root.surroundingsAt {} (place ++ [i])).before = nearest none (root.earlier (place ++ [i])) := by
    rw [surroundingsAt_snoc hu hc, hearlier]
  rw [Surroundings.parent, haround, hbefore, scopeAt, namespaceAt?, houter, scope?_eq, nearest_eq]
  cases hns : outer.isNamespace with
  | true => simp [hns]
  | false =>
    rcases outer.word?.eq_none_or_eq_some with hw | ⟨w, hw⟩
    · cases (root.earlier (place ++ [i])).reverse.find? isFileNamespace <;> simp [hns, isType, hw]
    · simp [hns, isType, hw]

theorem scopeAt_cases (root : Tree) (place : List Nat) :
    (∃ ns, root.namespaceAt? place = some ns ∧ root.scopeAt place = ns.asScope "namespace") ∨
      root.namespaceAt? place = none ∧
        ((∃ outer w, root.at? (root.outerPlace place) = some outer ∧ outer.word? = some w ∧
          root.scopeAt place = outer.asScope w) ∨ root.scopeAt place = noScope) := by
  unfold scopeAt
  cases root.namespaceAt? place with
  | some ns => exact .inl ⟨ns, rfl, rfl⟩
  | none =>
    refine .inr ⟨rfl, ?_⟩
    cases root.at? (root.outerPlace place) with
    | none => exact .inr rfl
    | some outer =>
      rcases outer.word?.eq_none_or_eq_some with hw | ⟨w, hw⟩
      · exact .inr (by simp [hw])
      · exact .inl ⟨outer, w, rfl, hw, by simp [hw]⟩

/-- The namespace of what belongs to a place. -/
theorem namespace?_scopeAt (root : Tree) (place : List Nat) :
    (root.scopeAt place).namespace? = (root.namespaceAt? place).map fun ns => some (ns.childText .name) := by
  rcases root.scopeAt_cases place with ⟨ns, hns, hs⟩ | ⟨hns, ⟨outer, w, -, hw, hs⟩ | hs⟩
  · rw [hns, hs]
    rfl
  · obtain ⟨k, -, hk⟩ := Option.bind_eq_some_iff.mp hw
    rw [hns, hs, asScope, Node.namespace?]
    · rfl
    · intro name h
      cases h
      exact (typeWord?_ne hk).1 rfl
  · rw [hns, hs]
    rfl

end Tree

/-! ## The listing -/

theorem lt_append {place rest : List Nat} (h : rest ≠ []) : place < place ++ rest := by
  induction place with
  | nil =>
    obtain ⟨i, rest, rfl⟩ := List.exists_cons_of_ne_nil h
    exact List.nil_lt_cons _ _
  | cons i place ih => exact List.cons_lt_cons_iff.mpr (.inr ⟨rfl, ih⟩)

/-- In a sorted list, the entry at the earlier place comes first. -/
theorem sublist_of_sorted {entries : List (List Nat × TypeNode)} (h : entries.Pairwise fun a b => a.1 < b.1)
    {o e : List Nat × TypeNode} (ho : o ∈ entries) (he : e ∈ entries) (hlt : o.1 < e.1) : [o, e].Sublist entries := by
  obtain ⟨before, after, rfl⟩ := List.append_of_mem he
  obtain ⟨-, hafter, -⟩ := List.pairwise_append.mp h
  rcases List.mem_append.mp ho with ho | ho
  · exact (List.singleton_sublist.mpr ho).append ((List.nil_sublist after).cons_cons e)
  · rcases List.mem_cons.mp ho with rfl | ho
    · exact absurd hlt (List.lt_irrefl _)
    · exact absurd hlt (List.lt_asymm ((List.pairwise_cons.mp hafter).1 o ho))

/-- Entries are the types of a tree: those at all places where there are any, once each and in order, under their names and kinds
and in the scopes of their places, and after the types they stand in. -/
structure Listing (root : Tree) (entries : List (List Nat × TypeNode)) : Prop where
  sorted : entries.Pairwise fun a b => a.1 < b.1
  complete : ∀ place, place ∈ entries.map (·.1) ↔ ∃ t, root.at? place = some t ∧ t.isType = true
  told : ∀ e ∈ entries, ∃ t w, root.at? e.1 = some t ∧ t.word? = some w ∧
    e.2.identifier = some (t.childText .name) ∧ e.2.kind = some w ∧ e.2.parent = some (root.scopeAt e.1)
  enclosed : ∀ e ∈ entries, ∀ name word kind, e.2.parent = some (.scope name (some word)) → typeWord? kind = some word →
    ∃ o, [o, e].Sublist entries ∧ o.1 = root.outerPlace e.1 ∧ o.2.identifier = name ∧ o.2.kind = some word

section

variable {root : Tree} (hk : root.kind? = some .other)

include hk

/-- The way down to a type at a place, and the parent found on it. -/
theorem Tree.type_place {place : List Nat} {t : Tree} (ht : root.at? place = some t) (hw : t.isType = true) :
    root.outerPlace place < place ∧ (root.surroundingsAt {} place).parent = root.scopeAt place := by
  have hb : root.kind? ≠ some .body := by rw [hk]; simp
  obtain ⟨above, i, u, rfl, hu, hc⟩ := above_type hk ht hw
  obtain ⟨-, -, ⟨rest, hrest⟩, -⟩ := outerPlace_eq hb hu hc
  refine ⟨?_, parent_surroundingsAt hb hu hc⟩
  calc root.outerPlace (above ++ [i])
      < root.outerPlace (above ++ [i]) ++ (rest ++ [i]) := lt_append (by simp)
    _ = above ++ [i] := by rw [← List.append_assoc, hrest]

theorem Tree.mem_located_scopeAt {place : List Nat} {n : TypeNode} :
    (place, n) ∈ root.located {} ↔ ∃ t, root.at? place = some t ∧ t.typeNode? (root.scopeAt place) = some n := by
  have hsame : ∀ t, root.at? place = some t → ∀ parent, t.typeNode? parent = some n →
      (root.surroundingsAt {} place).parent = root.scopeAt place := by
    intro t ht parent hn
    exact (type_place hk ht (typeNode?_isType hn)).2
  rw [mem_located]
  constructor
  · rintro ⟨t, ht, hn⟩
    exact ⟨t, ht, hsame t ht _ hn ▸ hn⟩
  · rintro ⟨t, ht, hn⟩
    exact ⟨t, ht, (hsame t ht _ hn).symm ▸ hn⟩

theorem Tree.located_isType {place : List Nat} {t : Tree} (ht : root.at? place = some t) (hw : t.isType = true) :
    ∃ n, (place, n) ∈ root.located {} := by
  obtain ⟨w, hw⟩ := Option.isSome_iff_exists.mp hw
  have hsome : ∃ n, t.typeNode? (root.scopeAt place) = some n := by
    rw [typeNode?, show t.kind?.bind typeWord? = some w from hw]
    exact ⟨_, rfl⟩
  obtain ⟨n, hn⟩ := hsome
  exact ⟨n, (mem_located_scopeAt hk).mpr ⟨t, ht, hn⟩⟩

/-- Of every tree that stands for a file, whatever its shape, the types are listed. -/
theorem Tree.listing_located : Listing root (root.located {}) where
  sorted := root.located_sorted {}
  complete place := by
    constructor
    · intro hp
      obtain ⟨⟨_, n⟩, hn, rfl⟩ := List.mem_map.mp hp
      obtain ⟨t, ht, hn⟩ := (mem_located_scopeAt hk).mp hn
      exact ⟨t, ht, typeNode?_isType hn⟩
    · rintro ⟨t, ht, hw⟩
      obtain ⟨n, hn⟩ := located_isType hk ht hw
      exact List.mem_map.mpr ⟨_, hn, rfl⟩
  told e he := by
    obtain ⟨t, ht, hn⟩ := (mem_located_scopeAt hk).mp he
    obtain ⟨-, hparent, hid, w, hw, hkind⟩ := typeNode?_eq hn
    exact ⟨t, w, ht, hw, hid, hkind, hparent⟩
  enclosed e he name word kind hparent hword := by
    obtain ⟨t, ht, hn⟩ := (mem_located_scopeAt hk).mp he
    obtain ⟨-, hp, -⟩ := typeNode?_eq hn
    rw [hparent, Option.some.injEq] at hp
    have hlt := (type_place hk ht (typeNode?_isType hn)).1
    rcases root.scopeAt_cases e.1 with ⟨ns, -, hs⟩ | ⟨-, ⟨outer, w', houter, hw', hs⟩ | hs⟩
    · rw [hs] at hp
      cases hp
      exact absurd rfl (typeWord?_ne hword).1
    · rw [hs] at hp
      cases hp
      obtain ⟨m, hm⟩ := located_isType hk houter (by rw [isType, hw', Option.isSome_some])
      obtain ⟨o, ho, hom⟩ := (mem_located_scopeAt hk).mp hm
      rw [houter] at ho
      cases ho
      obtain ⟨-, -, hid, w, hw, hkind⟩ := typeNode?_eq hom
      rw [hw'] at hw
      cases hw
      exact ⟨_, sublist_of_sorted (root.located_sorted {}) hm he hlt, rfl, hid, hkind⟩
    · rw [hs] at hp
      cases hp
      exact absurd rfl (typeWord?_ne hword).2

end

/-- The test before extraction passes over just what extraction would refuse. -/
theorem passed_over_iff {t : TypeNode} (h : t.Fits) (hs : Scoped t) (imports : List Piece) :
    parentKind? t ≠ some (some "namespace") ↔ (t.extract imports).outcome = .error (.noNamespace t.identifier t.parent) := by
  rw [ne_eq, ← hs.namespace_iff, TypeNode.extract_outcome h]
  cases t.namespace? <;> simp

/-- The declaration is that of the entry, with the namespace at its place as the last import. -/
def Extracts (root : Tree) (imports : List Piece) (e : List Nat × TypeNode) (d : Declaration) : Prop :=
  d.name = e.2.identifier ∧ ∃ ns, root.namespaceAt? e.1 = some ns ∧ d.imports = some (imports ++ [some (ns.childText .name)])

theorem extracts_declared {root : Tree} (imports : List Piece) {entries : List (List Nat × TypeNode)}
    (h : ∀ e ∈ entries, e.2.parent = some (root.scopeAt e.1)) :
    List.Forall₂ (Extracts root imports) (entries.filter fun e => (root.namespaceAt? e.1).isSome)
      ((entries.map (·.2)).filterMap (TypeNode.declared? imports)) := by
  induction entries with
  | nil => exact .nil
  | cons e entries ih =>
    have ih := ih fun f hf => h f (by simp [hf])
    have hns : e.2.namespace? = (root.namespaceAt? e.1).map fun ns => some (ns.childText .name) := by
      rw [TypeNode.namespace?, h e (by simp), Option.bind_some, Tree.namespace?_scopeAt]
    rw [List.map_cons]
    cases hn : root.namespaceAt? e.1 with
    | none =>
      have hnone : e.2.declared? imports = none := by rw [TypeNode.declared?, hns, hn]; rfl
      rw [List.filter_cons_of_neg (by simp [hn]), List.filterMap_cons_none hnone]
      exact ih
    | some ns =>
      have hsome : e.2.declared? imports = some (e.2.declared imports (some (ns.childText .name))) := by
        rw [TypeNode.declared?, hns, hn]
        rfl
      rw [List.filter_cons_of_pos (by simp [hn]), List.filterMap_cons_some hsome]
      exact .cons ⟨rfl, ns, hn, rfl⟩ ih

/-- What is read from a source, in terms of the places of its types: all of them are listed, and those in a namespace declared. -/
theorem read_located {source : String} {trees : List Tree} (h : read? source = some trees) (imports : List Piece) :
    (listTypes source).outcome = .ok (((Tree.node .other trees).located {}).map (·.2)) ∧
      (extract source imports).outcome =
        .ok ((((Tree.node .other trees).located {}).map (·.2)).filterMap (TypeNode.declared? imports)) ∧
      ∀ e ∈ (Tree.node .other trees).located {}, e.2.Fits ∧ Scoped e.2 := by
  have hlocated : ((Tree.node .other trees).located {}).map (·.2) = treeTypes {} trees := by
    rw [Tree.located_types, Tree.types]
    rfl
  have hlisted : ∀ t ∈ treeTypes {} trees, t.Fits ∧ Scoped t := treeTypes_listed Surroundings.areScopes_none trees
  have hlist : listTypes source = ⟨.ok (treeTypes {} trees), [foundNote (treeTypes {} trees)]⟩ := by
    rw [listTypes, types?, h]
    rfl
  refine ⟨by rw [hlist, hlocated], ?_, fun e he => hlisted e.2 (hlocated ▸ List.mem_map_of_mem he)⟩
  rw [extract, hlist, hlocated]
  exact extractTypes_outcome imports hlisted

/-- The types of a source are listed once each and in order, and those that belong to a namespace are extracted: under their own
names, with the namespace as the last of the imports. What is passed over is just what extraction would refuse. -/
theorem namespace_types_extracted_once {source : String} {trees : List Tree} (h : read? source = some trees)
    (imports : List Piece) :
    ∃ entries ds, (listTypes source).outcome = .ok (entries.map (·.2)) ∧ Listing (.node .other trees) entries ∧
      (extract source imports).outcome = .ok ds ∧
      List.Forall₂ (Extracts (.node .other trees) imports)
        (entries.filter fun e => ((Tree.node .other trees).namespaceAt? e.1).isSome) ds ∧
      ∀ e ∈ entries, parentKind? e.2 ≠ some (some "namespace") ↔
        (e.2.extract imports).outcome = .error (.noNamespace e.2.identifier e.2.parent) := by
  obtain ⟨hlist, hextract, hlisted⟩ := read_located h imports
  have hlisting : Listing (.node .other trees) ((Tree.node .other trees).located {}) := Tree.listing_located rfl
  refine ⟨_, _, hlist, hlisting, hextract, extracts_declared imports fun e he => ?_, fun e he => ?_⟩
  · obtain ⟨t, w, -, -, -, -, hparent⟩ := hlisting.told e he
    exact hparent
  · obtain ⟨hfit, hscoped⟩ := hlisted e he
    exact passed_over_iff hfit hscoped imports

/-- A type outside namespaces, one in a namespace with another one in it, and one after a namespace without a body. -/
def mixedSource : String :=
  "interface IC \x7b \x7d namespace N \x7b class A \x7b struct B \x7b \x7d \x7d \x7d namespace M.L; record D;"

theorem mixed_source_extracted :
    ∃ trees, read? mixedSource = some trees ∧ ∃ entries ds,
      (listTypes mixedSource).outcome = .ok (entries.map (·.2)) ∧ Listing (.node .other trees) entries ∧
      (extract mixedSource [some "U"]).outcome = .ok ds ∧
      ds.map (fun d => (d.name, d.imports)) =
        [(some "A", some [some "U", some "N"]), (some "D", some [some "U", some "M.L"])] := by
  have hextract : (extract mixedSource [some "U"]).outcome.toOption.map (·.map fun d => (d.name, d.imports)) =
      some [(some "A", some [some "U", some "N"]), (some "D", some [some "U", some "M.L"])] := by decide +kernel
  cases htrees : read? mixedSource with
  | none =>
    rw [extract, listTypes, types?, htrees] at hextract
    cases hextract
  | some trees =>
    obtain ⟨entries, ds, hlist, hlisting, hds, -⟩ := namespace_types_extracted_once htrees [some "U"]
    refine ⟨trees, rfl, entries, ds, hlist, hlisting, hds, ?_⟩
    rw [hds] at hextract
    exact Option.some.inj hextract

end Typewright.Source
