import Typewright.Proofs.Places

/-!
Namespaces in namespaces.

A type in nested namespaces lives in the one whose full name joins the names of all of them, from the outermost to the
innermost (`fullName`). That is the name by which other code would import it. What extraction adds to the imports is less:
the name of the innermost namespace alone, as it is written there. `namespace A.B` around a type and `namespace B` inside
`namespace A` declare the same thing, but the first is imported as `A.B` and the second as `B`.

The namespaces around a place are read off the way down to it (`spaces`). A type that stands directly in a namespace with a
body (`StandsIn`) has that one as the last of them (`StandsIn.spaces_eq`), and the full name is the name of that one exactly
if there is no other: every further one makes the full name longer, by a point at least (`fullName_eq_iff`).

Proved, for every source that is read:
- `import_is_innermost_name`: every type that stands directly in a namespace with a body is declared once, in order, under
  its own name and with the name of that namespace as its last import; this is the full name exactly where no other
  namespace is around that one.
- `inner_type_imports_innermost`: in one source both cases, beside each other; `outer_name_is_left_out` says what is lost in
  it.
-/

namespace Typewright.Source

open Syntax

/-! ## The namespaces around a place -/

namespace Tree

def isBlockNamespace (t : Tree) : Bool := t.kind? == some .blockNamespace

/-- The namespaces with a body that a place stands in, the outermost first. -/
def spaces : Tree → List Nat → List Tree
  | _, [] => []
  | t, i :: place =>
    (if t.isBlockNamespace then [t] else [])
      ++ match t.children[i]? with
        | some c => c.spaces place
        | none => []

def fullName (root : Tree) (place : List Nat) : String :=
  String.intercalate "." ((root.spaces place).map fun ns => ns.childText .name)

/-- The place stands directly in a namespace with a body. -/
def StandsIn (root : Tree) (place : List Nat) (ns : Tree) : Prop :=
  root.at? (root.outerPlace place) = some ns ∧ ns.isBlockNamespace = true

variable {t u ns root : Tree} {place : List Nat}

theorem spaces_snoc (hu : t.at? place = some u) (i : Nat) :
    t.spaces (place ++ [i]) = t.spaces place ++ if u.isBlockNamespace then [u] else [] := by
  induction place generalizing t with
  | nil =>
    cases hu
    cases hc : u.children[i]? <;> simp [spaces, hc]
  | cons j place ih =>
    obtain ⟨c, hc, hu⟩ := Option.bind_eq_some_iff.mp hu
    simp only [List.cons_append, spaces, hc, ih hu, List.append_assoc]

/-- The innermost namespace is the one that the place stands directly in. -/
theorem StandsIn.spaces_eq (h : root.StandsIn place ns) (ht : root.at? place = some t) (hp : place ≠ []) :
    root.spaces place = root.spaces (root.outerPlace place) ++ [ns] := by
  obtain ⟨hns, hblock⟩ := h
  have hkind : ns.kind? ≠ some .body := by
    intro hb
    simp [isBlockNamespace, hb] at hblock
  obtain ⟨above, i, u, rfl, hu, -⟩ := at?_above ht hp
  -- the namespace is the tree above the place, or the one above that when a body comes between
  by_cases hbody : u.kind? = some .body
  · have houter : root.outerPlace (above ++ [i]) = above.dropLast := by simp [outerPlace, hu, hbody]
    rw [houter] at hns ⊢
    have habove : above ≠ [] := by
      intro hnil
      subst hnil
      cases hu
      cases hns
      exact hkind hbody
    obtain ⟨outer, j, -, rfl, -, -⟩ := at?_above hu habove
    rw [List.dropLast_concat] at hns ⊢
    have hnot : u.isBlockNamespace = false := by simp [isBlockNamespace, hbody]
    rw [spaces_snoc hu, spaces_snoc hns, hnot, hblock]
    simp
  · have houter : root.outerPlace (above ++ [i]) = above := by simp [outerPlace, hu, hbody]
    rw [houter] at hns ⊢
    rw [hns] at hu
    cases hu
    rw [spaces_snoc hns, hblock, if_pos rfl]

/-- One namespace has its own name, and more of them a longer one. -/
theorem fullName_eq_iff {before : List Tree} (h : root.spaces place = before ++ [ns]) :
    root.fullName place = ns.childText .name ↔ before = [] := by
  constructor
  · intro hname
    by_contra hbefore
    have hjoined : root.fullName place =
        String.intercalate "." (before.map fun b => b.childText .name) ++ "." ++ ns.childText .name := by
      rw [fullName, h, List.map_append, String.intercalate_append_of_ne_nil (by simpa using hbefore) (by simp)]
      simp
    have hlength := congrArg String.length (hjoined.symm.trans hname)
    rw [String.length_append, String.length_append] at hlength
    have hdot : ".".length = 1 := rfl
    omega
  · intro hbefore
    rw [fullName, h, hbefore]
    simp

/-- A place that stands directly in a namespace belongs to it. -/
theorem StandsIn.namespaceAt? (h : root.StandsIn place ns) : root.namespaceAt? place = some ns := by
  obtain ⟨hns, hblock⟩ := h
  have hnamespace : ns.isNamespace = true := by
    rw [isNamespace, Bool.or_eq_true]
    exact .inl hblock
  rw [Tree.namespaceAt?, hns]
  simp [hnamespace]

end Tree

/-! ## Extraction -/

def Tree.declarations (root : Tree) (imports : List Piece) : List (List Nat × Declaration) :=
  (root.located {}).filterMap fun e => (e.2.declared? imports).map (e.1, ·)

theorem Tree.declarations_sorted (root : Tree) (imports : List Piece) :
    (root.declarations imports).Pairwise fun a b => a.1 < b.1 := by
  refine List.Pairwise.filterMap _ ?_ (root.located_sorted {})
  intro a b hab x hx y hy
  obtain ⟨_, -, rfl⟩ := Option.map_eq_some_iff.mp hx
  obtain ⟨_, -, rfl⟩ := Option.map_eq_some_iff.mp hy
  exact hab

/-- The declarations of a source are those of the types in it. -/
theorem extract_declarations {source : String} {trees : List Tree} (h : read? source = some trees) (imports : List Piece) :
    (extract source imports).outcome = .ok (((Tree.node .other trees).declarations imports).map (·.2)) := by
  obtain ⟨-, hextract, -⟩ := read_located h imports
  rw [hextract, Tree.declarations, List.map_filterMap, List.filterMap_map]
  simp [Function.comp_def]

/-- A type that stands directly in a namespace is declared, with the name of that namespace as the last import. -/
theorem Tree.declared_in_namespace {root : Tree} (hk : root.kind? = some .other) {place : List Nat} {t ns : Tree}
    (ht : root.at? place = some t) (hw : t.isType = true) (hs : root.StandsIn place ns) (imports : List Piece) :
    ∃ d, (place, d) ∈ root.declarations imports ∧ d.name = some (t.childText .name) ∧
      d.imports = some (imports ++ [some (ns.childText .name)]) := by
  obtain ⟨n, hn⟩ := located_isType hk ht hw
  obtain ⟨t', ht', hnode⟩ := (mem_located_scopeAt hk).mp hn
  rw [ht] at ht'
  cases ht'
  obtain ⟨-, hparent, hid, -⟩ := typeNode?_eq hnode
  have hscope : n.namespace? = some (some (ns.childText .name)) := by
    rw [TypeNode.namespace?, hparent, Option.bind_some, namespace?_scopeAt, hs.namespaceAt?]
    rfl
  have hdeclared : n.declared? imports = some (n.declared imports (some (ns.childText .name))) := by
    rw [TypeNode.declared?, hscope]
    rfl
  refine ⟨n.declared imports (some (ns.childText .name)), ?_, hid, rfl⟩
  exact List.mem_filterMap.mpr ⟨(place, n), hn, by rw [hdeclared]; rfl⟩

/-- The last import of a type in namespaces is the name of the innermost one. Every type that stands directly in a namespace
    with a body is declared once, under its own name, and with the full name of its namespace as the last import exactly where
    no other namespace is around that one. -/
theorem import_is_innermost_name {source : String} {trees : List Tree} (h : read? source = some trees)
    (imports : List Piece) :
    ∃ entries : List (List Nat × Declaration),
      (extract source imports).outcome = .ok (entries.map (·.2)) ∧ entries.Pairwise (fun a b => a.1 < b.1) ∧
      ∀ place t ns, (Tree.node .other trees).at? place = some t → t.isType = true →
        (Tree.node .other trees).StandsIn place ns →
        ∃ d, (place, d) ∈ entries ∧ d.name = some (t.childText .name) ∧
          d.imports = some (imports ++ [some (ns.childText .name)]) ∧
          (d.imports = some (imports ++ [some ((Tree.node .other trees).fullName place)]) ↔
            (Tree.node .other trees).spaces place = [ns]) := by
  refine ⟨(Tree.node .other trees).declarations imports, extract_declarations h imports,
    (Tree.node .other trees).declarations_sorted imports, ?_⟩
  intro place t ns ht hw hs
  obtain ⟨d, hd, hname, himports⟩ := Tree.declared_in_namespace rfl ht hw hs imports
  have hplace : place ≠ [] := by
    intro hnil
    subst hnil
    cases ht
    cases hw
  have hspaces := hs.spaces_eq ht hplace
  refine ⟨d, hd, hname, himports, ?_⟩
  calc d.imports = some (imports ++ [some ((Tree.node .other trees).fullName place)])
      ↔ (Tree.node .other trees).fullName place = ns.childText .name := by
        rw [himports]
        simp [eq_comm]
    _ ↔ (Tree.node .other trees).spaces ((Tree.node .other trees).outerPlace place) = [] := Tree.fullName_eq_iff hspaces
    _ ↔ (Tree.node .other trees).spaces place = [ns] := by
        rw [hspaces]
        simp

/-- A type in a namespace, and beside it one in a namespace further in. -/
def nestedSource : String := "namespace A \x7b class X \x7b \x7d namespace B.D \x7b class C \x7b \x7d \x7d \x7d"

def innerPlace : List Nat := [0, 2, 2, 2, 1]

/-- The type further in lives in `A.B.D`, but what it imports is `B.D`. -/
theorem outer_name_is_left_out :
    (read? nestedSource).map (fun trees => (Tree.node .other trees).fullName innerPlace) = some "A.B.D" ∧
      (extract nestedSource [some "U"]).outcome.toOption.map (·.map fun d => (d.name, d.imports)) =
        some [(some "X", some [some "U", some "A"]), (some "C", some [some "U", some "B.D"])] := by
  constructor
  · decide +kernel
  · decide +kernel

theorem inner_type_imports_innermost :
    ∃ trees t ns, read? nestedSource = some trees ∧ (Tree.node .other trees).at? innerPlace = some t ∧ t.isType = true ∧
      (Tree.node .other trees).StandsIn innerPlace ns ∧
      ∃ entries : List (List Nat × Declaration), (extract nestedSource [some "U"]).outcome = .ok (entries.map (·.2)) ∧
        ∃ d, (innerPlace, d) ∈ entries ∧ d.imports = some [some "U", some "B.D"] ∧
          d.imports ≠ some [some "U", some ((Tree.node .other trees).fullName innerPlace)] := by
  have hfacts : (read? nestedSource).map (fun trees =>
      (((Tree.node .other trees).at? innerPlace).map fun t => t.isType,
        ((Tree.node .other trees).at? ((Tree.node .other trees).outerPlace innerPlace)).map fun ns =>
          (ns.isBlockNamespace, ns.childText .name),
        ((Tree.node .other trees).spaces innerPlace).length)) = some (some true, some (true, "B.D"), 2) := by decide +kernel
  cases htrees : read? nestedSource with
  | none =>
    rw [htrees] at hfacts
    cases hfacts
  | some trees =>
    rw [htrees, Option.map_some, Option.some.injEq, Prod.mk.injEq, Prod.mk.injEq] at hfacts
    obtain ⟨htype, houter, hspaces⟩ := hfacts
    obtain ⟨t, ht, hw⟩ := Option.map_eq_some_iff.mp htype
    obtain ⟨ns, hns, hname⟩ := Option.map_eq_some_iff.mp houter
    obtain ⟨hblock, hname⟩ := Prod.mk.inj hname
    obtain ⟨entries, hextract, -, hentries⟩ := import_is_innermost_name htrees [some "U"]
    obtain ⟨d, hd, -, himports, hiff⟩ := hentries innerPlace t ns ht hw ⟨hns, hblock⟩
    rw [hname] at himports
    refine ⟨trees, t, ns, rfl, ht, hw, ⟨hns, hblock⟩, entries, hextract, d, hd, himports, ?_⟩
    intro hfull
    have hone := hiff.mp hfull
    rw [hone] at hspaces
    cases hspaces

end Typewright.Source
