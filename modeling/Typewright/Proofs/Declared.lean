import Typewright.Proofs.Requirements
import Typewright.Source.Extraction

/-!
What extraction makes of a type.

Extraction reads a node by its kinds and not by its shapes, so a node whose member says that it is a method and is none
makes it fail. A type fits (`TypeNode.Fits`) when nothing of the kind can happen: its bases and the arguments of its
attributes are texts, and each member has the shape that its kind calls for (`Node.Fits`). Then nothing can go wrong but the
place of the type, and the declaration can be given without reading: `TypeNode.declared` is one pass over the members for
the methods and one for the properties, with the quotes taken from the arguments of attributes.

Of a type that fits:
- `inNamespace_declared`: extraction gives that declaration.
- `extract_outcome`: it does so exactly for a type that stands directly in a namespace, and complains about the parent
  otherwise.
- `extractTypes_outcome`: of a list of such types those in namespaces are declared, in order, and the others are passed
  over.

That a type fits is no assumption about sources. What the listing finds there is built from trees, which give every field a
text and every member the shape of its kind, and its parent is always a scope, never a type node or nothing
(`treeTypes_listed`). The scopes that are handed down in the listing keep to this (`AreScopes`), which is the invariant of
the walk over the tree.
-/

namespace Typewright

open Syntax

/-! ## Types that fit -/

def Attribute.unquoted (a : Attribute) : Attribute :=
  { a with arguments := a.arguments.map fun xs => xs.map fun x => x.map Text.stripQuotes }

theorem Attribute.HasTexts.unquoted {a : Attribute} (h : a.HasTexts) : a.unquoted.HasTexts := by
  unfold HasTexts Attribute.unquoted at *
  cases ha : a.arguments with
  | none => simp
  | some xs => simpa [ha] using h

namespace Syntax

def AttributeLists.unquoted (lists : AttributeLists) : List Attribute := (lists.getD []).flatten.map Attribute.unquoted

def AttributeLists.HaveTexts (lists : AttributeLists) : Prop := ∀ a ∈ (lists.getD []).flatten, a.HasTexts

theorem AttributeLists.HaveTexts.unquoted {lists : AttributeLists} (h : lists.HaveTexts) :
    ∀ a ∈ lists.unquoted, a.HasTexts := by
  intro a ha
  obtain ⟨b, hb, rfl⟩ := List.mem_map.mp ha
  exact (h b hb).unquoted

/-- The member has the shape that its kind calls for. -/
inductive Node.Fits : Node → Prop
  | method (identifier returnType : Piece) (ps : List Syntax.Parameter) {lists : AttributeLists} (h : lists.HaveTexts) :
    Fits (.methodNode identifier returnType (some ps) lists (some "method"))
  | property (identifier type : Piece) : Fits (.propertyNode identifier type (some "property"))
  | other {n : Node} {kind : Piece} (h : n.kind = .ok kind) (hm : kind ≠ some "method") (hp : kind ≠ some "property") : Fits n

def Node.method? : Node → Option Method
  | .methodNode identifier returnType ps lists (some "method") =>
    some
      { name := identifier, returnType, keywords := some [some "public"],
        parameters := some ((ps.getD []).map fun p => { name := p.identifier, type := p.type }), body := some [],
        attributes := some lists.unquoted }
  | _ => none

def Node.property? : Node → Option Property
  | .propertyNode identifier type (some "property") => some { name := identifier, type }
  | _ => none

theorem Node.method?_other {n : Node} {kind : Piece} (h : n.kind = .ok kind) (hm : kind ≠ some "method") : n.method? = none := by
  unfold method?
  split
  · cases h
    exact absurd rfl hm
  · rfl

theorem Node.property?_other {n : Node} {kind : Piece} (h : n.kind = .ok kind) (hp : kind ≠ some "property") :
    n.property? = none := by
  unfold property?
  split
  · cases h
    exact absurd rfl hp
  · rfl

/-- Nothing about the type itself keeps it from being extracted. -/
structure TypeNode.Fits (t : TypeNode) : Prop where
  bases : ∀ b ∈ t.baseList.getD [], b ≠ none
  attributes : t.attributeLists.HaveTexts
  members : ∃ ms, t.members = some ms ∧ ∀ n ∈ ms, n.Fits

def TypeNode.declared (t : TypeNode) (imports : List Piece) (scope : Piece) : Declaration where
  name := t.identifier
  imports := some (imports ++ [scope])
  keywords := some [some "public"]
  attributes := some t.attributeLists.unquoted
  implementations := t.baseList.map fun bases => String.intercalate "," (bases.map Piece.shown)
  methods := some ((t.members.getD []).filterMap Node.method?)
  properties := some ((t.members.getD []).filterMap Node.property?)

def TypeNode.declared? (imports : List Piece) (t : TypeNode) : Option Declaration := t.namespace?.map (t.declared imports)

end Syntax

/-! ## Extraction -/

namespace Extraction

theorem mapM_ok {α β ε : Type} {f : α → Except ε β} {g : α → β} {xs : List α} (h : ∀ x ∈ xs, f x = .ok (g x)) :
    xs.mapM f = .ok (xs.map g) := by
  induction xs with
  | nil => rfl
  | cons x xs ih =>
    rw [List.mapM_cons, h x (by simp), ih fun y hy => h y (by simp [hy])]
    rfl

theorem plainAttribute_unquoted {a : Attribute} (h : a.HasTexts) : plainAttribute a = .ok a.unquoted := by
  obtain ⟨name, arguments⟩ := a
  cases arguments with
  | none => rfl
  | some xs =>
    have hx : xs.mapM argument = .ok (xs.map fun x => x.map Text.stripQuotes) := by
      refine mapM_ok fun x hx => ?_
      obtain ⟨s, rfl⟩ := Option.ne_none_iff_exists'.mp (h x hx)
      rfl
    simp only [plainAttribute, hx, Except.map, Attribute.unquoted, Option.map_some]

theorem attributes_unquoted {lists : AttributeLists} (h : lists.HaveTexts) : attributes lists = .ok lists.unquoted :=
  mapM_ok fun a ha => plainAttribute_unquoted (h a ha)

theorem methods_fit (owner : Piece) {ms : List Node} (h : ∀ n ∈ ms, n.Fits) :
    (methods owner ms).2 = .ok (ms.filterMap Node.method?) := by
  induction ms with
  | nil => rfl
  | cons n ms ih =>
    have ih := ih fun m hm => h m (by simp [hm])
    cases h n (by simp) with
    | method identifier returnType ps hl =>
      simp only [methods, Node.kind, Node.identifier, bne_self_eq_false, Bool.false_eq_true, if_false, methodOf,
        Node.returnType, Node.parameters, Node.attributeLists, attributes_unquoted hl, Except.map, ih]
      rfl
    | property identifier type => exact ih
    | other hk hm hp =>
      rw [methods, hk, List.filterMap_cons_none (Node.method?_other hk hm)]
      simpa [hm] using ih

theorem properties_fit {ms : List Node} (h : ∀ n ∈ ms, n.Fits) : properties ms = .ok (ms.filterMap Node.property?) := by
  induction ms with
  | nil => rfl
  | cons n ms ih =>
    have ih := ih fun m hm => h m (by simp [hm])
    cases h n (by simp) with
    | method identifier returnType ps hl => exact ih
    | property identifier type =>
      simp only [properties, Node.kind, bne_self_eq_false, Bool.false_eq_true, if_false, propertyOf, Node.identifier,
        Node.type, Except.map, ih]
      rfl
    | other hk hm hp =>
      rw [properties, hk, List.filterMap_cons_none (Node.property?_other hk hp)]
      simpa [hp] using ih

theorem implementations_joined {bases : Option (List Piece)} (h : ∀ b ∈ bases.getD [], b ≠ none) :
    implementations bases = .ok (bases.map fun bases => String.intercalate "," (bases.map Piece.shown)) := by
  cases bases with
  | none => rfl
  | some bases => simp [implementations, joinTexts, joinFrom_texts "," 0 (by simpa using h), Except.map]

/-- A type that fits is extracted. -/
theorem inNamespace_declared {t : TypeNode} (h : t.Fits) (imports : List Piece) (scope : Piece) :
    (inNamespace t imports scope).outcome = .ok (t.declared imports scope) := by
  obtain ⟨ms, hms, hfit⟩ := h.members
  have hmethods := methods_fit t.identifier hfit
  unfold inNamespace TypeNode.declared
  rw [implementations_joined h.bases, attributes_unquoted h.attributes, hms]
  cases hm : methods t.identifier ms with
  | mk notes r =>
    rw [hm] at hmethods
    subst hmethods
    simp only [properties_fit hfit, hm, Option.getD_some]

end Extraction

namespace Syntax.TypeNode

/-- A type that fits is extracted exactly where it stands in a namespace. -/
theorem extract_outcome {t : TypeNode} (h : t.Fits) (imports : List Piece) :
    (t.extract imports).outcome =
      match t.namespace? with
      | some scope => .ok (t.declared imports scope)
      | none => .error (.noNamespace t.identifier t.parent) := by
  unfold extract
  cases t.namespace? with
  | some scope => exact Extraction.inNamespace_declared h imports scope
  | none => rfl

end Syntax.TypeNode

/-! ## The types of a source -/

namespace Source

def IsScope (n : Node) : Prop := ∃ name kind, n = .scope name kind

def Scoped (t : TypeNode) : Prop := ∃ n, t.parent = some n ∧ IsScope n

/-- In a scope, the test before extraction and the one inside it agree. -/
theorem Scoped.namespace_iff {t : TypeNode} (h : Scoped t) : t.namespace?.isSome ↔ parentKind? t = some (some "namespace") := by
  obtain ⟨_, h, name, kind, rfl⟩ := h
  unfold TypeNode.namespace? parentKind?
  simp only [h, Option.bind_some, Node.namespace?, Node.kind, Except.toOption]
  split <;> simp_all

/-- The declarations of types that fit: one for each that stands in a namespace. -/
theorem extractTypes_outcome (imports : List Piece) {ts : List TypeNode} (h : ∀ t ∈ ts, t.Fits ∧ Scoped t) :
    (extractTypes imports ts).outcome = .ok (ts.filterMap (TypeNode.declared? imports)) := by
  induction ts with
  | nil => rfl
  | cons t ts ih =>
    have ih := ih fun u hu => h u (by simp [hu])
    obtain ⟨hfit, hscoped⟩ := h t (by simp)
    have hextract := TypeNode.extract_outcome hfit imports
    rw [extractTypes]
    cases hn : t.namespace? with
    | none =>
      have hskip : parentKind? t ≠ some (some "namespace") := by rw [ne_eq, ← hscoped.namespace_iff, hn]; simp
      rw [if_pos (bne_iff_ne.mpr hskip), List.filterMap_cons_none (by rw [TypeNode.declared?, hn]; rfl)]
      exact ih
    | some scope =>
      have hkeep : parentKind? t = some (some "namespace") := hscoped.namespace_iff.mp (by simp [hn])
      have hmake : t.declared? imports = some (t.declared imports scope) := by rw [TypeNode.declared?, hn, Option.map_some]
      rw [if_neg (by simp [hkeep]), List.filterMap_cons_some hmake]
      rw [hn] at hextract
      cases he : t.extract imports with
      | mk outcome log =>
        rw [he] at hextract
        subst hextract
        simp only [ih, Except.map]

namespace Tree

theorem attributeOf_texts (t : Tree) : t.attributeOf.HasTexts := by
  intro x hx
  unfold attributeOf at hx
  cases h : (t.childrenOf .arguments).head? with
  | none => simp [h] at hx
  | some a =>
    simp only [h, Option.map_some, Option.getD_some, List.mem_map] at hx
    obtain ⟨b, -, rfl⟩ := hx
    simp

theorem attributeLists_texts (t : Tree) : AttributeLists.HaveTexts (some t.attributeLists) := by
  intro a ha
  obtain ⟨list, hl, ha⟩ := List.mem_flatten.mp ha
  obtain ⟨l, -, rfl⟩ := List.mem_map.mp hl
  obtain ⟨b, -, rfl⟩ := List.mem_map.mp ha
  exact attributeOf_texts b

theorem memberNode_fits (t : Tree) : t.memberNode.Fits := by
  unfold memberNode
  split
  · exact .method _ _ _ t.attributeLists_texts
  · exact .property _ _
  · exact .other rfl (by simp) (by simp)

theorem members_fit (t : Tree) : ∀ n ∈ t.members, n.Fits := by
  intro n hn
  obtain ⟨body, -, hn⟩ := List.mem_flatMap.mp hn
  obtain ⟨m, -, hn⟩ := List.mem_flatMap.mp hn
  rcases List.mem_append.mp hn with hn | hn
  · obtain ⟨_, -, rfl⟩ := List.mem_map.mp hn
    exact .other rfl (by simp) (by simp)
  · split at hn
    · rw [List.mem_singleton.mp hn]
      exact m.memberNode_fits
    · cases hn

theorem bases_texts (t : Tree) : ∀ b ∈ t.bases?.getD [], b ≠ none := by
  intro b hb
  unfold bases? at hb
  cases h : (t.childrenOf .bases).head? with
  | none => simp [h] at hb
  | some a =>
    simp only [h, Option.map_some, Option.getD_some, List.mem_map] at hb
    obtain ⟨s, -, rfl⟩ := hb
    simp

def word? (t : Tree) : Option String := t.kind?.bind typeWord?

theorem typeNode?_eq {parent : Node} {t : Tree} {n : TypeNode} (h : t.typeNode? parent = some n) :
    n.Fits ∧ n.parent = some parent ∧ n.identifier = some (t.childText .name) ∧
      ∃ w, t.word? = some w ∧ n.kind = some w := by
  unfold typeNode? at h
  split at h
  · rename_i w hw
    cases h
    exact ⟨⟨t.bases_texts, t.attributeLists_texts, _, rfl, t.members_fit⟩, rfl, rfl, w, hw, rfl⟩
  · cases h

end Tree

theorem Tree.scope?_isScope {t : Tree} {n : Node} (h : t.scope? = some n) : IsScope n := by
  cases t with
  | leaf t => cases h
  | node kind children =>
    unfold scope? at h
    dsimp only at h
    split at h
    · cases h
      exact ⟨_, _, rfl⟩
    · cases h
      exact ⟨_, _, rfl⟩
    · obtain ⟨w, -, rfl⟩ := Option.map_eq_some_iff.mp h
      exact ⟨_, _, rfl⟩

theorem Tree.fileScope?_isScope {t : Tree} {n : Node} (h : t.fileScope? = some n) : IsScope n := by
  unfold fileScope? at h
  split at h
  · exact scope?_isScope h
  · cases h

namespace Surroundings

structure AreScopes (s : Surroundings) : Prop where
  above : ∀ n ∈ s.above, IsScope n
  around : ∀ n ∈ s.around, IsScope n
  before : ∀ n ∈ s.before, IsScope n

theorem areScopes_none : ({} : Surroundings).AreScopes := ⟨by simp, by simp, by simp⟩

variable {s : Surroundings}

theorem AreScopes.parent (h : s.AreScopes) : IsScope s.parent := by
  unfold Surroundings.parent
  cases ha : s.around with
  | some n => exact h.around n ha
  | none =>
    cases hb : s.before with
    | some n => exact h.before n hb
    | none => exact ⟨_, _, rfl⟩

theorem AreScopes.inside (h : s.AreScopes) (t : Tree) : (s.inside t).AreScopes where
  above n hn := Tree.scope?_isScope hn
  around n hn := by
    unfold Surroundings.inside at hn
    split at hn
    · exact h.above n hn
    · exact Tree.scope?_isScope hn
  before n hn := by cases hn

theorem AreScopes.past (h : s.AreScopes) (t : Tree) : (s.past t).AreScopes where
  above := h.above
  around := h.around
  before n hn := by
    cases hf : t.fileScope? with
    | none => exact h.before n (by simpa [Surroundings.past, hf] using hn)
    | some f =>
      obtain rfl : f = n := by simpa [Surroundings.past, hf] using hn
      exact Tree.fileScope?_isScope hf

end Surroundings

mutual

theorem Tree.types_listed {s : Surroundings} (hs : s.AreScopes) : (t : Tree) → ∀ n ∈ t.types s, n.Fits ∧ Scoped n
  | .leaf _ => by
    rw [Tree.types]
    simp
  | .node kind children => by
    intro n hn
    rw [Tree.types] at hn
    rcases List.mem_append.mp hn with hn | hn
    · obtain ⟨hfit, hparent, -⟩ := Tree.typeNode?_eq (Option.mem_toList.mp hn)
      exact ⟨hfit, _, hparent, hs.parent⟩
    · exact treeTypes_listed (hs.inside _) children n hn

theorem treeTypes_listed {s : Surroundings} (hs : s.AreScopes) : (ts : List Tree) → ∀ n ∈ treeTypes s ts, n.Fits ∧ Scoped n
  | [] => by
    rw [treeTypes]
    simp
  | t :: rest => by
    intro n hn
    rw [treeTypes] at hn
    rcases List.mem_append.mp hn with hn | hn
    · exact Tree.types_listed hs t n hn
    · exact treeTypes_listed (hs.past t) rest n hn

end

end Source

end Typewright
