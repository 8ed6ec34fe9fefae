import Typewright.Proofs.Lexemes
import Typewright.Source.Listing

/-!
The trees of members.

Tokens that are the lexemes of a plain member are matched as one member of a body, whatever follows it there, and its tree
gives back what it was made from (`MemberAs`): the name, the type, the parameters and the attributes of a method; the name
and the type of a property; of the others nothing but a name, and of a field not even that. The three cases are
`constant_member`, `property_member` and `method_member`; types inside types are members as well, and are left to
`TypeTrees`.

A member starts with attributes and modifiers, which are matched before it is known what they belong to (`head_takes`). The
trees of this beginning show the attributes, one list for each, and nothing else that a view of the member would look for
(`Heads`). Then the continuations are tried in order; that those before the right one refuse is foreseen from the first
tokens (`method_foreseen`, `constructor_foreseen` and their like), and the right one is matched part by part.

Two lemmas carry the lists: `Takes.items` for parts that follow each other and `Takes.commaItems` for parts with commas
between them. Both say what a view of the trees (`f`) shows, and what holds of each of them (`P`), and are proved by
induction over the parts, from the last one to the first.

A tree is bare when there is no type in it (`Tree.isBare`). Bare trees add nothing to a listing (`treeTypes_after_bare`),
and what is enclosed in the body of a type belongs to no namespace (`Tree.Enclosed`).

Steps are counted as `Matching` has it: a member needs `memberCost` of them besides the strides of its tokens.
-/

namespace Typewright.Source

open Syntax Grammar

/-! ## Tokens of lexemes -/

abbrev Lexed (ls : List Lexeme) (us : List Token) : Prop := List.Forall₂ Lexeme.Is ls us

theorem Lexed.split {ls ms : List Lexeme} {us : List Token} (h : Lexed (ls ++ ms) us) :
    ∃ vs ws, us = vs ++ ws ∧ Lexed ls vs ∧ Lexed ms ws := by
  induction ls generalizing us with
  | nil => exact ⟨[], us, rfl, .nil, h⟩
  | cons l ls ih =>
    cases h with
    | cons ht hrest =>
      obtain ⟨vs, ws, rfl, hvs, hws⟩ := ih hrest
      exact ⟨_ :: vs, ws, rfl, .cons ht hvs, hws⟩

theorem Lexed.cons {l : Lexeme} {ls : List Lexeme} {us : List Token} (h : Lexed (l :: ls) us) :
    ∃ t vs, us = t :: vs ∧ l.Is t ∧ Lexed ls vs := by
  cases h with
  | cons ht hrest => exact ⟨_, _, rfl, ht, hrest⟩

theorem Lexed.nil {us : List Token} (h : Lexed [] us) : us = [] := by
  cases h
  rfl

theorem Lexed.quiet {ls : List Lexeme} {us : List Token} (h : Lexed ls us) : ∀ t ∈ us, ∀ v ∈ t.lead, v.isNote = false := by
  induction h with
  | nil => simp
  | cons ht _ ih =>
    intro t hmem
    rcases List.mem_cons.mp hmem with rfl | hmem
    · exact ht.quiet
    · exact ih t hmem

/-- The look of a lexeme is that of its token. -/
theorem Lexeme.Is.fits {l : Lexeme} {t : Token} (h : l.Is t) {k : Look} (hk : k.Fits l.kind l.text) : k.Fits t.kind t.text := by
  rw [h.kind, h.text]
  exact hk

theorem Lexeme.Is.exactly {l : Lexeme} {t : Token} (h : l.Is t) : (Look.exactly l.kind l.text).Fits t.kind t.text :=
  ⟨h.kind, h.text⟩

theorem Lexeme.Is.accepts {l : Lexeme} {t : Token} (h : l.Is t) {p : Pattern} {b : Bool}
    (hp : (Look.exactly l.kind l.text).accepts? p = some b) : p.accepts t = b :=
  Look.accepts_of_look h.exactly hp

/-! ## Trees without types -/

mutual

def Tree.isBare : Tree → Bool
  | .leaf _ => true
  | .node kind children => (typeWord? kind).isNone && treesBare children

def treesBare : List Tree → Bool
  | [] => true
  | t :: rest => t.isBare && treesBare rest

end

theorem treesBare_iff {ts : List Tree} : treesBare ts = true ↔ ∀ t ∈ ts, t.isBare = true := by
  induction ts with
  | nil => simp [treesBare]
  | cons t ts ih => simp [treesBare, ih]

mutual

theorem Tree.types_bare : ∀ (t : Tree), t.isBare = true → ∀ s, t.types s = []
  | .leaf _, _, _ => by rw [Tree.types]
  | .node kind children, h, s => by
    rw [Tree.isBare, Bool.and_eq_true, Option.isNone_iff_eq_none] at h
    rw [Tree.types, treeTypes_bare children h.2]
    simp [Tree.typeNode?, Tree.kind?, h.1]

theorem treeTypes_bare : ∀ (ts : List Tree), treesBare ts = true → ∀ s, treeTypes s ts = []
  | [], _, _ => by rw [treeTypes]
  | t :: rest, h, s => by
    rw [treesBare, Bool.and_eq_true] at h
    rw [treeTypes, Tree.types_bare t h.1, treeTypes_bare rest h.2, List.append_nil]

end

/-- Trees without types change no more than which namespace was declared last. -/
theorem treeTypes_after_bare {a : List Tree} (h : ∀ t ∈ a, t.isBare = true) (s : Surroundings) (b : List Tree) :
    ∃ before, treeTypes s (a ++ b) = treeTypes { s with before } b := by
  induction a generalizing s with
  | nil => exact ⟨s.before, rfl⟩
  | cons t a ih =>
    obtain ⟨before, hb⟩ := ih (fun u hu => h u (by simp [hu])) (s.past t)
    refine ⟨before, ?_⟩
    rw [List.cons_append, treeTypes, Tree.types_bare t (h t (by simp)), hb]
    rfl

/-- A body hands on what it stands in. -/
theorem Tree.types_body (s : Surroundings) (ts : List Tree) :
    (Tree.node .body ts).types s = treeTypes { around := s.above } ts := by
  rw [Tree.types]
  rfl

namespace Tree

/-- In the body of a type, the tree holds no type that stands in a namespace. -/
def Enclosed (t : Tree) : Prop :=
  ∀ s scope, s.around = some scope → Node.namespace? scope = none → ∀ n ∈ t.types s, n.namespace? = none

theorem enclosed_of_bare {t : Tree} (h : t.isBare = true) : t.Enclosed := by
  intro s scope _ _ n hn
  rw [types_bare t h] at hn
  cases hn

theorem childrenOf_node (kind k : Kind) (ts : List Tree) : (Tree.node kind ts).childrenOf k = ts.filter (·.kind? == some k) := rfl

def own {β : Type} (k : Kind) (view : Tree → β) (t : Tree) : List β := if t.kind? == some k then [view t] else []

theorem map_childrenOf {β : Type} (kind k : Kind) (view : Tree → β) (ts : List Tree) :
    ((Tree.node kind ts).childrenOf k).map view = ts.flatMap (own k view) := by
  rw [childrenOf_node]
  induction ts with
  | nil => rfl
  | cons t ts ih =>
    rw [List.filter_cons, List.flatMap_cons, ← ih, own]
    split <;> rfl

@[simp] theorem childText_node (kind k k' : Kind) (ts rest : List Tree) : (Tree.node kind (.node k' ts :: rest)).childText k =
    if k' = k then (Tree.node k' ts).text else (Tree.node kind rest).childText k := by
  rw [childText, childText, childrenOf_node, childrenOf_node, List.filter_cons]
  by_cases h : k' = k <;> simp [kind?, h]

@[simp] theorem childText_leaf (kind k : Kind) (t : Token) (rest : List Tree) :
    (Tree.node kind (.leaf t :: rest)).childText k = (Tree.node kind rest).childText k := rfl

@[simp] theorem text_single (kind : Kind) (t : Token) : (Tree.node kind [.leaf t]).text = t.text := by
  simp [text, tokens, treeTokens, spanText]

/-- The tokens of the tree have no notes before them. -/
theorem notes_quiet {t : Tree} (h : ∀ u ∈ t.tokens, ∀ v ∈ u.lead, v.isNote = false) : t.notes = [] := by
  unfold notes
  cases ht : t.tokens with
  | nil => rfl
  | cons u us =>
    rw [ht] at h
    rw [List.head?_cons, Option.map_some, Option.getD_some, List.filterMap_eq_nil_iff]
    intro v hv
    rw [h u (by simp) v hv]
    rfl

end Tree

/-- A tree of one token that is a lexeme. -/
theorem Lexeme.Is.notes {l : Lexeme} {t : Token} (h : l.Is t) {u : Tree} (hu : u.tokens = [t]) : u.notes = [] :=
  Tree.notes_quiet (by rw [hu]; simpa using h.quiet)

/-! ## Lists of parts -/

section Lists

variable {α β : Type} {lexemes : α → List Lexeme} {f : Tree → List β} {g : α → List β} {P : Tree → Prop} {c e : Nat} {r : Rule}
  {us rest : List Token} {a : List Tree}

/-- Parts that follow each other, before whatever the repetition goes on with. -/
theorem Takes.items {A : List Token → Prop} {xs : List α} {rest' : List Token} {b : List Tree}
    (item : ∀ x ∈ xs, ∀ us rest, Lexed (lexemes x) us → A rest →
      (∃ a, Takes c r (us ++ rest) a rest ∧ a.flatMap f = g x ∧ ∀ t ∈ a, P t) ∧ A (us ++ rest) ∧ us ≠ [])
    (h : Lexed (xs.flatMap lexemes) us) (hr : A rest) (done : Takes e (.many r) rest b rest') (hc : c < e) :
    (∃ a, Takes e (.many r) (us ++ rest) (a ++ b) rest' ∧ a.flatMap f = xs.flatMap g ∧ ∀ t ∈ a, P t) ∧ A (us ++ rest) := by
  induction xs generalizing us with
  | nil =>
    obtain rfl := h.nil
    exact ⟨⟨[], done, rfl, by simp⟩, hr⟩
  | cons x xs ih =>
    rw [List.flatMap_cons] at h
    obtain ⟨vs, ws, rfl, hvs, hws⟩ := h.split
    obtain ⟨⟨a, ha, hf, hP⟩, hahead⟩ := ih (fun y hy => item y (by simp [hy])) hws
    obtain ⟨⟨a', ha', hf', hP'⟩, hahead', hne⟩ := item x (by simp) vs _ hvs hahead
    rw [List.append_assoc]
    refine ⟨⟨a' ++ a, ?_, ?_, ?_⟩, hahead'⟩
    · rw [List.append_assoc]
      have hpos : 0 < vs.length := List.length_pos_iff.mpr hne
      exact .many_cons ha' (by simp only [List.length_append]; omega) ha hc
    · rw [List.flatMap_append, hf', hf, List.flatMap_cons]
    · intro t ht
      rcases List.mem_append.mp ht with ht | ht
      · exact hP' t ht
      · exact hP t ht

theorem Takes.one (h : Takes c r us a rest) (hc : c < e) (he : 1 < e) : Takes e (.seq [r]) us a rest := by
  simpa using Takes.seq_cons h .seq_nil hc he

/-- Parts with commas between them, before another mark. -/
theorem Takes.commaItems {stop : String} (hstop : stop ≠ ",")
    (hcomma : ∀ t, (Lexeme.mark ",").Is t → f (.leaf t) = [] ∧ P (.leaf t))
    {xs : List α} (hne : xs ≠ [])
    (item : ∀ x ∈ xs, ∀ us rest, ∀ s ∈ [",", stop], Lexed (lexemes x) us → Sees [.exactly .mark s] rest →
      ∃ a, Takes c r (us ++ rest) a rest ∧ a.flatMap f = g x ∧ ∀ t ∈ a, P t)
    (h : Lexed (Lexeme.commas (xs.map lexemes)) us) (hr : Sees [.exactly .mark stop] rest) (hc : c + 5 ≤ e) (hpos : 1 < c) :
    ∃ a, Takes e (Rule.commas r) (us ++ rest) a rest ∧ a.flatMap f = xs.flatMap g ∧ ∀ t ∈ a, P t := by
  obtain ⟨x, xs, rfl⟩ := List.exists_cons_of_ne_nil hne
  rw [List.map_cons, Lexeme.commas, intercalate_cons, List.flatMap_map] at h
  obtain ⟨vs, ws, rfl, hvs, hws⟩ := h.split
  -- the parts after the first, each behind its comma
  let Ahead : List Token → Prop := fun rest => ∃ s ∈ [",", stop], Sees [.exactly .mark s] rest
  have later : ∀ y ∈ xs, ∀ us rest, Lexed (Lexeme.mark "," :: lexemes y) us → Ahead rest →
      (∃ a, Takes (c + 2) (.seq [.mark ",", r]) (us ++ rest) a rest ∧ a.flatMap f = g y ∧ ∀ t ∈ a, P t) ∧
        Ahead (us ++ rest) ∧ us ≠ [] := by
    rintro y hy us rest hus ⟨s, hs, hsees⟩
    obtain ⟨t, vs, rfl, ht, hvs⟩ := hus.cons
    obtain ⟨a, ha, hf, hP⟩ := item y (by simp [hy]) vs rest s hs hvs hsees
    obtain ⟨hft, hPt⟩ := hcomma t ht
    have hacc : (Pattern.mark ",").accepts t = true := ht.accepts rfl
    refine ⟨⟨.leaf t :: a, ?_, ?_, ?_⟩, ⟨",", by simp, ht.exactly, trivial⟩, by simp⟩
    · exact .seq_token hacc (ha.one (Nat.lt_succ_self c) (by omega)) (by omega) (by omega)
    · rw [List.flatMap_cons, hft, List.nil_append, hf]
    · intro u hu
      rcases List.mem_cons.mp hu with rfl | hu
      · exact hPt
      · exact hP u hu
  have hend : Refuses 2 (.seq [.mark ",", r]) rest := by
    cases rest with
    | nil => exact absurd hr id
    | cons t rest =>
      obtain ⟨⟨-, htext⟩, -⟩ := hr
      refine Refuses.seq_head (c := 1) ?_ (by omega)
      intro n hn
      obtain ⟨n, rfl⟩ : ∃ m, n = m + 1 := ⟨n - 1, by omega⟩
      have hacc : (Pattern.mark ",").accepts t = false := by
        rw [Pattern.accepts, htext, Bool.and_eq_false_iff]
        exact .inr (beq_eq_false_iff_ne.mpr hstop)
      rw [Rule.mark, Rule.run, hacc]
      rfl
  obtain ⟨⟨b, hb, hfb, hPb⟩, s, hs, hsees⟩ := Takes.items (e := c + 3) later hws ⟨stop, by simp, hr⟩
    (.many_nil hend (by omega)) (by omega)
  obtain ⟨a, ha, hf, hP⟩ := item x (by simp) vs _ s hs hvs hsees
  rw [List.append_nil] at hb
  refine ⟨a ++ b, ?_, ?_, ?_⟩
  · rw [List.append_assoc]
    exact .seq_cons ha (hb.one (Nat.lt_succ_self _) (by omega)) (by omega) (by omega)
  · rw [List.flatMap_append, hf, hfb, List.flatMap_cons]
  · intro t ht
    rcases List.mem_append.mp ht with ht | ht
    · exact hP t ht
    · exact hPb t ht

/-- Parts between round brackets, with commas between them. -/
theorem Takes.parenItems (hleaf : ∀ t, f (.leaf t) = [] ∧ P (.leaf t)) {xs : List α}
    (item : ∀ x ∈ xs, ∀ us rest, ∀ s ∈ [",", ")"], Lexed (lexemes x) us → Sees [.exactly .mark s] rest →
      ∃ a, Takes c r (us ++ rest) a rest ∧ a.flatMap f = g x ∧ ∀ t ∈ a, P t)
    (none : ∀ rest, Sees [.exactly .mark ")"] rest → Refuses c (Rule.commas r) rest)
    (h : Lexed (Lexeme.mark "(" :: Lexeme.commas (xs.map lexemes) ++ [Lexeme.mark ")"]) us) (rest : List Token) (hc : c + 8 ≤ e)
    (hpos : 1 < c) :
    ∃ a, Takes e (Rule.inParens (Rule.optCommas r)) (us ++ rest) a rest ∧ a.flatMap f = xs.flatMap g ∧ ∀ t ∈ a, P t := by
  obtain ⟨t₀, us, rfl, h₀, hus⟩ := Lexed.cons h
  obtain ⟨vs, ws, rfl, hvs, hws⟩ := Lexed.split hus
  obtain ⟨t₁, ws, rfl, h₁, hws⟩ := hws.cons
  obtain rfl := hws.nil
  have hsees : Sees [.exactly .mark ")"] (t₁ :: rest) := ⟨h₁.exactly, trivial⟩
  have hopen : (Pattern.mark "(").accepts t₀ = true := h₀.accepts rfl
  have hclose : (Pattern.mark ")").accepts t₁ = true := h₁.accepts rfl
  have hparts : ∃ a, Takes (c + 6) (Rule.optCommas r) (vs ++ t₁ :: rest) a (t₁ :: rest) ∧ a.flatMap f = xs.flatMap g ∧
    ∀ t ∈ a, P t := by
    by_cases hne : xs = []
    · subst hne
      obtain rfl := Lexed.nil hvs
      exact ⟨[], .opt_none (none _ hsees) (by omega) (by omega), rfl, by simp⟩
    · obtain ⟨a, ha, hf, hP⟩ := Takes.commaItems (by decide) (fun t _ => hleaf t) hne item hvs hsees (Nat.le_refl _) hpos
      exact ⟨a, .opt_some ha (by omega), hf, hP⟩
  obtain ⟨a, ha, hf, hP⟩ := hparts
  refine ⟨.leaf t₀ :: (a ++ [.leaf t₁]), ?_, ?_, ?_⟩
  · have hrest : Takes (c + 7) (.seq [Rule.optCommas r, .mark ")"]) (vs ++ t₁ :: rest) (a ++ [.leaf t₁]) rest :=
      .seq_cons ha (.seq_token (e := 2) hclose .seq_nil (by simp only [stride]; omega) (by omega)) (by omega) (by omega)
    rw [List.cons_append, List.append_assoc]
    exact .seq_token hopen hrest (by omega) (by omega)
  · rw [List.flatMap_cons, List.flatMap_append, hf, List.flatMap_cons, (hleaf t₀).1, (hleaf t₁).1]
    simp
  · intro t ht
    simp only [List.mem_cons, List.mem_append, List.not_mem_nil, or_false] at ht
    rcases ht with rfl | ht | rfl
    · exact (hleaf t₀).2
    · exact hP t ht
    · exact (hleaf t₁).2

end Lists

/-! ## Names by their looks -/

theorem isIdentifier.fits {s : String} (h : isIdentifier s = true) : Look.identifier.Fits .word s := by
  rw [isIdentifier, isName, Bool.and_eq_true, Bool.and_eq_true, Bool.not_eq_true', Bool.not_eq_true'] at h
  exact ⟨rfl, h.1.2, h.2⟩

def typeLooks : List Look := [.identifier, .predefined]

theorem isTypeName.fits {s : String} (h : isTypeName s = true) : ∃ k ∈ typeLooks, k.Fits .word s := by
  rw [isTypeName, Bool.or_eq_true] at h
  rcases h with h | h
  · exact ⟨.identifier, by simp [typeLooks], isIdentifier.fits h⟩
  · exact ⟨.predefined, by simp [typeLooks], rfl, h⟩

/-! ## Attributes and modifiers -/

theorem attribute_foreseen :
    foresee (.ref .attributeList) [.exactly .mark "[", .identifier, .exactly .mark "]"] =
        .matched (.node .attributes (.leaf 0 (.node .attributeNode (.node .name (.leaf 1 .nil) .nil) (.leaf 2 .nil))) .nil) 3 ∧
      foresee (.ref .attributeList)
          [.exactly .mark "[", .identifier, .exactly .mark "(", .value, .exactly .mark ")", .exactly .mark "]"] =
        .matched (.node .attributes (.leaf 0 (.node .attributeNode (.node .name (.leaf 1 .nil) (.node .arguments
          (.leaf 2 (.node .argument (.leaf 3 .nil) (.leaf 4 .nil))) .nil)) (.leaf 5 .nil))) .nil) 6 := by
  decide +kernel

theorem attribute_takes {a : Attribute} (ha : a.Plain) {us : List Token} (h : Lexed a.lexemes us) (rest : List Token) :
    ∃ t, Takes sight (.ref .attributeList) (us ++ rest) [t] rest ∧ t.kind? = some .attributes ∧
      (t.childrenOf .attributeNode).map Tree.attributeOf = [a.inSource] ∧ t.isBare = true := by
  obtain ⟨n, hn, hid⟩ := ha.name
  have hshown : a.name.shown = n := by rw [hn]; rfl
  unfold Attribute.lexemes at h
  unfold Attribute.inSource
  cases hargs : a.arguments.getD [] with
  | nil =>
    rw [hargs] at h
    obtain ⟨t₀, us, rfl, h₀, h⟩ := h.cons
    obtain ⟨t₁, us, rfl, h₁, h⟩ := h.cons
    obtain ⟨t₂, us, rfl, h₂, h⟩ := h.cons
    obtain rfl := h.nil
    have hsees : Sees [.exactly .mark "[", .identifier, .exactly .mark "]"] (t₀ :: t₁ :: t₂ :: rest) :=
      ⟨h₀.exactly, h₁.fits (hshown ▸ isIdentifier.fits hid), h₂.exactly, trivial⟩
    refine ⟨.node .attributes [.leaf t₀, .node .attributeNode [.node .name [.leaf t₁]], .leaf t₂],
      takes_of_foresee attribute_foreseen.1 hsees, rfl, ?_, rfl⟩
    simp [Tree.childrenOf, Tree.children, Tree.kind?, Tree.attributeOf, Tree.childText, h₁.text, Lexeme.word]
  | cons x xs =>
    rw [hargs] at h
    obtain ⟨t₀, us, rfl, h₀, h⟩ := h.cons
    obtain ⟨t₁, us, rfl, h₁, h⟩ := h.cons
    obtain ⟨t₂, us, rfl, h₂, h⟩ := h.cons
    obtain ⟨t₃, us, rfl, h₃, h⟩ := h.cons
    obtain ⟨t₄, us, rfl, h₄, h⟩ := h.cons
    obtain ⟨t₅, us, rfl, h₅, h⟩ := h.cons
    obtain rfl := h.nil
    have hsees : Sees [.exactly .mark "[", .identifier, .exactly .mark "(", .value, .exactly .mark ")", .exactly .mark "]"]
        (t₀ :: t₁ :: t₂ :: t₃ :: t₄ :: t₅ :: rest) :=
      ⟨h₀.exactly, h₁.fits (hshown ▸ isIdentifier.fits hid), h₂.exactly, h₃.fits (.inl rfl), h₄.exactly, h₅.exactly, trivial⟩
    refine ⟨.node .attributes [.leaf t₀, .node .attributeNode [.node .name [.leaf t₁],
        .node .arguments [.leaf t₂, .node .argument [.leaf t₃], .leaf t₄]], .leaf t₅],
      takes_of_foresee attribute_foreseen.2 hsees, rfl, ?_, rfl⟩
    simp [Tree.childrenOf, Tree.children, Tree.kind?, Tree.attributeOf, Tree.childText, h₁.text, h₃.text, Lexeme.word]

def Tree.ownList : Tree → List (List Attribute) :=
  Tree.own .attributes fun l => (l.childrenOf .attributeNode).map Tree.attributeOf

theorem Tree.attributeLists_node (kind : Kind) (ts : List Tree) : (Tree.node kind ts).attributeLists = ts.flatMap Tree.ownList :=
  Tree.map_childrenOf kind .attributes _ ts

/-- Trees before a declaration proper: lists of attributes and modifiers. -/
structure Heads (ts : List Tree) (as : List Attribute) : Prop where
  kinds : ∀ t ∈ ts, t.kind? = none ∨ t.kind? = some .attributes
  bare : ∀ t ∈ ts, t.isBare = true
  lists : ts.flatMap Tree.ownList = as.map fun a => [a.inSource]

def attributePart : Rule := .first [.ref .attributeList, conditionalAttributes]

def headEnds : List Look := [.identifier, .predefined, .exactly .word "class", .exactly .word "interface"]

theorem head_foreseen :
    (∀ m ∈ "const" :: plainModifiers, foresee modifier [.exactly .word m] = .matched (.leaf 0 .nil) 1) ∧
      (∀ k ∈ headEnds, foresee modifier [k] = .mismatch) ∧ foresee attributePart [.word] = .mismatch := by
  decide +kernel

theorem Sees.word_of_headEnd {k : Look} (hk : k ∈ headEnds) {rest : List Token} (h : Sees [k] rest) : Sees [.word] rest := by
  cases rest with
  | nil =>
    simp only [headEnds, List.mem_cons, List.not_mem_nil, or_false] at hk
    rcases hk with rfl | rfl | rfl | rfl <;> exact absurd h id
  | cons t rest =>
    simp only [headEnds, List.mem_cons, List.not_mem_nil, or_false] at hk
    rcases hk with rfl | rfl | rfl | rfl <;> exact ⟨h.1.1, trivial⟩

theorem modifiers_take {ks : List String} (hks : ∀ m ∈ ks, m ∈ "const" :: plainModifiers) {us rest : List Token}
    (h : Lexed (ks.map Lexeme.word) us) {k : Look} (hk : k ∈ headEnds) (hr : Sees [k] rest) :
    (∃ a, Takes (sight + 1) (.many modifier) (us ++ rest) a rest ∧ ∀ t ∈ a, t.kind? = none ∧ t.isBare = true) ∧
      Sees [.word] (us ++ rest) := by
  have item : ∀ m ∈ ks, ∀ us rest, Lexed [Lexeme.word m] us → Sees [.word] rest →
      (∃ a, Takes sight modifier (us ++ rest) a rest ∧ a.flatMap (fun _ => ([] : List Unit)) = [] ∧
        ∀ t ∈ a, t.kind? = none ∧ t.isBare = true) ∧ Sees [.word] (us ++ rest) ∧ us ≠ [] := by
    intro m hm us rest hus _
    obtain ⟨t, us, rfl, ht, hus⟩ := hus.cons
    obtain rfl := hus.nil
    refine ⟨⟨[.leaf t], ?_, rfl, ?_⟩, ⟨ht.kind, trivial⟩, by simp⟩
    · exact takes_of_foresee (head_foreseen.1 m (hks m hm)) ⟨ht.exactly, trivial⟩
    · intro u hu
      rw [List.mem_singleton] at hu
      subst hu
      exact ⟨rfl, rfl⟩
  rw [List.map_eq_flatMap] at h
  have hend : Refuses sight modifier rest := refuses_of_foresee (head_foreseen.2.1 k hk) hr
  obtain ⟨⟨a, ha, -, hP⟩, hsees⟩ := Takes.items (e := sight + 1) (g := fun _ => []) item h (hr.word_of_headEnd hk)
    (.many_nil hend (Nat.lt_succ_self _)) (Nat.lt_succ_self _)
  rw [List.append_nil] at ha
  exact ⟨⟨a, ha, hP⟩, hsees⟩

/-- Attributes and modifiers are taken as the beginning of a declaration. -/
theorem head_takes {as : List Attribute} (has : ∀ a ∈ as, a.Plain) {ks : List String}
    (hks : ∀ m ∈ ks, m ∈ "const" :: plainModifiers) {us rest : List Token}
    (h : Lexed (as.flatMap Attribute.lexemes ++ ks.map Lexeme.word) us) {k : Look} (hk : k ∈ headEnds) (hr : Sees [k] rest) :
    ∃ a, Takes (sight + 5) declarationHead (us ++ rest) a rest ∧ Heads a as := by
  obtain ⟨vs, ws, rfl, hvs, hws⟩ := h.split
  obtain ⟨⟨b, hb, hbP⟩, hword⟩ := modifiers_take hks hws hk hr
  have item : ∀ a ∈ as, ∀ us rest, Lexed a.lexemes us → True →
      (∃ b, Takes (sight + 1) attributePart (us ++ rest) b rest ∧ b.flatMap Tree.ownList = [[a.inSource]] ∧
        ∀ t ∈ b, t.kind? = some .attributes ∧ t.isBare = true) ∧ True ∧ us ≠ [] := by
    intro a ha us rest hus _
    obtain ⟨t, htakes, hkind, hlist, hbare⟩ := attribute_takes (has a ha) hus rest
    refine ⟨⟨[t], .first_here htakes (Nat.lt_succ_self _), ?_, ?_⟩, trivial, ?_⟩
    · simp only [List.flatMap_cons, List.flatMap_nil, List.append_nil, Tree.ownList, Tree.own, hkind,
        beq_self_eq_true, if_true, hlist]
    · intro u hu
      rw [List.mem_singleton] at hu
      subst hu
      exact ⟨hkind, hbare⟩
    · obtain ⟨t, us, rfl, -, -⟩ := Lexed.cons hus
      simp
  have hend : Refuses sight attributePart (ws ++ rest) := refuses_of_foresee head_foreseen.2.2 hword
  obtain ⟨⟨a, ha, hf, haP⟩, -⟩ := Takes.items (e := sight + 2) (g := fun a : Attribute => [[a.inSource]]) item hvs trivial
    (.many_nil hend (by omega)) (Nat.lt_succ_self _)
  rw [List.append_nil] at ha
  refine ⟨a ++ b, ?_, ?_, ?_, ?_⟩
  · rw [List.append_assoc]
    exact .seq_cons ha (hb.one (Nat.lt_succ_self _) (by omega)) (by omega) (by omega)
  · intro t ht
    rcases List.mem_append.mp ht with ht | ht
    · exact .inr (haP t ht).1
    · exact .inl (hbP t ht).1
  · intro t ht
    rcases List.mem_append.mp ht with ht | ht
    · exact (haP t ht).2
    · exact (hbP t ht).2
  · have hnone : b.flatMap Tree.ownList = [] := by
      rw [List.flatMap_eq_nil_iff]
      intro t ht
      simp [Tree.ownList, Tree.own, (hbP t ht).1]
    rw [List.flatMap_append, hf, hnone, List.append_nil]
    exact (List.map_eq_flatMap).symm

/-! ## Members -/

def memberCost : Nat := sight + 60

def starters : List Look := .exactly .mark "[" :: headEnds ++ ("const" :: plainModifiers).map (.exactly .word)

theorem starters_foreseen : ∀ k ∈ starters, foresee blockNamespace [k] = .mismatch := by decide +kernel

theorem starts_head {as : List Attribute} {ks : List String} (hks : ∀ m ∈ ks, m ∈ "const" :: plainModifiers)
    {us rest : List Token} (h : Lexed (as.flatMap Attribute.lexemes ++ ks.map Lexeme.word) us) {k : Look} (hk : k ∈ headEnds)
    (hr : Sees [k] rest) : ∃ k ∈ starters, Sees [k] (us ++ rest) := by
  cases as with
  | cons a as =>
    obtain ⟨t, us, rfl, ht, -⟩ := Lexed.cons h
    exact ⟨.exactly .mark "[", by simp [starters], ht.exactly, trivial⟩
  | nil =>
    cases ks with
    | cons m ks =>
      obtain ⟨t, us, rfl, ht, -⟩ := Lexed.cons h
      exact ⟨.exactly .word m, List.mem_append_right _ (List.mem_map_of_mem (hks m (by simp))), ht.exactly, trivial⟩
    | nil =>
      obtain rfl := Lexed.nil h
      exact ⟨k, List.mem_append_left _ (List.mem_cons_of_mem _ hk), hr⟩

/-- Tokens that a member may start with may also follow one. -/
theorem Sees.next_of_starter {k : Look} (hk : k ∈ starters) {rest : List Token} (h : Sees [k] rest) : Sees [.next] rest := by
  simp only [starters, headEnds, plainModifiers, List.map_cons, List.map_nil, List.cons_append, List.nil_append,
    List.mem_cons, List.not_mem_nil, or_false] at hk
  cases rest with
  | nil =>
    rcases hk with rfl | rfl | rfl | rfl | rfl | rfl | rfl | rfl | rfl | rfl | rfl | rfl | rfl <;> exact absurd h id
  | cons t rest =>
    rcases hk with rfl | hk
    · exact ⟨.inr ⟨h.1.1, .inr h.1.2⟩, trivial⟩
    · rcases hk with rfl | rfl | rfl | rfl | rfl | rfl | rfl | rfl | rfl | rfl | rfl | rfl <;> exact ⟨.inl h.1.1, trivial⟩

/-- A beginning and a continuation make a member. -/
theorem member_takes {as : List Attribute} (has : ∀ a ∈ as, a.Plain) {ks : List String}
    (hks : ∀ m ∈ ks, m ∈ "const" :: plainModifiers) {us ws rest : List Token}
    (h : Lexed (as.flatMap Attribute.lexemes ++ ks.map Lexeme.word) us) {k : Look} (hk : k ∈ headEnds)
    (hr : Sees [k] (ws ++ rest))
    {c : Nat} {kind : Kind} {b : List Tree} (hb : Takes c (.headed (.seq []) memberKinds) (ws ++ rest) [.node kind b] rest)
    (hc : c + 5 ≤ memberCost) :
    ∃ a, Takes memberCost (.ref .member) (us ++ ws ++ rest) [.node kind (a ++ b)] rest ∧ Heads a as ∧
      Sees [.next] (us ++ ws ++ rest) := by
  obtain ⟨a, ha, hheads⟩ := head_takes has hks h hk hr
  obtain ⟨k, hk, hsees⟩ := starts_head hks h hk hr
  rw [← List.append_assoc] at ha hsees
  have hspace : Refuses sight blockNamespace (us ++ ws ++ rest) := refuses_of_foresee (starters_foreseen k hk) hsees
  simp only [memberCost] at hc
  have hmember : Takes (memberCost - 4) (.headed declarationHead memberKinds) (us ++ ws ++ rest) [.node kind (a ++ b)] rest :=
    .headed_after ha hb (by simp only [memberCost]; omega) (by simp only [memberCost]; omega)
  refine ⟨a, ?_, hheads, hsees.next_of_starter hk⟩
  exact .ref (c := memberCost - 1) (.first_later hspace
    (.first_here (e := memberCost - 3) hmember (by simp only [memberCost]; omega))
    (by simp only [memberCost]; omega) (by simp only [memberCost]; omega)) (by simp only [memberCost]; omega)

theorem Heads.childrenOf {a b : List Tree} {as : List Attribute} (h : Heads a as) (kind : Kind) {k : Kind}
    (hk : k ≠ .attributes) :
    (Tree.node kind (a ++ b)).childrenOf k = (Tree.node kind b).childrenOf k := by
  have hnone : a.filter (·.kind? == some k) = [] := by
    rw [List.filter_eq_nil_iff]
    intro t ht
    rcases h.kinds t ht with e | e
    · simp [e]
    · simpa [e] using hk.symm
  rw [Tree.childrenOf_node, Tree.childrenOf_node, List.filter_append, hnone, List.nil_append]

theorem Heads.childText {a b : List Tree} {as : List Attribute} (h : Heads a as) (kind : Kind) {k : Kind} (hk : k ≠ .attributes) :
    (Tree.node kind (a ++ b)).childText k = (Tree.node kind b).childText k := by
  rw [Tree.childText, Tree.childText, h.childrenOf kind hk]

theorem Heads.isBare {a b : List Tree} {as : List Attribute} (h : Heads a as) {kind : Kind}
    (hb : (Tree.node kind b).isBare = true) :
    (Tree.node kind (a ++ b)).isBare = true := by
  rw [Tree.isBare, Bool.and_eq_true, treesBare_iff] at hb ⊢
  refine ⟨hb.1, ?_⟩
  intro t ht
  rcases List.mem_append.mp ht with ht | ht
  · exact h.bare t ht
  · exact hb.2 t ht

/-- A tree of lexemes stands in a body as one member. -/
theorem Takes.membersOf {c : Nat} {r : Rule} {us rest : List Token} {kind : Kind} {b : List Tree} {ls : List Lexeme}
    (h : Takes c r (us ++ rest) [.node kind b] rest) (hl : Lexed ls us) :
    (Tree.node kind b).membersOf = [(Tree.node kind b).memberNode] := by
  have htokens : (Tree.node kind b).tokens = us := by
    have := h.tokens
    rw [treeTokens, treeTokens, List.append_nil] at this
    exact (List.append_cancel_right this).symm
  have hnotes : (Tree.node kind b).notes = [] := Tree.notes_quiet (htokens ▸ hl.quiet)
  rw [Tree.membersOf, Tree.noteMembers, hnotes]
  rfl

/-- The tokens are one member of a body, which lists it as `n`; others may stand before it. -/
def MemberAs (us rest : List Token) (n : Node) : Prop :=
  (∃ t, Takes memberCost (.ref .member) (us ++ rest) [t] rest ∧ t.membersOf = [n] ∧ t.Enclosed) ∧ Sees [.next] (us ++ rest)

theorem isTypeName.headEnd {s : String} {t : Token} (h : isTypeName s = true) (ht : (Lexeme.word s).Is t) (rest : List Token) :
    ∃ k ∈ typeLooks, k ∈ headEnds ∧ k.Fits t.kind t.text ∧ Sees [k] (t :: rest) := by
  obtain ⟨k, hk, hfits⟩ := isTypeName.fits h
  have hf : k.Fits t.kind t.text := ht.fits hfits
  refine ⟨k, hk, ?_, hf, ?_⟩
  · simp only [typeLooks, List.mem_cons, List.not_mem_nil, or_false] at hk
    rcases hk with rfl | rfl <;> simp [headEnds]
  · simp only [typeLooks, List.mem_cons, List.not_mem_nil, or_false] at hk
    rcases hk with rfl | rfl <;> exact ⟨hf, trivial⟩

/-- What is seen of a type goes before what is seen of the rest. -/
theorem Sees.types {k : Look} (hk : k ∈ typeLooks) {ks : List Look} {t : Token} {rest : List Token} (h : Sees [k] (t :: rest))
    (hr : Sees ks rest) : Sees (k :: ks) (t :: rest) := by
  simp only [typeLooks, List.mem_cons, List.not_mem_nil, or_false] at hk
  rcases hk with rfl | rfl <;> exact ⟨h.1, hr⟩

/-! ## Constants -/

theorem constant_foreseen : ∀ k ∈ typeLooks,
    (∀ v ∈ [Look.identifier, .value],
      foresee (.headed (.seq []) memberKinds) [k, .identifier, .exactly .mark "=", v, .exactly .mark ";"] =
        .matched (.node .other (.leaf 0 (.leaf 1 (.leaf 2 (.leaf 3 (.leaf 4 .nil))))) .nil) 5) ∧
      foresee (.headed (.seq []) memberKinds)
          [k, .identifier, .exactly .mark "=", .exactly .mark "-", .value, .exactly .mark ";"] =
        .matched (.node .other (.leaf 0 (.leaf 1 (.leaf 2 (.leaf 3 (.leaf 4 (.leaf 5 .nil)))))) .nil) 6 := by
  decide +kernel

theorem constant_member {c : Constant} (hc : c.Plain) {us : List Token} (h : Lexed c.lexemes us) (rest : List Token) :
    MemberAs us rest (.member (some "") (some "other")) := by
  obtain ⟨n, hn, hname⟩ := hc.name
  obtain ⟨ty, hty, htype⟩ := hc.type
  obtain ⟨m, hm, haccess⟩ := hc.access
  have hsplit : c.lexemes = [Lexeme.word m, Lexeme.word "const"] ++
      ([Lexeme.word ty, Lexeme.word n, Lexeme.mark "="] ++ Lexeme.ofValue (Template.Library.printed c.value) ++
      [Lexeme.mark ";"]) := by
    rw [Constant.lexemes, hn, hty, hm]
    rfl
  have hl := h
  rw [hsplit] at h
  obtain ⟨vs, ws, rfl, hvs, hws⟩ := h.split
  obtain ⟨t₀, ws, rfl, h₀, hws⟩ := Lexed.cons hws
  obtain ⟨t₁, ws, rfl, h₁, hws⟩ := Lexed.cons hws
  obtain ⟨t₂, ws, rfl, h₂, hws⟩ := Lexed.cons hws
  obtain ⟨k, hk, hend, hfits, hsees⟩ := isTypeName.headEnd htype h₀ (t₁ :: t₂ :: ws ++ rest)
  have hid := h₁.fits (isIdentifier.fits hname)
  -- the value is one token, or two behind a minus sign
  have htail : ∃ b, Takes sight (.headed (.seq []) memberKinds) (t₀ :: t₁ :: t₂ :: ws ++ rest) [.node .other b] rest ∧
      (Tree.node .other b).childText .name = "" ∧ (Tree.node .other b).isBare = true := by
    rcases hc.value.cases with hv | hv | ⟨ds, hds, -⟩
    · rw [Lexeme.ofValue_word (isIdentifier.isWordText hv)] at hws
      obtain ⟨t₃, ws, rfl, h₃, hws⟩ := Lexed.cons hws
      obtain ⟨t₄, ws, rfl, h₄, hws⟩ := hws.cons
      obtain rfl := hws.nil
      exact ⟨[.leaf t₀, .leaf t₁, .leaf t₂, .leaf t₃, .leaf t₄], takes_of_foresee
        ((constant_foreseen k hk).1 .identifier (by simp))
        (Sees.types hk hsees ⟨hid, h₂.exactly, h₃.fits (isIdentifier.fits hv), h₄.exactly, trivial⟩),
        rfl, rfl⟩
    · rw [Lexeme.ofValue_digits hv] at hws
      obtain ⟨t₃, ws, rfl, h₃, hws⟩ := Lexed.cons hws
      obtain ⟨t₄, ws, rfl, h₄, hws⟩ := hws.cons
      obtain rfl := hws.nil
      exact ⟨[.leaf t₀, .leaf t₁, .leaf t₂, .leaf t₃, .leaf t₄], takes_of_foresee
        ((constant_foreseen k hk).1 .value (by simp))
        (Sees.types hk hsees ⟨hid, h₂.exactly, h₃.fits (.inr rfl), h₄.exactly, trivial⟩),
        rfl, rfl⟩
    · rw [Lexeme.ofValue_minus hds] at hws
      obtain ⟨t₃, ws, rfl, h₃, hws⟩ := Lexed.cons hws
      obtain ⟨t₄, ws, rfl, h₄, hws⟩ := hws.cons
      obtain ⟨t₅, ws, rfl, h₅, hws⟩ := hws.cons
      obtain rfl := hws.nil
      exact ⟨[.leaf t₀, .leaf t₁, .leaf t₂, .leaf t₃, .leaf t₄, .leaf t₅], takes_of_foresee
        (constant_foreseen k hk).2 (Sees.types hk hsees ⟨hid, h₂.exactly, h₃.exactly, h₄.fits (.inr rfl), h₅.exactly, trivial⟩),
        rfl, rfl⟩
  obtain ⟨b, htakes, htext, hbare⟩ := htail
  obtain ⟨a, ha, hheads, hnext⟩ := member_takes (show ∀ a ∈ ([] : List Attribute), a.Plain by simp)
    (show ∀ w ∈ [m, "const"], w ∈ "const" :: plainModifiers by simp [haccess]) hvs hend hsees htakes
    (by simp only [memberCost]; omega)
  refine ⟨⟨_, ha, ?_, Tree.enclosed_of_bare (hheads.isBare hbare)⟩, hnext⟩
  rw [ha.membersOf hl]
  simp [Tree.memberNode, Tree.kind?, hheads.childText, htext]

/-! ## Properties -/

theorem property_foreseen : ∀ k ∈ typeLooks,
    foresee (.headed (.seq []) memberKinds)
        [k, .identifier, .exactly .mark "=>", .identifier, .exactly .mark ";"] =
      .matched (.node .property (.node .type (.leaf 0 .nil) (.node .name (.leaf 1 .nil)
        (.leaf 2 (.leaf 3 (.leaf 4 .nil))))) .nil) 5 ∧
    foresee (.headed (.seq []) memberKinds)
        [k, .identifier, .exactly .mark "\x7b", .exactly .word "get", .exactly .mark ";", .exactly .word "set",
          .exactly .mark ";", .exactly .mark "\x7d", .next] =
      .matched (.node .property (.node .type (.leaf 0 .nil) (.node .name (.leaf 1 .nil)
        (.leaf 2 (.leaf 3 (.leaf 4 (.leaf 5 (.leaf 6 (.leaf 7 .nil)))))))) .nil) 8 := by
  decide +kernel

theorem property_member {p : Property} (hp : p.Plain) {us rest : List Token} (h : Lexed p.lexemes us) (hr : Sees [.next] rest) :
    MemberAs us rest (.propertyNode (some p.name.shown) (some p.type.shown) (some "property")) := by
  obtain ⟨n, hn, hname⟩ := hp.name
  obtain ⟨ty, hty, htype⟩ := hp.type
  obtain ⟨m, hm, haccess⟩ := hp.access
  have hl := h
  rw [Property.lexemes, hn, hty, hm] at h
  obtain ⟨t, ws, rfl, ht, hws⟩ := Lexed.cons h
  obtain ⟨t₀, ws, rfl, h₀, hws⟩ := Lexed.cons hws
  obtain ⟨t₁, ws, rfl, h₁, hws⟩ := Lexed.cons hws
  obtain ⟨k, hk, hend, hfits, hsees⟩ := isTypeName.headEnd htype h₀ (t₁ :: ws ++ rest)
  have hid := h₁.fits (isIdentifier.fits hname)
  -- an expression, or accessors with whatever follows them
  have htail : ∃ b, Takes sight (.headed (.seq []) memberKinds) (t₀ :: t₁ :: ws ++ rest)
        [.node .property (.node .type [.leaf t₀] :: .node .name [.leaf t₁] :: b)] rest ∧
      (∀ u ∈ b, ∃ v, u = Tree.leaf v) := by
    cases hb : p.isExpressionBodied with
    | true =>
      rw [hb] at hws
      obtain ⟨e, he, hexpr⟩ := hp.expression hb
      rw [he] at hws
      obtain ⟨t₂, ws, rfl, h₂, hws⟩ := Lexed.cons hws
      obtain ⟨t₃, ws, rfl, h₃, hws⟩ := hws.cons
      obtain ⟨t₄, ws, rfl, h₄, hws⟩ := hws.cons
      obtain rfl := hws.nil
      exact ⟨[.leaf t₂, .leaf t₃, .leaf t₄], takes_of_foresee (property_foreseen k hk).1
        (Sees.types hk hsees ⟨hid, h₂.exactly, h₃.fits (isIdentifier.fits hexpr), h₄.exactly, trivial⟩), by simp⟩
    | false =>
      rw [hb] at hws
      obtain ⟨t₂, ws, rfl, h₂, hws⟩ := Lexed.cons hws
      obtain ⟨t₃, ws, rfl, h₃, hws⟩ := hws.cons
      obtain ⟨t₄, ws, rfl, h₄, hws⟩ := hws.cons
      obtain ⟨t₅, ws, rfl, h₅, hws⟩ := hws.cons
      obtain ⟨t₆, ws, rfl, h₆, hws⟩ := hws.cons
      obtain ⟨t₇, ws, rfl, h₇, hws⟩ := hws.cons
      obtain rfl := hws.nil
      exact ⟨[.leaf t₂, .leaf t₃, .leaf t₄, .leaf t₅, .leaf t₆, .leaf t₇], takes_of_foresee (property_foreseen k hk).2
        (Sees.types hk hsees ⟨hid, h₂.exactly, h₃.exactly, h₄.exactly, h₅.exactly, h₆.exactly, h₇.exactly, hr⟩), by simp⟩
  obtain ⟨b, htakes, hleaves⟩ := htail
  obtain ⟨a, ha, hheads, hnext⟩ := member_takes (show ∀ a ∈ ([] : List Attribute), a.Plain by simp)
    (show ∀ w ∈ [m], w ∈ "const" :: plainModifiers by simp [haccess]) (List.Forall₂.cons ht .nil) hend hsees htakes
    (by simp only [memberCost]; omega)
  have hbare : (Tree.node .property (.node .type [.leaf t₀] :: .node .name [.leaf t₁] :: b)).isBare = true := by
    have hb : treesBare b = true := treesBare_iff.mpr fun u hu => by obtain ⟨v, rfl⟩ := hleaves u hu; rfl
    simp [Tree.isBare, treesBare, typeWord?, hb]
  refine ⟨⟨_, ha, ?_, Tree.enclosed_of_bare (hheads.isBare hbare)⟩, hnext⟩
  rw [ha.membersOf hl]
  simp [Tree.memberNode, Tree.kind?, hheads.childText, h₀.text, h₁.text, hn, hty, Lexeme.word]

/-! ## Parameters and arguments -/

def Tree.ownParameter : Tree → List Syntax.Parameter :=
  Tree.own .parameter fun p => ⟨some (p.childText .name), some (p.childText .type)⟩

theorem parameter_foreseen :
    (∀ k ∈ typeLooks, ∀ s ∈ [",", ")"],
      foresee (.first [parameterArray, .ref .parameter]) [k, .identifier, .exactly .mark s] =
          .matched (.node .parameter (.node .type (.leaf 0 .nil) (.node .name (.leaf 1 .nil) .nil)) .nil) 2 ∧
        foresee (.first [parameterArray, .ref .parameter]) [.exactly .word "this", k, .identifier, .exactly .mark s] =
          .matched (.node .parameter (.leaf 0 (.node .type (.leaf 1 .nil) (.node .name (.leaf 2 .nil) .nil))) .nil) 3) ∧
      foresee (Rule.commas (.first [parameterArray, .ref .parameter])) [.exactly .mark ")"] = .mismatch := by
  decide +kernel

theorem parameter_takes {p : Parameter} (hp : p.Plain) {us rest : List Token} {s : String} (hs : s ∈ [",", ")"])
    (h : Lexed p.lexemes us) (hr : Sees [.exactly .mark s] rest) :
    ∃ a, Takes sight (.first [parameterArray, .ref .parameter]) (us ++ rest) a rest ∧
      a.flatMap Tree.ownParameter = [⟨some p.name.shown, some p.type.shown⟩] ∧ ∀ t ∈ a, t.isBare = true := by
  obtain ⟨n, hn, hname⟩ := hp.name
  obtain ⟨ty, hty, htype⟩ := hp.type
  rw [Parameter.lexemes, hn, hty] at h
  obtain ⟨vs, ws, rfl, hvs, hws⟩ := Lexed.split h
  obtain ⟨t₀, ws, rfl, h₀, hws⟩ := hws.cons
  obtain ⟨t₁, ws, rfl, h₁, hws⟩ := hws.cons
  obtain rfl := hws.nil
  obtain ⟨k, hk, -, -, hsees⟩ := isTypeName.headEnd htype h₀ (t₁ :: rest)
  have hboth : Sees [k, .identifier, .exactly .mark s] (t₀ :: t₁ :: rest) :=
    Sees.types hk hsees ⟨h₁.fits (isIdentifier.fits hname), hr⟩
  cases hthis : p.isExtensionReceiver with
  | false =>
    rw [hthis] at hvs
    obtain rfl := Lexed.nil hvs
    refine ⟨_, takes_of_foresee (parameter_foreseen.1 k hk s hs).1 hboth, ?_, ?_⟩
    · simp [Forest.trees, Tree.ownParameter, Tree.own, Tree.kind?, h₀.text, h₁.text, hn, hty, Lexeme.word]
    · simp [Forest.trees, Tree.isBare, treesBare, typeWord?]
  | true =>
    rw [hthis] at hvs
    obtain ⟨t, vs, rfl, ht, hvs⟩ := Lexed.cons hvs
    obtain rfl := hvs.nil
    refine ⟨_, takes_of_foresee (parameter_foreseen.1 k hk s hs).2 ⟨ht.exactly, hboth⟩, ?_, ?_⟩
    · simp [Forest.trees, Tree.ownParameter, Tree.own, Tree.kind?, h₀.text, h₁.text, hn, hty, Lexeme.word]
    · simp [Forest.trees, Tree.isBare, treesBare, typeWord?]

def parametersOf (ps : List Parameter) : List Syntax.Parameter := ps.map fun p => ⟨some p.name.shown, some p.type.shown⟩

theorem parameterList_takes {ps : List Parameter} (hps : ∀ p ∈ ps, p.Plain) {us : List Token}
    (h : Lexed (Lexeme.mark "(" :: Lexeme.commas (ps.map Parameter.lexemes) ++ [Lexeme.mark ")"]) us) (rest : List Token) :
    ∃ b, Takes (sight + 10) (.ref .parameterList) (us ++ rest) [.node .parameters b] rest ∧
      b.flatMap Tree.ownParameter = parametersOf ps ∧ treesBare b = true := by
  obtain ⟨a, ha, hf, hP⟩ := Takes.parenItems (e := sight + 8)
    (g := fun p : Parameter => [(⟨some p.name.shown, some p.type.shown⟩ : Syntax.Parameter)]) (fun _ => ⟨rfl, rfl⟩)
    (fun p hp us rest s hs hus hr => parameter_takes (hps p hp) hs hus hr)
    (fun rest hr => refuses_of_foresee parameter_foreseen.2 hr) h rest (Nat.le_refl _) (by decide)
  refine ⟨a, .ref (.node (e := sight + 9) ha (Nat.lt_succ_self _)) (Nat.lt_succ_self _), ?_, treesBare_iff.mpr hP⟩
  rw [hf, parametersOf, List.map_eq_flatMap]

theorem argument_foreseen :
    (∀ s ∈ [",", ")"], foresee argument [.identifier, .exactly .mark s] = .matched (.leaf 0 .nil) 1) ∧
      foresee (Rule.commas argument) [.exactly .mark ")"] = .mismatch := by
  decide +kernel

theorem argumentList_takes {xs : List Piece} (hxs : ∀ x ∈ xs, x.Has (isIdentifier · = true)) {us : List Token}
    (h : Lexed (Lexeme.mark "(" :: Lexeme.commas (xs.map fun x => [Lexeme.word x.shown]) ++ [Lexeme.mark ")"]) us)
    (rest : List Token) :
    ∃ a, Takes (sight + 9) (.ref .argumentList) (us ++ rest) a rest ∧ ∀ t ∈ a, ∃ v, t = Tree.leaf v := by
  have item : ∀ x ∈ xs, ∀ us rest, ∀ s ∈ [",", ")"], Lexed [Lexeme.word x.shown] us → Sees [.exactly .mark s] rest →
      ∃ a, Takes sight argument (us ++ rest) a rest ∧ a.flatMap (fun _ => ([] : List Unit)) = [] ∧
        ∀ t ∈ a, ∃ v, t = Tree.leaf v := by
    intro x hx us rest s hs hus hr
    obtain ⟨i, rfl, hi⟩ := hxs x hx
    obtain ⟨t, us, rfl, ht, hus⟩ := hus.cons
    obtain rfl := hus.nil
    exact ⟨[.leaf t], takes_of_foresee (argument_foreseen.1 s hs) ⟨ht.fits (isIdentifier.fits hi), hr⟩, rfl, by simp⟩
  obtain ⟨a, ha, -, hP⟩ := Takes.parenItems (e := sight + 8) (g := fun _ => []) (fun t => ⟨rfl, t, rfl⟩) item
    (fun rest hr => refuses_of_foresee argument_foreseen.2 hr) h rest (Nat.le_refl _) (by decide)
  exact ⟨a, .ref ha (Nat.lt_succ_self _), hP⟩

/-! ## Methods -/

/-- A method in a body. Of a constructor only the name remains. -/
def methodIn (m : Method) : Node :=
  if m.isConstructor then .member (some m.returnType.shown) (some "other")
  else
    .methodNode (some m.name.shown) (some m.returnType.shown) (some (parametersOf (m.parameters.getD [])))
      (some ((m.attributes.getD []).map fun a => [a.inSource])) (some "method")

def bodies : List (List Lexeme) := [[.mark "\x7b", .mark "\x7d"], [.mark ";"]]

theorem body_foreseen :
    foresee (.ref .functionBody) [.exactly .mark "\x7b", .exactly .mark "\x7d"] = .matched (.leaf 0 (.leaf 1 .nil)) 2 ∧
      foresee (.ref .functionBody) [.exactly .mark ";"] = .matched (.leaf 0 .nil) 1 ∧
      ∀ s ∈ ["\x7b", ";"], foresee constraintClause [.exactly .mark s] = .mismatch ∧
        foresee (.seq [.mark ":", .words ["base", "this"], .ref .argumentList]) [.exactly .mark s] = .mismatch := by
  decide +kernel

theorem body_takes {ls : List Lexeme} (hls : ls ∈ bodies) {us : List Token} (h : Lexed ls us) (rest : List Token) :
    (∃ a, Takes sight (.ref .functionBody) (us ++ rest) a rest ∧ ∀ t ∈ a, ∃ v, t = Tree.leaf v) ∧
      ∃ s ∈ ["\x7b", ";"], Sees [.exactly .mark s] (us ++ rest) := by
  simp only [bodies, List.mem_cons, List.not_mem_nil, or_false] at hls
  rcases hls with rfl | rfl
  · obtain ⟨t₀, us, rfl, h₀, h⟩ := h.cons
    obtain ⟨t₁, us, rfl, h₁, h⟩ := h.cons
    obtain rfl := h.nil
    exact ⟨⟨[.leaf t₀, .leaf t₁], takes_of_foresee body_foreseen.1 ⟨h₀.exactly, h₁.exactly, trivial⟩, by simp⟩,
      "\x7b", by simp, h₀.exactly, trivial⟩
  · obtain ⟨t₀, us, rfl, h₀, h⟩ := h.cons
    obtain rfl := h.nil
    exact ⟨⟨[.leaf t₀], takes_of_foresee body_foreseen.2.1 ⟨h₀.exactly, trivial⟩, by simp⟩, ";", by simp, h₀.exactly, trivial⟩

def methodStart : List Rule := [.node .type (.ref .type), .opt explicitInterface, .node .name .name, .opt typeParameterList]

theorem method_foreseen : ∀ k ∈ typeLooks,
    (∀ p ∈ memberKinds.take 12, foresee p.2 [k, .identifier, .exactly .mark "("] = .mismatch) ∧
      foresee (.seq methodStart) [k, .identifier, .exactly .mark "("] =
        .matched (.node .type (.leaf 0 .nil) (.node .name (.leaf 1 .nil) .nil)) 2 := by
  decide +kernel

theorem constructor_foreseen : ∀ p ∈ memberKinds.take 8, foresee p.2 [.identifier, .exactly .mark "("] = .mismatch := by
  decide +kernel

theorem treesBare_leaves {ts : List Tree} (h : ∀ t ∈ ts, ∃ v, t = Tree.leaf v) : treesBare ts = true :=
  treesBare_iff.mpr fun t ht => by obtain ⟨v, rfl⟩ := h t ht; rfl

/-- A method from its return type on. -/
theorem method_rest {ty n : String} (hty : isTypeName ty = true) (hn : isIdentifier n = true) {ps : List Parameter}
    (hps : ∀ p ∈ ps, p.Plain) {body : List Lexeme} (hbody : body ∈ bodies) {us : List Token}
    (h : Lexed (.word ty :: .word n :: (.mark "(" :: Lexeme.commas (ps.map Parameter.lexemes) ++ [.mark ")"]) ++ body) us)
    (rest : List Token) :
    (∃ b, Takes (sight + 20) (.headed (.seq []) memberKinds) (us ++ rest) [.node .method b] rest ∧
      (Tree.node .method b).childText .name = n ∧ (Tree.node .method b).childText .type = ty ∧
      (Tree.node .method b).parameters = parametersOf ps ∧ b.flatMap Tree.ownList = [] ∧ (Tree.node .method b).isBare = true) ∧
      ∃ k ∈ headEnds, Sees [k] (us ++ rest) := by
  obtain ⟨t₀, us, rfl, h₀, hus⟩ := Lexed.cons h
  obtain ⟨t₁, us, rfl, h₁, hus⟩ := Lexed.cons hus
  obtain ⟨vs, ws, rfl, hvs, hws⟩ := Lexed.split hus
  obtain ⟨⟨b, hb, hleaves⟩, s, hs, hsees⟩ := body_takes hbody hws rest
  obtain ⟨a, ha, hparams, hbare⟩ := parameterList_takes hps hvs (ws ++ rest)
  obtain ⟨k, hk, hend, -, hseen⟩ := isTypeName.headEnd hty h₀ (t₁ :: (vs ++ ws) ++ rest)
  have hopen : Sees [.exactly .mark "("] (vs ++ (ws ++ rest)) := by
    obtain ⟨t, vs, rfl, ht, -⟩ := Lexed.cons hvs
    exact ⟨ht.exactly, trivial⟩
  have hlooks : Sees [k, .identifier, .exactly .mark "("] (t₀ :: t₁ :: (vs ++ (ws ++ rest))) :=
    Sees.types hk (by simpa using hseen) ⟨h₁.fits (isIdentifier.fits hn), hopen⟩
  have hstart : Takes sight (.seq methodStart) (t₀ :: t₁ :: (vs ++ (ws ++ rest)))
      [.node .type [.leaf t₀], .node .name [.leaf t₁]] (vs ++ (ws ++ rest)) := takes_of_foresee (method_foreseen k hk).2 hlooks
  have hclauses : Takes (sight + 3) (.seq [.many constraintClause, .ref .functionBody]) (ws ++ rest) ([] ++ b) rest :=
    .seq_cons (.many_nil (e := sight + 1) (refuses_of_foresee (body_foreseen.2.2 s hs).1 hsees) (by omega))
      (hb.one (e := sight + 1) (by omega) (by decide)) (by omega) (by omega)
  have htail : Takes (sight + 11) (.seq [.ref .parameterList, .many constraintClause, .ref .functionBody]) (vs ++ (ws ++ rest))
      ([.node .parameters a] ++ b) rest := .seq_cons ha hclauses (by omega) (by omega)
  have hrest : Takes (sight + 15) methodRest (t₀ :: t₁ :: (vs ++ (ws ++ rest)))
      ([.node .type [.leaf t₀], .node .name [.leaf t₁]] ++ ([.node .parameters a] ++ b)) rest :=
    .seq_append hstart htail (by omega) (by simp only [methodStart, List.length_cons, List.length_nil]; omega)
  refine ⟨⟨.node .type [.leaf t₀] :: .node .name [.leaf t₁] :: .node .parameters a :: b, ?_, ?_, ?_, ?_, ?_, ?_⟩, k, hend, hseen⟩
  · rw [List.cons_append, List.cons_append, List.append_assoc]
    exact .headed (e := sight + 20) (c := 1) .seq_nil (List.take_append_drop 12 memberKinds).symm
      (fun p hp => (refuses_of_foresee ((method_foreseen k hk).1 p hp) hlooks).mono (by omega)) hrest (by omega) (by omega)
  · simp [h₁.text, Lexeme.word]
  · simp [h₀.text, Lexeme.word]
  · rw [← hparams]
    exact Tree.map_childrenOf .parameters .parameter _ a
  · have hnone : b.flatMap Tree.ownList = [] := List.flatMap_eq_nil_iff.mpr fun t ht => by obtain ⟨v, rfl⟩ := hleaves t ht; rfl
    exact hnone
  · simp [Tree.isBare, treesBare, typeWord?, hbare, treesBare_leaves hleaves]

/-- The call of the base constructor, if there is one. -/
theorem baseCall_takes {m : Method} (hargs : ∀ x ∈ m.baseArguments.getD [], x.Has (isIdentifier · = true)) {us rest : List Token}
    (h : Lexed m.baseLexemes us) {s : String} (hs : s ∈ ["\x7b", ";"]) (hr : Sees [.exactly .mark s] rest) :
    ∃ a, Takes (sight + 15) (.opt (.seq [.mark ":", .words ["base", "this"], .ref .argumentList])) (us ++ rest) a rest ∧
      ∀ t ∈ a, ∃ v, t = Tree.leaf v := by
  unfold Method.baseLexemes at h
  cases hb : m.baseArguments.getD [] with
  | nil =>
    rw [hb] at h
    obtain rfl := h.nil
    exact ⟨[], .opt_none (refuses_of_foresee (body_foreseen.2.2 s hs).2 hr) (by omega) (by decide), by simp⟩
  | cons x xs =>
    rw [hb] at h hargs
    obtain ⟨t₀, us, rfl, h₀, h⟩ := Lexed.cons h
    obtain ⟨t₁, us, rfl, h₁, h⟩ := Lexed.cons h
    obtain ⟨a, ha, hleaves⟩ := argumentList_takes hargs h rest
    have hcolon : (Pattern.mark ":").accepts t₀ = true := h₀.accepts rfl
    have hbase : (Pattern.word "base").accepts t₁ = true := h₁.accepts rfl
    have hwords : Takes 2 (.words ["base", "this"]) (t₁ :: (us ++ rest)) [.leaf t₁] (us ++ rest) :=
      .first_here (.token hbase) (by omega)
    have hcall : Takes (sight + 12) (.seq [.mark ":", .words ["base", "this"], .ref .argumentList]) (t₀ :: t₁ :: (us ++ rest))
        (.leaf t₀ :: ([.leaf t₁] ++ a)) rest :=
      .seq_token hcolon (.seq_cons (e := sight + 11) hwords (ha.one (e := sight + 10) (by omega) (by decide))
      (by decide) (by omega))
        (by omega) (by decide)
    refine ⟨_, .opt_some hcall (by omega), ?_⟩
    intro t ht
    simp only [List.mem_cons, List.mem_append, List.not_mem_nil, or_false] at ht
    rcases ht with rfl | rfl | ht
    · exact ⟨t₀, rfl⟩
    · exact ⟨t₁, rfl⟩
    · exact hleaves t ht

/-- A constructor from the name of its type on. -/
theorem constructor_rest {n : String} (hn : isIdentifier n = true) {ps : List Parameter} (hps : ∀ p ∈ ps, p.Plain) {m : Method}
    (hargs : ∀ x ∈ m.baseArguments.getD [], x.Has (isIdentifier · = true)) {body : List Lexeme} (hbody : body ∈ bodies)
    {us : List Token}
    (h : Lexed (.word n :: (.mark "(" :: Lexeme.commas (ps.map Parameter.lexemes) ++ [.mark ")"]) ++ (m.baseLexemes ++ body)) us)
    (rest : List Token) :
    (∃ b, Takes (sight + 20) (.headed (.seq []) memberKinds) (us ++ rest) [.node .other b] rest ∧
      (Tree.node .other b).childText .name = n ∧ (Tree.node .other b).isBare = true) ∧
      ∃ k ∈ headEnds, Sees [k] (us ++ rest) := by
  obtain ⟨t₀, us, rfl, h₀, hus⟩ := Lexed.cons h
  obtain ⟨vs, us, rfl, hvs, hus⟩ := Lexed.split hus
  obtain ⟨ws, xs, rfl, hws, hxs⟩ := Lexed.split hus
  obtain ⟨⟨b, hb, hleaves⟩, s, hs, hsees⟩ := body_takes hbody hxs rest
  obtain ⟨c, hcall, hcalled⟩ := baseCall_takes hargs hws hs hsees
  obtain ⟨a, ha, -, hbare⟩ := parameterList_takes hps hvs (ws ++ (xs ++ rest))
  have hid := h₀.fits (isIdentifier.fits hn)
  have hlooks : Sees [.identifier, .exactly .mark "("] (t₀ :: (vs ++ (ws ++ (xs ++ rest)))) := by
    obtain ⟨t, vs, rfl, ht, -⟩ := Lexed.cons hvs
    exact ⟨hid, ht.exactly, trivial⟩
  have hname : Pattern.name.accepts t₀ = true := Look.accepts_of_look hid rfl
  have htail : Takes (sight + 17) (.seq [.opt (.seq [.mark ":", .words ["base", "this"], .ref .argumentList]),
    .ref .functionBody])
      (ws ++ (xs ++ rest)) (c ++ b) rest := .seq_cons hcall (hb.one (e := sight + 1) (by omega) (by decide)) (by omega) (by omega)
  have hrest : Takes (sight + 19) constructorRest (t₀ :: (vs ++ (ws ++ (xs ++ rest))))
      ([.node .name [.leaf t₀]] ++ ([.node .parameters a] ++ (c ++ b))) rest :=
    .seq_cons (.node (e := 2) (.token hname) (by omega)) (.seq_cons (e := sight + 18) ha htail (by omega) (by omega))
      (by decide) (by omega)
  refine ⟨⟨.node .name [.leaf t₀] :: .node .parameters a :: (c ++ b), ?_, ?_, ?_⟩, .identifier, by simp [headEnds], hid, trivial⟩
  · rw [List.cons_append, List.append_assoc, List.append_assoc]
    exact .headed (e := sight + 20) (c := 1) .seq_nil (List.take_append_drop 8 memberKinds).symm
      (fun p hp => (refuses_of_foresee (constructor_foreseen p hp) hlooks).mono (by omega)) hrest (by omega) (by omega)
  · simp [h₀.text, Lexeme.word]
  · have hnone : treesBare (c ++ b) = true := treesBare_leaves fun t ht => (List.mem_append.mp ht).elim (hcalled t) (hleaves t)
    simp [Tree.isBare, treesBare, typeWord?, hbare, hnone]

theorem modifiers_plain {ks : List Piece} (h : ∀ k ∈ ks, k.Has (· ∈ plainModifiers)) :
    ∀ w ∈ ks.map Piece.shown, w ∈ "const" :: plainModifiers := by
  intro w hw
  obtain ⟨k, hk, rfl⟩ := List.mem_map.mp hw
  obtain ⟨s, rfl, hs⟩ := h k hk
  exact List.mem_cons_of_mem _ hs

theorem method_member {m : Method} (hm : m.Plain isIdentifier) {isInterface : Bool} {us : List Token}
    (h : Lexed (m.lexemes isInterface) us) (rest : List Token) : MemberAs us rest (methodIn m) := by
  obtain ⟨ks, hks, hkeywords⟩ := hm.keywords
  obtain ⟨ps, hps, hparameters⟩ := hm.parameters
  obtain ⟨ty, hty, htype⟩ := hm.returnType
  have hl := h
  let body : List Lexeme := if isInterface then [.mark ";"] else [.mark "\x7b", .mark "\x7d"]
  have hbody : body ∈ bodies := by cases isInterface <;> simp [body, bodies]
  have hsplit : m.lexemes isInterface = ((m.attributes.getD []).flatMap Attribute.lexemes ++
    (ks.map Piece.shown).map Lexeme.word) ++
      (.word ty :: (if m.isConstructor then [] else [.word m.name.shown]) ++
        ((.mark "(" :: Lexeme.commas (ps.map Parameter.lexemes) ++ [.mark ")"]) ++ (m.baseLexemes ++ body))) := by
    simp [Method.lexemes, Method.tailLexemes, hks, hps, hty, body, Piece.shown]
  rw [hsplit] at h
  obtain ⟨vs, ws, rfl, hvs, hws⟩ := h.split
  cases hcons : m.isConstructor with
  | true =>
    rw [hcons] at hws htype
    obtain ⟨⟨b, hb, hname, hbare⟩, k, hk, hsees⟩ := constructor_rest htype hparameters hm.baseArguments hbody hws rest
    obtain ⟨a, ha, hheads, hnext⟩ := member_takes hm.attributes (modifiers_plain hkeywords) hvs hk hsees hb
      (by simp only [memberCost]; omega)
    refine ⟨⟨_, ha, ?_, Tree.enclosed_of_bare (hheads.isBare hbare)⟩, hnext⟩
    rw [ha.membersOf hl]
    simp [Tree.memberNode, Tree.kind?, hheads.childText, hname, methodIn, hcons, hty, Piece.shown]
  | false =>
    obtain ⟨n, hn, hid⟩ := hm.name hcons
    have hnone : m.baseLexemes = [] := by rw [Method.baseLexemes, hm.noBase hcons]
    rw [hcons, hn, hnone] at hws
    rw [hcons] at htype
    obtain ⟨⟨b, hb, hname, htypes, hparams, hlists, hbare⟩, k, hk, hsees⟩ := method_rest htype hid hparameters hbody hws rest
    obtain ⟨a, ha, hheads, hnext⟩ := member_takes hm.attributes (modifiers_plain hkeywords) hvs hk hsees hb
      (by simp only [memberCost]; omega)
    refine ⟨⟨_, ha, ?_, Tree.enclosed_of_bare (hheads.isBare hbare)⟩, hnext⟩
    rw [ha.membersOf hl]
    have hlisted : (Tree.node .method (a ++ b)).attributeLists = (m.attributes.getD []).map fun a => [a.inSource] := by
      rw [Tree.attributeLists_node, List.flatMap_append, hheads.lists, hlists, List.append_nil]
    have hlist : (Tree.node .method (a ++ b)).parameters = parametersOf ps := by
      rw [← hparams, Tree.parameters, Tree.parameters, hheads.childrenOf .method (by decide)]
    simp [Tree.memberNode, Tree.kind?, hheads.childText, hname, htypes, hlisted, hlist, methodIn, hcons, hn, hty, hps,
      Piece.shown]

end Typewright.Source
