import Typewright.Proofs.MemberTrees
import Typewright.Proofs.Nesting

/-!
The trees of types and of files. Tokens that are the lexemes of a plain type are matched as one member of the body around
it, and among the types of its tree it comes first, with its attributes, its bases and its members; those nested in it
follow, none of them in a namespace (`type_member`). A file is its imports and one namespace, so of its types exactly one
stands in a namespace (`file_types`).

The rules are followed as in `MemberTrees`: which alternative is taken is foreseen from the first tokens (`type_foreseen`,
`using_foreseen`, `namespace_foreseen`), and what the chosen rule takes is put together from what its parts take. A base
list ends in front of a brace (`bases_take`, `bodyEnd_foreseen`), members follow each other up to the closing brace
(`members_take`), and a dotted name is one name however many parts it has (`dotted_takes`, `dotted_text`).

A type in a type is a member of it, so the steps that a member needs must not grow with the depth. They do not, because each
type spends the stride of its own keyword (`Takes.seq_token`), and the bound on a member stays what it is (`memberCost`).

What is listed is said for any surroundings (`Tree.Declares`): a type has for a parent whatever is around it, and what is
nested in it has the type. In a file that is the namespace, which its imports do not change, since they are no scopes.
-/

namespace Typewright.Source

open Syntax Grammar

/-! ## Children of other kinds -/

theorem Tree.own_none {β : Type} {k : Kind} {ts : List Tree} (h : ∀ t ∈ ts, t.kind? ≠ some k) (view : Tree → β) :
    ts.flatMap (Tree.own k view) = [] := by
  rw [List.flatMap_eq_nil_iff]
  intro t ht
  simp [Tree.own, h t ht]

theorem Heads.own_none {a : List Tree} {as : List Attribute} (h : Heads a as) {β : Type} {k : Kind} (hk : k ≠ .attributes)
    (view : Tree → β) : a.flatMap (Tree.own k view) = [] := by
  refine Tree.own_none ?_ view
  intro t ht
  rcases h.kinds t ht with e | e
  · simp [e]
  · simpa [e] using hk.symm

/-! ## Bases -/

def Tree.ownBases : Tree → List (List Piece) := Tree.own .bases fun b => (b.children.tail.flatMap Tree.basesOf).map some

theorem Tree.bases?_node (kind : Kind) (ts : List Tree) : (Tree.node kind ts).bases? = (ts.flatMap Tree.ownBases).head? := by
  rw [Tree.bases?, Tree.ownBases, ← Tree.map_childrenOf kind, List.head?_map]

def basePart : Rule := .first [typeParameterList, .ref .parameterList, baseList]

def baseEntry : Rule := .seq [.node .base (.ref .type), .opt (.node .base (.ref .argumentList))]

theorem base_foreseen :
    (∀ s ∈ [",", "\x7b"], foresee baseEntry [.identifier, .exactly .mark s] = .matched (.node .base (.leaf 0 .nil) .nil) 1) ∧
      foresee typeParameterList [.exactly .mark ":"] = .mismatch ∧
      foresee (.ref .parameterList) [.exactly .mark ":"] = .mismatch ∧
      foresee basePart [.exactly .mark "\x7b"] = .mismatch := by
  decide +kernel

def basesIn (d : Declaration) : Option (List Piece) := d.implementations.map fun i => (parts ',' i).map some

theorem bases_take {d : Declaration} (himpl : ∀ i, d.implementations = some i → ∀ p ∈ parts ',' i, isIdentifier p = true)
    {us rest : List Token} (h : Lexed d.baseLexemes us) (hr : Sees [.exactly .mark "\x7b"] rest) :
    ∃ a, Takes (sight + 15) (.many basePart) (us ++ rest) a rest ∧ a.flatMap Tree.ownBases = (basesIn d).toList ∧
      (∀ t ∈ a, t.kind? = some .bases) ∧ treesBare a = true := by
  have hend : Refuses sight basePart rest := refuses_of_foresee base_foreseen.2.2.2 hr
  unfold Declaration.baseLexemes at h
  unfold basesIn
  cases hi : d.implementations with
  | none =>
    rw [hi] at h
    obtain rfl := h.nil
    exact ⟨[], .many_nil hend (by omega), rfl, by simp, rfl⟩
  | some i =>
    rw [hi] at h
    obtain ⟨t₀, us, rfl, h₀, hus⟩ := Lexed.cons h
    have hcomma : ∀ t, (Lexeme.mark ",").Is t → Tree.basesOf (.leaf t) = [] ∧ (Tree.leaf t).isBare = true := by
      intro t ht
      refine ⟨?_, rfl⟩
      rw [Tree.basesOf, ht.notes (u := .leaf t) rfl]
      rfl
    have item : ∀ p ∈ parts ',' i, ∀ us rest, ∀ s ∈ [",", "\x7b"], Lexed [Lexeme.word p] us → Sees [.exactly .mark s] rest →
        ∃ a, Takes sight baseEntry (us ++ rest) a rest ∧ a.flatMap Tree.basesOf = [p] ∧ ∀ t ∈ a, t.isBare = true := by
      intro p hp us rest s hs hus hrest
      obtain ⟨t, us, rfl, ht, hus⟩ := hus.cons
      obtain rfl := hus.nil
      refine ⟨[.node .base [.leaf t]], takes_of_foresee (base_foreseen.1 s hs)
        ⟨ht.fits (isIdentifier.fits (himpl i hi p hp)), hrest⟩, ?_, ?_⟩
      · have hnotes : (Tree.node .base [.leaf t]).notes = [] := ht.notes rfl
        simp [Tree.basesOf, hnotes, Tree.kind?, ht.text, Lexeme.word]
      · simp [Tree.isBare, treesBare, typeWord?]
    obtain ⟨a, ha, hf, hP⟩ := Takes.commaItems (e := sight + 5) (by decide) hcomma (parts_ne_nil ',' i) item hus hr
      (Nat.le_refl _) (by decide)
    have hlist : Takes (sight + 8) baseList (t₀ :: (us ++ rest)) [.node .bases (.leaf t₀ :: a)] rest :=
      .node (.seq_token (e := sight + 7) (h₀.accepts rfl) (ha.one (e := sight + 6) (by omega) (by decide)) (by omega)
      (by decide)) (by omega)
    have hcolon : Sees [.exactly .mark ":"] (t₀ :: (us ++ rest)) := ⟨h₀.exactly, trivial⟩
    have hpart : Takes (sight + 12) basePart (t₀ :: (us ++ rest)) [.node .bases (.leaf t₀ :: a)] rest :=
      .first_later (refuses_of_foresee base_foreseen.2.1 hcolon)
        (.first_later (e := sight + 11) (refuses_of_foresee base_foreseen.2.2.1 hcolon)
        (.first_here (e := sight + 10) hlist (by omega))
          (by omega) (by omega)) (by omega) (by omega)
    refine ⟨[.node .bases (.leaf t₀ :: a)], ?_, ?_, ?_, ?_⟩
    · exact .many_cons hpart (by simp only [List.length_cons, List.length_append]; omega) (.many_nil hend (by omega)) (by omega)
    · have hjoin : (parts ',' i).flatMap (fun p => [p]) = parts ',' i := by simp
      simp [Tree.ownBases, Tree.own, Tree.kind?, Tree.children, hf, hjoin]
    · simp [Tree.kind?]
    · simp [treesBare, Tree.isBare, typeWord?, treesBare_iff.mpr hP]

/-! ## Bodies -/

theorem bodyEnd_foreseen :
    (∀ k ∈ [Look.next, .ending], foresee (.token (.tight ";")) [k] = .mismatch) ∧
      foresee (.ref .member) [.exactly .mark "\x7d"] = .mismatch := by
  decide +kernel

/-- A body around members, whatever is known of their trees. -/
theorem declarationBody_takes {Q : List Tree → Prop} {ls : List Lexeme}
    (members : ∀ us rest, Lexed ls us → Sees [.next] rest → Refuses sight (.ref .member) rest →
      ∃ a, Takes (memberCost + 1) (.many (.ref .member)) (us ++ rest) a rest ∧ Q a)
    {us rest : List Token} (h : Lexed (.mark "\x7b" :: ls ++ [.mark "\x7d"]) us) {k : Look} (hk : k ∈ [Look.next, .ending])
    (hr : Sees [k] rest) :
    ∃ t₀ a t₁, Takes (memberCost + 6) declarationBody (us ++ rest) [.node .body (.leaf t₀ :: (a ++ [.leaf t₁]))] rest ∧ Q a ∧
      (Lexeme.mark "\x7d").Is t₁ := by
  obtain ⟨t₀, us, rfl, h₀, hus⟩ := Lexed.cons h
  obtain ⟨vs, ws, rfl, hvs, hws⟩ := Lexed.split hus
  obtain ⟨t₁, ws, rfl, h₁, hws⟩ := hws.cons
  obtain rfl := hws.nil
  have hnext : Sees [.next] (t₁ :: rest) := ⟨.inr ⟨h₁.kind, .inl h₁.text⟩, trivial⟩
  obtain ⟨a, ha, hQ⟩ := members vs (t₁ :: rest) hvs hnext (refuses_of_foresee bodyEnd_foreseen.2 ⟨h₁.exactly, trivial⟩)
  refine ⟨t₀, a, t₁, ?_, hQ, h₁⟩
  have hclose : Takes (memberCost + 2) (.seq [.many (.ref .member), .mark "\x7d"]) (vs ++ t₁ :: rest) (a ++ [.leaf t₁]) rest :=
    .seq_cons ha (.seq_token (e := 2) (h₁.accepts rfl) .seq_nil (by decide) (by omega)) (by omega) (by decide)
  have hbraces : Takes (memberCost + 3) (Rule.inBraces (.many (.ref .member))) (t₀ :: (vs ++ t₁ :: rest))
      (.leaf t₀ :: (a ++ [.leaf t₁])) rest := .seq_token (h₀.accepts rfl) hclose (by omega) (by omega)
  have hopt : Takes (memberCost + 1) (.opt (.token (.tight ";"))) rest [] rest :=
    .opt_none (refuses_of_foresee (bodyEnd_foreseen.1 k hk) hr) (by simp only [memberCost]; omega)
    (by simp only [memberCost]; omega)
  rw [List.cons_append, List.append_assoc]
  exact .seq_cons (.node hbraces (Nat.lt_succ_self _)) (hopt.one (e := memberCost + 2) (by omega) (by omega))
    (by omega) (by omega)

/-! ## Types -/

def membersIn (d : Declaration) : List Node :=
  d.nestedIn.flatMap (fun c => [.member (some c.name.shown) (some "other")])
    ++ ((d.constants.getD []).flatMap (fun _ => [.member (some "") (some "other")])
    ++ ((d.properties.getD []).flatMap (fun p => [.propertyNode (some p.name.shown) (some p.type.shown) (some "property")])
    ++ (d.methods.getD []).flatMap fun m => [methodIn m]))

def typeIn (scope : Node) (d : Declaration) : TypeNode where
  identifier := some d.name.shown
  kind := some d.kindWord
  attributeLists := some ((d.attributes.getD []).map fun a => [a.inSource])
  baseList := basesIn d
  members := some (membersIn d)
  parent := some scope

/-- The tree is the declaration, and nothing in it stands in a namespace of its own. -/
def Tree.Declares (d : Declaration) (t : Tree) : Prop :=
  ∃ inner : List TypeNode, (∀ n ∈ inner, n.namespace? = none) ∧
    ∀ s scope, s.around = some scope → t.types s = typeIn scope d :: inner

theorem Tree.Declares.enclosed {d : Declaration} {t : Tree} (h : t.Declares d) : t.Enclosed := by
  obtain ⟨inner, hinner, htypes⟩ := h
  intro s scope hs hscope n hn
  rw [htypes s scope hs] at hn
  rcases List.mem_cons.mp hn with rfl | hn
  · simp [TypeNode.namespace?, typeIn, hscope]
  · exact hinner n hn

/-- A member as one of a repetition of them. -/
theorem MemberAs.item {us rest : List Token} {n : Node} {ls : List Lexeme} (h : MemberAs us rest n) (hl : Lexed ls us)
    (hne : ls ≠ []) :
    (∃ a, Takes memberCost (.ref .member) (us ++ rest) a rest ∧ a.flatMap Tree.membersOf = [n] ∧ ∀ t ∈ a, t.Enclosed) ∧
      Sees [.next] (us ++ rest) ∧ us ≠ [] := by
  obtain ⟨⟨t, ht, hmembers, henclosed⟩, hnext⟩ := h
  refine ⟨⟨[t], ht, by simpa using hmembers, by simpa using henclosed⟩, hnext, ?_⟩
  rintro rfl
  cases hl
  exact hne rfl

/-- The members of a type, given those that are types. -/
theorem members_take {d : Declaration} (hd : d.PlainType isIdentifier)
    (nested : ∀ c ∈ d.nestedIn, ∀ us rest, Lexed c.lexemes us → Sees [.next] rest →
      MemberAs us rest (.member (some c.name.shown) (some "other")))
    {us rest : List Token} (h : Lexed (d.nestedIn.flatMap Declaration.lexemes ++ d.memberLexemes) us) (hr : Sees [.next] rest)
    (hend : Refuses sight (.ref .member) rest) :
    ∃ a, Takes (memberCost + 1) (.many (.ref .member)) (us ++ rest) a rest ∧ a.flatMap Tree.membersOf = membersIn d ∧
      ∀ t ∈ a, t.Enclosed := by
  rw [Declaration.memberLexemes, List.append_assoc] at h
  obtain ⟨us₁, ws, rfl, h₁, hws⟩ := Lexed.split h
  obtain ⟨us₂, ws, rfl, h₂, hws⟩ := Lexed.split hws
  obtain ⟨us₃, us₄, rfl, h₃, h₄⟩ := Lexed.split hws
  -- from the last kind of member to the first, each before the repetition of the later ones
  have done : Takes (memberCost + 1) (.many (.ref .member)) rest [] rest := .many_nil hend (by simp only [memberCost]; omega)
  obtain ⟨⟨a₄, ha₄, hf₄, hP₄⟩, hr₄⟩ := Takes.items (A := Sees [.next]) (g := fun m => [methodIn m])
    (fun m hm us rest hl _ => (method_member (hd.methods m hm) hl rest).item hl (by simp [Method.lexemes])) h₄ hr done
    (Nat.lt_succ_self _)
  obtain ⟨⟨a₃, ha₃, hf₃, hP₃⟩, hr₃⟩ := Takes.items (A := Sees [.next])
    (g := fun p => [Node.propertyNode (some p.name.shown) (some p.type.shown) (some "property")])
    (fun p hp us rest hl hr => (property_member (hd.properties p hp) hl hr).item hl (by simp [Property.lexemes])) h₃ hr₄ ha₄
    (Nat.lt_succ_self _)
  obtain ⟨⟨a₂, ha₂, hf₂, hP₂⟩, hr₂⟩ := Takes.items (A := Sees [.next]) (g := fun _ => [Node.member (some "") (some "other")])
    (fun c hc us rest hl _ => (constant_member (hd.constants c hc) hl rest).item hl (by simp [Constant.lexemes])) h₂ hr₃ ha₃
    (Nat.lt_succ_self _)
  obtain ⟨⟨a₁, ha₁, hf₁, hP₁⟩, -⟩ := Takes.items (A := Sees [.next])
    (g := fun c => [Node.member (some c.name.shown) (some "other")])
    (fun c hc us rest hl hr => (nested c hc us rest hl hr).item hl
      (by rw [Declaration.lexemes_eq]; simp [Declaration.lexemesAround]))
    h₁ hr₂ ha₂ (Nat.lt_succ_self _)
  refine ⟨a₁ ++ (a₂ ++ (a₃ ++ (a₄ ++ []))), by simpa only [List.append_assoc] using ha₁, ?_, ?_⟩
  · simp only [List.flatMap_append, hf₁, hf₂, hf₃, hf₄, membersIn, List.append_nil]
  · intro t ht
    simp only [List.mem_append, List.not_mem_nil, or_false] at ht
    rcases ht with ht | ht | ht | ht
    · exact hP₁ t ht
    · exact hP₂ t ht
    · exact hP₃ t ht
    · exact hP₄ t ht

theorem treeTypes_enclosed {ts : List Tree} (h : ∀ t ∈ ts, t.Enclosed) {scope : Node} (hscope : scope.namespace? = none)
    (s : Surroundings) (hs : s.around = some scope) : ∀ n ∈ treeTypes s ts, n.namespace? = none := by
  induction ts generalizing s with
  | nil =>
    intro n hn
    rw [treeTypes] at hn
    cases hn
  | cons t ts ih =>
    intro n hn
    rw [treeTypes, List.mem_append] at hn
    rcases hn with hn | hn
    · exact h t (by simp) s scope hs hscope n hn
    · exact ih (fun u hu => h u (by simp [hu])) (s.past t) hs n hn

def kindOf (d : Declaration) : Kind := if d.isInterface then .interfaceType else .classType

theorem kindOf_cases (d : Declaration) :
    kindOf d = .classType ∧ d.kindWord = "class" ∨ kindOf d = .interfaceType ∧ d.kindWord = "interface" := by
  unfold kindOf Declaration.kindWord
  cases d.isInterface
  · exact .inl ⟨rfl, rfl⟩
  · exact .inr ⟨rfl, rfl⟩

theorem type_foreseen : ∀ p ∈ memberKinds.take 2, foresee p.2 [.exactly .word "interface"] = .mismatch := by decide +kernel

/-- A type from its keyword on. -/
theorem type_rest {d : Declaration} (hd : d.PlainType isIdentifier)
    (nested : ∀ c ∈ d.nestedIn, ∀ us rest, Lexed c.lexemes us → Sees [.next] rest →
      MemberAs us rest (.member (some c.name.shown) (some "other")))
    {us rest : List Token}
    (h : Lexed (.word d.kindWord :: .word d.name.shown :: (d.baseLexemes ++
      (.mark "\x7b" :: (d.nestedIn.flatMap Declaration.lexemes ++ d.memberLexemes) ++ [.mark "\x7d"]))) us)
    (hr : Sees [.next] rest) :
    (∃ t₀ t₁ bs body, Takes (memberCost - 10) (.headed (.seq []) memberKinds) (us ++ rest)
        [.node (kindOf d) (.leaf t₀ :: .node .name [.leaf t₁] :: (bs ++ [.node .body body]))] rest ∧ t₁.text = d.name.shown ∧
      bs.flatMap Tree.ownBases = (basesIn d).toList ∧ (∀ t ∈ bs, t.kind? = some .bases) ∧ treesBare bs = true ∧
      (Tree.node .body body).bodyMembers = membersIn d ∧ ∀ t ∈ body, t.Enclosed) ∧
      ∃ k ∈ headEnds, Sees [k] (us ++ rest) := by
  obtain ⟨t₀, us, rfl, h₀, hus⟩ := Lexed.cons h
  obtain ⟨t₁, us, rfl, h₁, hus⟩ := Lexed.cons hus
  obtain ⟨vs, ws, rfl, hvs, hws⟩ := Lexed.split hus
  obtain ⟨n, hn, hid⟩ := hd.name
  have hopen : Sees [.exactly .mark "\x7b"] (ws ++ rest) := by
    obtain ⟨t, ws, rfl, ht, -⟩ := Lexed.cons hws
    exact ⟨ht.exactly, trivial⟩
  obtain ⟨t₂, a, t₃, hbody, ⟨hmembers, henclosed⟩, h₃⟩ := declarationBody_takes
    (Q := fun a => a.flatMap Tree.membersOf = membersIn d ∧ ∀ t ∈ a, t.Enclosed)
    (fun us rest hl hnext hend => members_take hd nested hl hnext hend) hws (k := .next) (by simp) hr
  obtain ⟨bs, hbs, hbases, hkinds, hbare⟩ := bases_take hd.implementations hvs hopen
  have hname : Pattern.name.accepts t₁ = true := Look.accepts_of_look (h₁.fits (by rw [hn]; exact isIdentifier.fits hid)) rfl
  have hclauses : Takes (sight + 1) (.many constraintClause) (ws ++ rest) [] (ws ++ rest) :=
    .many_nil (refuses_of_foresee (body_foreseen.2.2 "\x7b" (by simp)).1 hopen) (by omega)
  have htail : Takes (memberCost + 9) (.seq [.many constraintClause, .first [declarationBody, semicolon]]) (ws ++ rest)
      ([] ++ [.node .body (.leaf t₂ :: (a ++ [.leaf t₃]))]) rest :=
    .seq_cons hclauses (.one (e := memberCost + 8) (.first_here (e := memberCost + 7) hbody (by omega)) (by omega) (by omega))
      (by simp only [memberCost]; omega) (by omega)
  have hrest : Takes (memberCost + 11) (typeRest baseList) (t₁ :: (vs ++ (ws ++ rest)))
      ([.node .name [.leaf t₁]] ++ (bs ++ [.node .body (.leaf t₂ :: (a ++ [.leaf t₃]))])) rest :=
    .seq_cons (.node (e := 2) (.token hname) (by omega))
      (.seq_cons (e := memberCost + 10) hbs htail (by simp only [memberCost]; omega) (by omega)) (by omega) (by omega)
  have hkind : ∀ {w : String}, (Pattern.word w).accepts t₀ = true →
      Takes (memberCost - 20) (.seq [.word w, typeRest baseList]) (t₀ :: (t₁ :: (vs ++ (ws ++ rest))))
        (.leaf t₀ :: ([.node .name [.leaf t₁]] ++ (bs ++ [.node .body (.leaf t₂ :: (a ++ [.leaf t₃]))]))) rest := by
    intro w hacc
    -- the stride of the keyword pays for the body
    exact .seq_token hacc (hrest.one (e := memberCost + 12) (by omega) (by omega)) (by decide) (by decide)
  refine ⟨⟨t₀, t₁, bs, .leaf t₂ :: (a ++ [.leaf t₃]), ?_, h₁.text, hbases, hkinds, hbare, ?_, ?_⟩, ?_⟩
  · rw [List.cons_append, List.cons_append, List.append_assoc]
    rcases kindOf_cases d with ⟨hk, hw⟩ | ⟨hk, hw⟩
    · rw [hw] at h₀
      rw [hk]
      exact .headed (e := memberCost - 10) (c := 1) .seq_nil (List.take_append_drop 0 memberKinds).symm (by simp)
        (hkind (h₀.accepts rfl)) (by decide) (by decide)
    · rw [hw] at h₀
      rw [hk]
      have hword : Sees [.exactly .word "interface"] (t₀ :: t₁ :: (vs ++ (ws ++ rest))) := ⟨h₀.exactly, trivial⟩
      exact .headed (e := memberCost - 10) (c := 1) .seq_nil (List.take_append_drop 2 memberKinds).symm
        (fun p hp => (refuses_of_foresee (type_foreseen p hp) hword).mono (by decide))
        (hkind (h₀.accepts rfl)) (by decide) (by decide)
  · have hlast : Tree.membersOf (.leaf t₃) = [] := by
      rw [Tree.membersOf, Tree.noteMembers, h₃.notes (u := .leaf t₃) rfl]
      rfl
    simp [Tree.bodyMembers, Tree.children, hmembers, hlast]
  · intro t ht
    simp only [List.mem_cons, List.mem_append, List.not_mem_nil, or_false] at ht
    rcases ht with rfl | ht | rfl
    · exact Tree.enclosed_of_bare rfl
    · exact henclosed t ht
    · exact Tree.enclosed_of_bare rfl
  · rcases kindOf_cases d with ⟨-, hw⟩ | ⟨-, hw⟩
    · exact ⟨.exactly .word "class", by simp [headEnds], hw ▸ h₀.exactly, trivial⟩
    · exact ⟨.exactly .word "interface", by simp [headEnds], hw ▸ h₀.exactly, trivial⟩

/-- What the tree of a type shows, once its parts are known. -/
theorem Tree.declares {d : Declaration} {a bs body : List Tree} {t₁ : Token} (t₀ : Token) (ha : Heads a (d.attributes.getD []))
    (hname : t₁.text = d.name.shown) (hbases : bs.flatMap Tree.ownBases = (basesIn d).toList)
    (hkinds : ∀ t ∈ bs, t.kind? = some .bases) (hbare : treesBare bs = true)
    (hmembers : (Tree.node .body body).bodyMembers = membersIn d) (hbody : ∀ t ∈ body, t.Enclosed) :
    (Tree.node (kindOf d) (a ++ .leaf t₀ :: .node .name [.leaf t₁] :: (bs ++ [.node .body body]))).Declares d := by
  have hn : (Tree.node (kindOf d) (a ++ .leaf t₀ :: .node .name [.leaf t₁] :: (bs ++ [.node .body body]))).childText .name =
      d.name.shown := by
    rw [ha.childText _ (by decide)]
    simp [hname]
  have hlists : (Tree.node (kindOf d) (a ++ .leaf t₀ :: .node .name [.leaf t₁] :: (bs ++ [.node .body body]))).attributeLists =
      (d.attributes.getD []).map fun a => [a.inSource] := by
    have hnone : bs.flatMap Tree.ownList = [] := Tree.own_none (fun t ht => by simp [hkinds t ht]) _
    rw [Tree.attributeLists_node, List.flatMap_append, ha.lists, List.flatMap_cons, List.flatMap_cons, List.flatMap_append, hnone]
    exact List.append_nil _
  have hb : (Tree.node (kindOf d) (a ++ .leaf t₀ :: .node .name [.leaf t₁] :: (bs ++ [.node .body body]))).bases? =
    basesIn d := by
    have hnone : a.flatMap Tree.ownBases = [] := ha.own_none (by decide) _
    rw [Tree.bases?_node, List.flatMap_append, hnone, List.flatMap_cons, List.flatMap_cons, List.flatMap_append, hbases]
    cases basesIn d <;> rfl
  have hm : (Tree.node (kindOf d) (a ++ .leaf t₀ :: .node .name [.leaf t₁] :: (bs ++ [.node .body body]))).members =
    membersIn d := by
    have hnone : bs.flatMap (Tree.own .body Tree.bodyMembers) = [] := Tree.own_none (fun t ht => by simp [hkinds t ht]) _
    rw [Tree.members, List.flatMap_def, Tree.map_childrenOf, List.flatMap_append, ha.own_none (by decide)]
    simp [hnone, Tree.own, Tree.kind?, hmembers]
  have hscope : (Tree.node (kindOf d) (a ++ .leaf t₀ :: .node .name [.leaf t₁] :: (bs ++ [.node .body body]))).scope? =
      some (.scope (some d.name.shown) (some d.kindWord)) := by
    rcases kindOf_cases d with ⟨hk, hw⟩ | ⟨hk, hw⟩
    · rw [hk] at hn ⊢
      rw [Tree.scope?, hn, hw]
      · rfl
      · nofun
      · nofun
    · rw [hk] at hn ⊢
      rw [Tree.scope?, hn, hw]
      · rfl
      · nofun
      · nofun
  have hfront : ∀ t ∈ a ++ .leaf t₀ :: .node .name [.leaf t₁] :: bs, t.isBare = true := by
    intro t ht
    simp only [List.mem_append, List.mem_cons] at ht
    rcases ht with ht | rfl | rfl | ht
    · exact ha.bare t ht
    · rfl
    · rfl
    · exact treesBare_iff.mp hbare t ht
  -- The types inside are those of the body, which stand in this type.
  refine ⟨treeTypes { around := some (.scope (some d.name.shown) (some d.kindWord)) } body, ?_, ?_⟩
  · refine treeTypes_enclosed hbody ?_ _ rfl
    rcases kindOf_cases d with ⟨-, hw⟩ | ⟨-, hw⟩ <;> rw [hw] <;> rfl
  · intro s scope hs
    have hinside : treeTypes (s.inside (.node (kindOf d) (a ++ .leaf t₀ :: .node .name [.leaf t₁] :: (bs ++ [.node .body body]))))
        (a ++ .leaf t₀ :: .node .name [.leaf t₁] :: (bs ++ [.node .body body])) =
        treeTypes { around := some (.scope (some d.name.shown) (some d.kindWord)) } body := by
      obtain ⟨before, hbefore⟩ := treeTypes_after_bare hfront (s.inside (.node (kindOf d)
        (a ++ .leaf t₀ :: .node .name [.leaf t₁] :: (bs ++ [.node .body body])))) [.node .body body]
      rw [List.append_assoc, List.cons_append, List.cons_append] at hbefore
      rw [hbefore, treeTypes, treeTypes, List.append_nil, Tree.types_body, Surroundings.inside, hscope]
    have hparent : s.parent = scope := by rw [Surroundings.parent, hs]; rfl
    rw [Tree.types, Tree.typeNode?, hn, hlists, hb, hm, hinside, hparent, typeIn]
    rcases kindOf_cases d with ⟨hk, hw⟩ | ⟨hk, hw⟩ <;> rw [hk, hw] <;> rfl

/-- A plain type is one member of the body around it. -/
theorem type_member (d : Declaration) : d.Everywhere (Declaration.PlainType isIdentifier) → ∀ us rest, Lexed d.lexemes us →
    Sees [.next] rest → (∃ t, Takes memberCost (.ref .member) (us ++ rest) [t] rest ∧
      t.membersOf = [.member (some d.name.shown) (some "other")] ∧ t.Declares d) ∧ Sees [.next] (us ++ rest) := by
  induction d using Declaration.nested_induction with
  | h d ih =>
    intro hplain us rest h hr
    obtain ⟨hd, hnested⟩ := Declaration.everywhere_iff.mp hplain
    have nested : ∀ c ∈ d.nestedIn, ∀ us rest, Lexed c.lexemes us → Sees [.next] rest →
        MemberAs us rest (.member (some c.name.shown) (some "other")) := by
      intro c hc us rest hl hr
      obtain ⟨⟨t, ht, hmember, hdeclares⟩, hnext⟩ := ih c hc (hnested c hc) us rest hl hr
      exact ⟨⟨t, ht, hmember, hdeclares.enclosed⟩, hnext⟩
    obtain ⟨ks, hks, hkeywords⟩ := hd.keywords
    obtain ⟨as, has, hattributes⟩ := hd.attributes
    have hl := h
    have hsplit : d.lexemes = ((d.attributes.getD []).flatMap Attribute.lexemes ++ (ks.map Piece.shown).map Lexeme.word) ++
        (.word d.kindWord :: .word d.name.shown :: (d.baseLexemes ++
          (.mark "\x7b" :: (d.nestedIn.flatMap Declaration.lexemes ++ d.memberLexemes) ++ [.mark "\x7d"]))) := by
      rw [Declaration.lexemes_eq, Declaration.lexemesAround, hks]
      simp
    rw [hsplit] at h
    obtain ⟨vs, ws, rfl, hvs, hws⟩ := h.split
    obtain ⟨⟨t₀, t₁, bs, body, hrest, hname, hbases, hkinds, hbare, hmembers, hbody⟩, k, hk, hsees⟩ := type_rest hd nested hws hr
    obtain ⟨a, ha, hheads, hnext⟩ := member_takes (by rw [has]; exact hattributes) (modifiers_plain hkeywords) hvs hk hsees hrest
      (by decide)
    refine ⟨⟨_, ha, ?_, Tree.declares t₀ hheads hname hbases hkinds hbare hmembers hbody⟩, hnext⟩
    rw [ha.membersOf hl]
    rcases kindOf_cases d with ⟨hk, -⟩ | ⟨hk, -⟩ <;> simp [Tree.memberNode, Tree.kind?, hk, hheads.childText, hname]

/-! ## Names with points -/

theorem isName.fits {s : String} (h : isName s = true) : Look.name.Fits .word s := by
  rw [isName, Bool.and_eq_true, Bool.not_eq_true'] at h
  exact ⟨rfl, h.2⟩

def nameEnds : List String := [";", "\x7b"]

theorem name_foreseen :
    (∀ s ∈ "." :: nameEnds, foresee (.seq [aliasQualifier, simpleName]) [.name, .exactly .mark s] = .matched (.leaf 0 .nil) 1 ∧
      foresee (.seq [.mark ".", simpleName]) [.exactly .mark ".", .name, .exactly .mark s] =
      .matched (.leaf 0 (.leaf 1 .nil)) 2) ∧
      ∀ s ∈ nameEnds, foresee (.seq [.mark ".", simpleName]) [.exactly .mark s] = .mismatch := by
  decide +kernel

def NameAhead (rest : List Token) : Prop := ∃ s ∈ "." :: nameEnds, Sees [.exactly .mark s] rest

theorem dotted_takes {ps : List String} (hne : ps ≠ []) (hps : ∀ p ∈ ps, isName p = true) {us rest : List Token}
    (h : Lexed (Lexeme.dotted ps) us) {s : String} (hs : s ∈ nameEnds) (hr : Sees [.exactly .mark s] rest) :
    (∃ a, Takes (sight + 5) (.ref .qualifiedName) (us ++ rest) a rest ∧ ∀ t ∈ a, ∃ v, t = Tree.leaf v) ∧
      ∃ s ∈ "." :: nameEnds, Sees [.name, .exactly .mark s] (us ++ rest) := by
  obtain ⟨p, ps, rfl⟩ := List.exists_cons_of_ne_nil hne
  obtain ⟨t, us, rfl, ht, hus⟩ := Lexed.cons h
  have item : ∀ q ∈ ps, ∀ us rest, Lexed [⟨.mark, ".", true⟩, ⟨.word, q, true⟩] us → NameAhead rest →
      (∃ a, Takes sight (.seq [.mark ".", simpleName]) (us ++ rest) a rest ∧ a.flatMap (fun _ => ([] : List Unit)) = [] ∧
        ∀ t ∈ a, ∃ v, t = Tree.leaf v) ∧ NameAhead (us ++ rest) ∧ us ≠ [] := by
    rintro q hq us rest hus ⟨s, hs, hsees⟩
    obtain ⟨t₀, us, rfl, h₀, hus⟩ := hus.cons
    obtain ⟨t₁, us, rfl, h₁, hus⟩ := hus.cons
    obtain rfl := hus.nil
    refine ⟨⟨[.leaf t₀, .leaf t₁], takes_of_foresee (name_foreseen.1 s hs).2 ⟨h₀.exactly,
      h₁.fits (isName.fits (hps q (by simp [hq]))), hsees⟩,
      rfl, by simp⟩, ⟨".", by simp, h₀.exactly, trivial⟩, by simp⟩
  have hend : Refuses sight (.seq [.mark ".", simpleName]) rest := refuses_of_foresee (name_foreseen.2 s hs) hr
  obtain ⟨⟨a, ha, -, hleaves⟩, s, hs, hsees⟩ :=
    Takes.items (e := sight + 1) (g := fun _ => []) item hus ⟨s, List.mem_cons_of_mem _ hs, hr⟩
    (.many_nil hend (by omega)) (by omega)
  rw [List.append_nil] at ha
  have hlooks : Sees [.name, .exactly .mark s] (t :: (us ++ rest)) := ⟨ht.fits (isName.fits (hps p (by simp))), hsees⟩
  have hfirst : Takes sight (.seq [aliasQualifier, simpleName]) (t :: (us ++ rest)) [.leaf t] (us ++ rest) :=
    takes_of_foresee (name_foreseen.1 s hs).1 hlooks
  have hname : Takes (sight + 4) qualifiedName (t :: (us ++ rest)) ([.leaf t] ++ a) rest :=
    .seq_append hfirst (ha.one (e := sight + 2) (by omega) (by omega)) (by omega)
    (by simp only [List.length_cons, List.length_nil]; omega)
  refine ⟨⟨.leaf t :: a, .ref hname (by omega), ?_⟩, s, hs, hlooks⟩
  intro u hu
  rcases List.mem_cons.mp hu with rfl | hu
  · exact ⟨t, rfl⟩
  · exact hleaves u hu

theorem dotted_text {ps : List String} {us : List Token} (h : Lexed (Lexeme.dotted ps) us) :
    (spanText us).toList = ['.'].intercalate (ps.map String.toList) := by
  cases ps with
  | nil =>
    obtain rfl := Lexed.nil h
    rfl
  | cons p ps =>
    obtain ⟨t, us, rfl, ht, hus⟩ := Lexed.cons h
    have hrest : ∀ (qs : List String) us, Lexed (qs.flatMap fun q => [⟨.mark, ".", true⟩, ⟨.word, q, true⟩]) us →
        (String.join (us.map Token.fullText)).toList = (qs.map String.toList).flatMap ('.' :: ·) := by
      intro qs
      induction qs with
      | nil =>
        intro us hus
        obtain rfl := Lexed.nil hus
        rfl
      | cons q qs ih =>
        intro us hus
        obtain ⟨t₀, us, rfl, h₀, hus⟩ := Lexed.cons hus
        obtain ⟨t₁, us, rfl, h₁, hus⟩ := Lexed.cons hus
        have hfull : ∀ {l : Lexeme} {t : Token}, l.Is t → l.glued = true → t.fullText = l.text := by
          intro l t ht hg
          rw [Token.fullText, ht.glued hg, ht.text]
          simp
        simp [hfull h₀ rfl, hfull h₁ rfl, ih us hus, String.join_cons]
    rw [spanText, String.toList_append, hrest ps us hus, ht.text, List.map_cons, intercalate_cons]
    rfl

/-! ## Files -/

def usingAlias : Rule := .seq [.opt (.word "unsafe"), .node .name .name, .mark "=", .ref .type, semicolon]

theorem using_foreseen :
    foresee externAlias [.exactly .word "using"] = .mismatch ∧
      foresee (.opt (.word "global")) [.exactly .word "using"] = .matched .nil 0 ∧
      ∀ s ∈ "." :: nameEnds, foresee usingAlias [.name, .exactly .mark s] = .mismatch ∧
        foresee (.many (.words ["static", "unsafe"])) [.name, .exactly .mark s] = .matched .nil 0 := by
  decide +kernel

theorem namespace_foreseen :
    (∀ r ∈ [externAlias, usingDirective, globalAttributes], foresee r [.exactly .word "namespace"] = .mismatch) ∧
      foresee (.ref .topItem) [.ending] = .mismatch := by
  decide +kernel

def itemCost : Nat := memberCost + 20

theorem using_takes {x : Piece} (hx : x.Has fun n => ∀ p ∈ parts '.' n, isName p = true) (t₀ : Token)
    (h₀ : (Look.exactly .word "using").Fits t₀.kind t₀.text) {us : List Token}
    (h : Lexed (Lexeme.dotted (parts '.' x.shown) ++ [.mark ";"]) us) (rest : List Token) :
    ∃ t, Takes itemCost (.ref .topItem) (t₀ :: (us ++ rest)) [t] rest ∧ t.isBare = true := by
  obtain ⟨n, rfl, hn⟩ := hx
  obtain ⟨vs, ws, rfl, hvs, hws⟩ := h.split
  obtain ⟨t₁, ws, rfl, h₁, hws⟩ := hws.cons
  obtain rfl := hws.nil
  obtain ⟨⟨a, ha, hleaves⟩, s, hs, hsees⟩ := dotted_takes (parts_ne_nil '.' n) hn hvs (s := ";") (by simp [nameEnds])
    (show Sees [.exactly .mark ";"] (t₁ :: rest) from ⟨h₁.exactly, trivial⟩)
  have hword : Sees [.exactly .word "using"] (t₀ :: (vs ++ t₁ :: rest)) := ⟨h₀, trivial⟩
  have hplain : Takes (sight + 10) (.seq [.many (.words ["static", "unsafe"]), .ref .qualifiedName, semicolon]) (vs ++ t₁ :: rest)
      ([] ++ (a ++ [.leaf t₁])) rest :=
    .seq_cons (takes_of_foresee (using_foreseen.2.2 s hs).2 hsees)
      (.seq_cons (e := sight + 9) ha (.seq_token (e := 2) (h₁.accepts rfl) .seq_nil (by decide) (by decide))
      (by omega) (by decide))
      (by omega) (by omega)
  have hfirst : Takes (sight + 13) (.first [usingAlias,
    .seq [.many (.words ["static", "unsafe"]), .ref .qualifiedName, semicolon]])
      (vs ++ t₁ :: rest) (a ++ [.leaf t₁]) rest :=
    .first_later (refuses_of_foresee (using_foreseen.2.2 s hs).1 hsees)
    (.first_here (e := sight + 11) hplain (by omega)) (by omega) (by omega)
  have hdirective : Takes (sight + 20) usingDirective (t₀ :: (vs ++ t₁ :: rest))
    [.node .other ([] ++ .leaf t₀ :: (a ++ [.leaf t₁]))] rest :=
    .node (.seq_cons (e := sight + 17) (takes_of_foresee using_foreseen.2.1 hword)
      (.seq_token (e := sight + 15) (Look.accepts_of_look h₀ rfl)
      (hfirst.one (e := sight + 14) (by omega) (by decide)) (by omega) (by decide))
      (by omega) (by omega)) (by omega)
  refine ⟨.node .other (.leaf t₀ :: (a ++ [.leaf t₁])), ?_, ?_⟩
  · rw [List.append_assoc]
    exact .ref (c := sight + 23) (.first_later (refuses_of_foresee using_foreseen.1 hword)
      (.first_here (e := sight + 22) hdirective (by omega)) (by omega) (by omega)) (by decide)
  · have hbare : treesBare (a ++ [.leaf t₁]) = true := treesBare_leaves fun t ht => by
      rcases List.mem_append.mp ht with ht | ht
      · exact hleaves t ht
      · exact ⟨t₁, List.mem_singleton.mp ht⟩
    simp [Tree.isBare, treesBare, typeWord?, hbare]

def namespaceScope (n : String) : Node := .scope (some n) (some "namespace")

/-- The body of a namespace with one type in it. -/
theorem namespaceBody_takes {d : Declaration} (hd : d.Everywhere (Declaration.PlainType isIdentifier)) {us : List Token}
    (h : Lexed (.mark "\x7b" :: d.lexemes ++ [.mark "\x7d"]) us) :
    ∃ t₀ t t₁, Takes (memberCost + 6) declarationBody us [.node .body [.leaf t₀, t, .leaf t₁]] [] ∧ t.Declares d := by
  have members : ∀ us rest, Lexed d.lexemes us → Sees [.next] rest → Refuses sight (.ref .member) rest →
      ∃ a, Takes (memberCost + 1) (.many (.ref .member)) (us ++ rest) a rest ∧ ∃ t, a = [t] ∧ t.Declares d := by
    intro us rest hus hr hend
    obtain ⟨⟨t, ht, -, hdeclares⟩, -⟩ := type_member d hd us rest hus hr
    have hpos : 0 < us.length := by
      rw [List.length_pos_iff]
      rintro rfl
      rw [Declaration.lexemes_eq] at hus
      simp [Declaration.lexemesAround] at hus
    refine ⟨[t], ?_, t, rfl, hdeclares⟩
    exact .many_cons ht (by rw [List.length_append]; omega) (.many_nil hend (by decide)) (Nat.lt_succ_self _)
  have hend : Sees [.ending] [] := rfl
  obtain ⟨t₀, a, t₁, ha, ⟨t, rfl, hdeclares⟩, -⟩ := declarationBody_takes members h (by simp) hend
  rw [List.append_nil] at ha
  exact ⟨t₀, t, t₁, ha, hdeclares⟩

theorem namespace_takes {d : Declaration} (hd : d.Everywhere (Declaration.PlainType isIdentifier))
    (hscope : d.namespace.Has fun n => ∀ p ∈ parts '.' n, isName p = true) {t₀ : Token}
    (h₀ : (Look.exactly .word "namespace").Fits t₀.kind t₀.text) {us : List Token}
    (h : Lexed (Lexeme.dotted (parts '.' d.namespace.shown) ++ (.mark "\x7b" :: d.lexemes ++ [.mark "\x7d"])) us) :
    ∃ t, Takes itemCost (.ref .topItem) (t₀ :: us) [t] [] ∧ ∃ inner : List TypeNode, (∀ n ∈ inner, n.namespace? = none) ∧
      ∀ before, t.types { before } = typeIn (namespaceScope d.namespace.shown) d :: inner := by
  obtain ⟨n, hn, hparts⟩ := hscope
  rw [hn] at h ⊢
  obtain ⟨vs, ws, rfl, hvs, hws⟩ := h.split
  obtain ⟨t₁, t, t₂, hbody, inner, hinner, htypes⟩ := namespaceBody_takes hd hws
  have hopen : Sees [.exactly .mark "\x7b"] ws := by
    obtain ⟨t, ws, rfl, ht, -⟩ := Lexed.cons hws
    exact ⟨ht.exactly, trivial⟩
  obtain ⟨⟨a, ha, hleaves⟩, -⟩ := dotted_takes (parts_ne_nil '.' n) hparts hvs (s := "\x7b") (by simp [nameEnds]) hopen
  have hname : (Tree.node .name a).text = n := by
    have htokens : treeTokens a = vs := (List.append_cancel_right ha.tokens).symm
    rw [Tree.text, Tree.tokens, htokens]
    exact String.toList_inj.mp ((dotted_text hvs).trans (parts_chars '.' n))
  have hword : Sees [.exactly .word "namespace"] (t₀ :: (vs ++ ws)) := ⟨h₀, trivial⟩
  have hblock : Takes (memberCost + 12) blockNamespace (t₀ :: (vs ++ ws))
      [.node .blockNamespace (.leaf t₀ :: ([.node .name a] ++ [.node .body [.leaf t₁, t, .leaf t₂]]))] [] :=
    .node (.seq_token (e := memberCost + 11) (Look.accepts_of_look h₀ rfl)
      (.seq_cons (e := memberCost + 9) (.node (e := sight + 6) ha (by omega))
      (hbody.one (e := memberCost + 8) (by omega) (by omega))
        (by decide) (by omega)) (by decide) (by omega)) (by omega)
  refine ⟨.node .blockNamespace [.leaf t₀, .node .name a, .node .body [.leaf t₁, t, .leaf t₂]], ?_, inner, hinner, ?_⟩
  · have hlater : ∀ r ∈ [externAlias, usingDirective, globalAttributes], Refuses sight r (t₀ :: (vs ++ ws)) :=
      fun r hr => refuses_of_foresee (namespace_foreseen.1 r hr) hword
    exact .ref (c := memberCost + 19) (.first_later (hlater externAlias (by simp))
      (.first_later (e := memberCost + 18) (hlater usingDirective (by simp))
        (.first_later (e := memberCost + 16) (hlater globalAttributes (by simp))
          (.first_here (e := memberCost + 14) hblock (by omega)) (by decide) (by omega)) (by decide) (by omega))
          (by decide) (by omega))
      (by decide)
  · intro before
    have hbare : (Tree.node .name a).isBare = true := by
      simp [Tree.isBare, typeWord?, treesBare_leaves hleaves]
    have hscope : (Tree.node .blockNamespace [.leaf t₀, .node .name a, .node .body [.leaf t₁, t, .leaf t₂]]).scope? =
        some (namespaceScope n) := by
      rw [Tree.scope?]
      simp [hname, namespaceScope]
    have hmembers : treeTypes { around := some (namespaceScope n) } [.leaf t₁, t, .leaf t₂] =
      typeIn (namespaceScope n) d :: inner := by
      simp only [treeTypes, Tree.types_bare (.leaf t₁) rfl, Tree.types_bare (.leaf t₂) rfl, List.nil_append, List.append_nil]
      exact htypes _ _ rfl
    rw [Tree.types]
    simp only [treeTypes, Tree.types_bare _ hbare, Tree.types_bare (.leaf t₀) rfl, List.append_nil, List.nil_append,
      Tree.types_body]
    rw [Surroundings.past, Surroundings.past, Surroundings.inside, hscope]
    exact hmembers

/-- The tokens of a plain file are read, and one of its types stands in a namespace. -/
theorem file_types {d : Declaration} (hd : d.Plain isIdentifier) {lead : List Trivia} {ts : List Token}
    (h : Led lead d.fileLexemes ts) :
    ∃ trees inner, treesOf? ts = some trees ∧ (∀ n ∈ inner, n.namespace? = none) ∧
      treeTypes {} trees = typeIn (namespaceScope d.namespace.shown) d :: inner := by
  have hend : Refuses sight (.ref .topItem) [] := refuses_of_foresee namespace_foreseen.2 rfl
  have hstop : Takes (itemCost + 1) (.many (.ref .topItem)) [] [] [] := .many_nil hend (by decide)
  have hscope : ∀ t₀ us, (Look.exactly .word "namespace").Fits t₀.kind t₀.text →
      Lexed (Lexeme.dotted (parts '.' d.namespace.shown) ++ (.mark "\x7b" :: d.lexemes ++ [.mark "\x7d"])) us →
      ∃ t inner, Takes (itemCost + 1) (.many (.ref .topItem)) (t₀ :: us) [t] [] ∧ (∀ n ∈ inner, n.namespace? = none) ∧
        ∀ before, t.types { before } = typeIn (namespaceScope d.namespace.shown) d :: inner := by
    intro t₀ us h₀ hus
    obtain ⟨t, ht, inner, hinner, htypes⟩ := namespace_takes hd.everywhere hd.scope h₀ hus
    exact ⟨t, inner, .many_cons ht (by simp) hstop (by omega), hinner, htypes⟩
  have hitems : ∃ a t inner, Takes (itemCost + 1) (.many (.ref .topItem)) ts (a ++ [t]) [] ∧ (∀ t ∈ a, t.isBare = true) ∧
      (∀ n ∈ inner, n.namespace? = none) ∧ ∀ before,
      t.types { before } = typeIn (namespaceScope d.namespace.shown) d :: inner := by
    have himported := hd.imported
    cases hi : d.imports.getD [] with
    | nil =>
      have hsplit : d.fileLexemes = .word "namespace" ::
          (Lexeme.dotted (parts '.' d.namespace.shown) ++ (.mark "\x7b" :: d.lexemes ++ [.mark "\x7d"])) := by
        simp [Declaration.fileLexemes, hi]
      rw [hsplit] at h
      obtain ⟨us, rfl, hus⟩ := h
      obtain ⟨t, inner, ht, hinner, htypes⟩ := hscope ⟨lead, .word, "namespace"⟩ us ⟨rfl, rfl⟩ hus
      exact ⟨[], t, inner, ht, by simp, hinner, htypes⟩
    | cons x xs =>
      have hsplit : d.fileLexemes = .word "using" :: ((Lexeme.dotted (parts '.' x.shown) ++ [.mark ";"]) ++
          (xs.flatMap Declaration.usingLexemes ++ (.word "namespace" ::
            (Lexeme.dotted (parts '.' d.namespace.shown) ++ (.mark "\x7b" :: d.lexemes ++ [.mark "\x7d"]))))) := by
        simp [Declaration.fileLexemes, hi, Declaration.usingLexemes]
      rw [hsplit] at h
      rw [hi] at himported
      obtain ⟨us, rfl, hus⟩ := h
      obtain ⟨vs, us, rfl, hvs, hus⟩ := Lexed.split hus
      obtain ⟨ws, us, rfl, hws, hus⟩ := hus.split
      obtain ⟨t₀, us, rfl, h₀, hus⟩ := hus.cons
      obtain ⟨t, inner, ht, hinner, htypes⟩ := hscope t₀ us h₀.exactly hus
      have item : ∀ y ∈ xs, ∀ us rest, Lexed (Declaration.usingLexemes y) us → True →
          (∃ a, Takes itemCost (.ref .topItem) (us ++ rest) a rest ∧ a.flatMap (fun _ => ([] : List Unit)) = [] ∧
            ∀ t ∈ a, t.isBare = true) ∧ True ∧ us ≠ [] := by
        intro y hy us rest hl _
        obtain ⟨t₁, us, rfl, h₁, hl⟩ := Lexed.cons hl
        obtain ⟨u, hu, himport⟩ := using_takes (himported y (by simp [hy])) t₁ h₁.exactly hl rest
        exact ⟨⟨[u], hu, rfl, by simpa using himport⟩, trivial, by simp⟩
      obtain ⟨⟨a, ha, -, himports⟩, -⟩ := Takes.items (g := fun _ => []) item hws trivial ht (by omega)
      obtain ⟨u, hu, himport⟩ := using_takes (himported x (by simp)) ⟨lead, .word, "using"⟩ ⟨rfl, rfl⟩ hvs (ws ++ t₀ :: us)
      refine ⟨u :: a, t, inner, ?_, ?_, hinner, htypes⟩
      · have hall : Takes (itemCost + 1) (.many (.ref .topItem)) _ ([u] ++ (a ++ [t])) [] :=
          .many_cons hu (by simp only [List.length_cons, List.length_append]; omega) ha (by omega)
        exact hall
      · intro v hv
        rcases List.mem_cons.mp hv with rfl | hv
        · exact himport
        · exact himports v hv
  obtain ⟨a, t, inner, ha, himports, hinner, htypes⟩ := hitems
  refine ⟨a ++ [t], inner, ?_, hinner, ?_⟩
  · have hrun := ha.run (stepsFor ts) (by simp only [stepsFor, stride, itemCost, memberCost, sight, List.length_nil]; omega)
    rw [treesOf?, hrun]
  · obtain ⟨before, hbefore⟩ := treeTypes_after_bare himports {} [t]
    rw [hbefore, treeTypes, treeTypes, htypes, List.append_nil]

end Typewright.Source
