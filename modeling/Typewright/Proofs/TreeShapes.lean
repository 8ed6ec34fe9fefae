import Typewright.Proofs.Matching
import Typewright.Proofs.Places

/-!
What may stand directly in what. No tree that the grammar builds has a body directly in a body, and a namespace without a
body holds its name alone (`read?_shaped`). Places look for the parent of a type one step up, or two where a body is between
(`outerPlace`), and they find it for every tree; what the shape adds is that for a tree that was read this step never leads
into a namespace without a body (`outer_not_fileNamespace`), whose types stand behind it and not in it.

Both facts can be read off the rules, without running them.
- A rule suits a kind when whatever it yields may stand in a node of that kind (`Rule.suits`).
- A rule is sound when every node it builds is made by a rule that suits it (`Rule.sound`).

References are taken on trust in both checks, since the rules behind them are checked in their turn, one for each symbol
(`grammar_sound`, `grammar_suits`). A run of any length then keeps to the shape (`run_shaped`): the induction is on the
steps, with one case for each kind of rule, and what it carries is that the trees of a match are shaped and may stand
wherever the rule suits (`Rule.Yields`).
-/

namespace Typewright.Source

/-- A node of one kind may stand directly in a node of another. -/
def Kind.admits (parent child : Kind) : Bool :=
  match parent with
  | .body => child != .body
  | .fileNamespace => child == .name
  | _ => true

def Tree.MayStandIn (k : Kind) (t : Tree) : Prop := ∀ k', t.kind? = some k' → k.admits k' = true

inductive Tree.Shaped : Tree → Prop
  | leaf (t : Token) : Shaped (.leaf t)
  | node {kind : Kind} {children : List Tree} (hk : ∀ t ∈ children, t.MayStandIn kind) (hc : ∀ t ∈ children, Shaped t) :
    Shaped (.node kind children)

/-! ## Rules -/

namespace Rule

mutual

/-- Whatever the rule yields may stand directly in a node of the kind. -/
def suits (k : Kind) : Rule → Bool
  | .token _ | .ahead _ | .never _ => true
  | .seq rs | .first rs => allSuit k rs
  | .many r => r.suits k
  | .node kind _ => k.admits kind
  | .headed _ tails => tails.all fun t => k.admits t.1
  | .ref _ => k != .fileNamespace

def allSuit (k : Kind) : List Rule → Bool
  | [] => true
  | r :: rs => r.suits k && allSuit k rs

end

mutual

/-- Every node that the rule builds is made of what suits it. -/
def sound : Rule → Bool
  | .token _ | .ahead _ | .never _ | .ref _ => true
  | .seq rs | .first rs => allSound rs
  | .many r => r.sound
  | .node kind r => r.suits kind && r.sound
  | .headed head tails => head.sound && tailsSound head tails

def allSound : List Rule → Bool
  | [] => true
  | r :: rs => r.sound && allSound rs

def tailsSound (head : Rule) : List (Kind × Rule) → Bool
  | [] => true
  | (kind, r) :: tails => head.suits kind && r.suits kind && r.sound && tailsSound head tails

end

theorem tailsSound_mem {head r : Rule} {kind : Kind} {tails : List (Kind × Rule)} (h : tailsSound head tails = true)
    (hm : (kind, r) ∈ tails) : head.suits kind = true ∧ r.suits kind = true ∧ r.sound = true := by
  induction tails with
  | nil => cases hm
  | cons p tails ih =>
    obtain ⟨k, r'⟩ := p
    simp only [tailsSound, Bool.and_eq_true] at h
    rcases List.mem_cons.mp hm with hm | hm
    · cases hm
      exact ⟨h.1.1.1, h.1.1.2, h.1.2⟩
    · exact ih h.2 hm

end Rule

theorem grammar_sound (s : Symbol) : (grammar s).sound = true := by cases s <;> decide +kernel

theorem grammar_suits (s : Symbol) : (grammar s).suits .body = true := by cases s <;> decide +kernel

/-! ## Runs -/

structure Rule.Yields (r : Rule) (trees : List Tree) : Prop where
  shaped : ∀ t ∈ trees, t.Shaped
  placed : ∀ k, r.suits k = true → ∀ t ∈ trees, t.MayStandIn k

namespace Rule.Yields

variable {r r' : Rule} {a b : List Tree}

theorem nil : r.Yields [] := ⟨by simp, by simp⟩

theorem mono (h : r.Yields a) (hs : ∀ k, r'.suits k = true → r.suits k = true) : r'.Yields a :=
  ⟨h.shaped, fun k hk => h.placed k (hs k hk)⟩

theorem append (ha : r.Yields a) (hb : r.Yields b) : r.Yields (a ++ b) where
  shaped t ht := (List.mem_append.mp ht).elim (ha.shaped t) (hb.shaped t)
  placed k hk t ht := (List.mem_append.mp ht).elim (ha.placed k hk t) (hb.placed k hk t)

theorem seq_cons {rs : List Rule} (ha : r.Yields a) (hb : (Rule.seq rs).Yields b) : (Rule.seq (r :: rs)).Yields (a ++ b) := by
  have hboth : ∀ k, (Rule.seq (r :: rs)).suits k = true → r.suits k = true ∧ (Rule.seq rs).suits k = true := by
    intro k hk
    rwa [suits, allSuit, Bool.and_eq_true] at hk
  exact (ha.mono fun k hk => (hboth k hk).1).append (hb.mono fun k hk => (hboth k hk).2)

/-- Trees that may stand in a node of the kind make one. -/
theorem gathered {kind : Kind} (ha : r.Yields a) (hr : r.suits kind = true) (hs : ∀ k, r'.suits k = true → k.admits kind = true) :
    r'.Yields [.node kind a] where
  shaped t ht := by
    rw [List.mem_singleton.mp ht]
    exact .node (ha.placed kind hr) ha.shaped
  placed k hk t ht k' hk' := by
    rw [List.mem_singleton.mp ht] at hk'
    cases hk'
    exact hs k hk

/-- A reference yields what the rule behind it does. -/
theorem ref {s : Symbol} (h : (grammar s).Yields a) : (Rule.ref s).Yields a where
  shaped := h.shaped
  placed k hk t ht k' hk' := by
    cases k with
    | body => exact h.placed .body (grammar_suits s) t ht k' hk'
    | fileNamespace => simp [suits] at hk
    | _ => rfl

end Rule.Yields

theorem run_shaped (n : Nat) : ∀ {r : Rule} {ts rest : List Token} {trees : List Tree}, r.sound = true →
    Rule.run grammar n r ts = .matched trees rest → r.Yields trees := by
  induction n with
  | zero => intro r ts rest trees _ h; cases h
  | succ n ih =>
    intro r ts rest trees hr h
    cases r with
    | token p =>
      cases ts with
      | nil => cases h
      | cons t ts =>
        rw [Rule.run] at h
        split at h
        · cases h
          exact ⟨by simpa using .leaf t, by simp [Tree.MayStandIn, Tree.kind?]⟩
        · cases h
    | seq parts =>
      cases parts with
      | nil =>
        rw [Rule.run] at h
        cases h
        exact .nil
      | cons r more =>
        simp only [Rule.sound, Rule.allSound, Bool.and_eq_true] at hr
        rw [Rule.run] at h
        split at h
        · rename_i a mid ha
          obtain ⟨b, hb, rfl⟩ := Outcome.after_matched h
          exact (ih hr.1 ha).seq_cons (ih (r := .seq more) hr.2 hb)
        · exact absurd h (by rename_i hm; exact hm _ _)
    | first choices =>
      cases choices with
      | nil => cases h
      | cons r more =>
        simp only [Rule.sound, Rule.allSound, Bool.and_eq_true] at hr
        rw [Rule.run] at h
        split at h
        · refine (ih (r := .first more) hr.2 h).mono fun k hk => ?_
          rw [Rule.suits, Rule.allSuit, Bool.and_eq_true] at hk
          exact hk.2
        · refine (ih hr.1 h).mono fun k hk => ?_
          rw [Rule.suits, Rule.allSuit, Bool.and_eq_true] at hk
          exact hk.1
    | many r =>
      rw [Rule.sound] at hr
      have hmono : ∀ k, (Rule.many r).suits k = true → r.suits k = true := fun k hk => by rwa [Rule.suits] at hk
      rw [Rule.run] at h
      split at h
      · rename_i a mid ha
        split at h
        · obtain ⟨b, hb, rfl⟩ := Outcome.after_matched h
          exact ((ih hr ha).mono hmono).append (ih (r := .many r) (by rwa [Rule.sound]) hb)
        · cases h
          exact (ih hr ha).mono hmono
      · cases h
        exact .nil
      · cases h
    | ahead r =>
      rw [Rule.run] at h
      split at h
      · cases h
        exact .nil
      · exact absurd h (by rename_i hm; exact hm _ _)
    | never r =>
      rw [Rule.run] at h
      split at h
      · cases h
      · cases h
        exact .nil
      · cases h
    | node kind r =>
      rw [Rule.sound, Bool.and_eq_true] at hr
      rw [Rule.run] at h
      obtain ⟨b, hb, rfl⟩ := Outcome.gathered_matched h
      exact (ih hr.2 hb).gathered hr.1 fun k hk => by rwa [Rule.suits] at hk
    | headed head tails =>
      rw [Rule.sound, Bool.and_eq_true] at hr
      rw [Rule.run] at h
      split at h
      · rename_i a mid ha
        obtain ⟨kind, r, b, hm, hb, rfl⟩ := pick_matched h
        obtain ⟨hhead, htail, hsound⟩ := Rule.tailsSound_mem hr.2 hm
        have hboth : (Rule.seq [head, r]).Yields (a ++ b) := by
          have := (ih hr.1 ha).seq_cons ((ih hsound hb).seq_cons (.nil : (Rule.seq []).Yields []))
          rwa [List.append_nil] at this
        refine hboth.gathered (by simp [Rule.suits, Rule.allSuit, hhead, htail]) fun k hk => ?_
        rw [Rule.suits] at hk
        exact List.all_eq_true.mp hk (kind, r) hm
      · exact absurd h (by rename_i hm; exact hm _ _)
    | ref s =>
      rw [Rule.run] at h
      exact (ih (grammar_sound s) h).ref

/-- The trees of a source, gathered in a node of their own, are shaped. -/
theorem read?_shaped {source : String} {trees : List Tree} (h : read? source = some trees) : (Tree.node .other trees).Shaped := by
  obtain ⟨ts, -, h⟩ := Option.bind_eq_some_iff.mp h
  unfold treesOf? at h
  split at h
  · rename_i hrun
    cases h
    exact .node (fun t _ k _ => rfl) (run_shaped _ rfl hrun).shaped
  · cases h

/-! ## Namespaces without a body -/

namespace Tree

variable {t u c : Tree} {place : List Nat} {i : Nat}

theorem Shaped.inside (h : t.Shaped) (hu : t.at? place = some u) : u.Shaped := by
  induction place generalizing t with
  | nil =>
    cases hu
    exact h
  | cons i place ih =>
    obtain ⟨c, hc, hcu⟩ := Option.bind_eq_some_iff.mp hu
    cases h with
    | leaf t => simp [children] at hc
    | node hk hs => exact ih (hs c (List.mem_of_getElem? hc)) hcu

theorem Shaped.admits {k k' : Kind} (h : t.Shaped) (hc : t.children[i]? = some c) (hk : t.kind? = some k)
    (hk' : c.kind? = some k') : k.admits k' = true := by
  cases h with
  | leaf t => cases hk
  | node ha hs =>
    cases hk
    exact ha c (List.mem_of_getElem? hc) k' hk'

/-- Nothing in a namespace without a body is a type or a body. -/
theorem Shaped.in_fileNamespace (h : t.Shaped) (hf : t.isFileNamespace = true) (hc : t.children[i]? = some c) :
    c.isType = false ∧ c.kind? ≠ some .body := by
  cases hk : c.kind? with
  | none => simp [isType, word?, hk]
  | some k =>
    have hname := h.admits hc (beq_iff_eq.mp hf) hk
    obtain rfl : k = .name := by simpa [Kind.admits] using hname
    simp [isType, word?, hk, typeWord?]

end Tree

/-- The types after a namespace without a body are its neighbours: no type of a source stands in one. So the listing finds
    their namespace by looking back, and never by looking up. -/
theorem outer_not_fileNamespace {source : String} {trees : List Tree} (h : read? source = some trees) {place : List Nat}
    {t outer : Tree} (ht : (Tree.node .other trees).at? place = some t) (hw : t.isType = true)
    (ho : (Tree.node .other trees).at? ((Tree.node .other trees).outerPlace place) = some outer) :
    outer.isFileNamespace = false := by
  have hshaped := read?_shaped h
  obtain ⟨above, i, u, rfl, hu, hc⟩ := Tree.above_type rfl ht hw
  have hroot : (Tree.node .other trees).kind? ≠ some .body := by simp [Tree.kind?]
  by_contra hfile
  rw [Bool.not_eq_false] at hfile
  rcases Tree.outerPlace_cases (i := i) hroot hu with ⟨-, houter⟩ | ⟨higher, j, v, hbody, rfl, hv, hvu, houter⟩
  · rw [houter, hu] at ho
    cases ho
    have hnone := ((hshaped.inside hu).in_fileNamespace hfile hc).1
    rw [hw] at hnone
    cases hnone
  · rw [houter, hv] at ho
    cases ho
    exact ((hshaped.inside hv).in_fileNamespace hfile hvu).2 hbody

end Typewright.Source
