import Typewright.Source.Grammar
import Typewright.Source.Rule.Fuel

/-!
Matches of the grammar that stand whatever fuel there is, once it is enough.

`Takes c r ts trees rest` says that the rule `r` matches the tokens `ts` down to `rest`, with `c` steps and a `stride` more
for each token it takes. `Refuses c r ts` says that it does not match, given `c` steps. Both are closed under the ways in
which rules are built, with one lemma for each: a sequence (`Takes.seq_cons`, `Takes.seq_append`), a choice
(`Takes.first_here`, `Takes.first_later`), a repetition (`Takes.many_nil`, `Takes.many_cons`), a node, a reference, a
beginning with its continuations (`Takes.headed`).

The strides are what keeps bounds from growing with the source. A repetition costs no more than one of its parts, since
every part takes a token (`Takes.many_cons`); and a token at the front of a sequence pays for what follows it
(`Takes.seq_token`), so that a type inside a type costs no more than the type around it.

What is matched is not lost: trees hold the tokens that were taken, in order (`run_tokens`), for every rule and every run.
The inversion lemmas of outcomes (`Outcome.after_matched`, `Outcome.gathered_matched`, `pick_matched`) serve all inductions
over runs.
-/

namespace Typewright.Source

/-- The steps that a token taken pays for. -/
def stride : Nat := 100

/-- The rule matches, with trees and a rest, given `c` steps and a stride for each token. -/
structure Takes (c : Nat) (r : Rule) (ts : List Token) (trees : List Tree) (rest : List Token) : Prop where
  le : rest.length ≤ ts.length
  run : ∀ n, c + stride * (ts.length - rest.length) ≤ n → Rule.run grammar n r ts = .matched trees rest

def Refuses (c : Nat) (r : Rule) (ts : List Token) : Prop := ∀ n, c ≤ n → Rule.run grammar n r ts = .mismatch

variable {c d e : Nat} {r : Rule} {rs : List Rule} {ts mid rest : List Token} {a b : List Tree}

theorem Refuses.mono (h : Refuses c r ts) (hd : c ≤ d) : Refuses d r ts := fun n hn => h n (by omega)

/-! ## Matches -/

theorem Takes.token {p : Pattern} {t : Token} (h : p.accepts t = true) : Takes 1 (.token p) (t :: ts) [.leaf t] ts where
  le := by simp
  run n hn := by
    obtain ⟨n, rfl⟩ : ∃ m, n = m + 1 := ⟨n - 1, by omega⟩
    rw [Rule.run, if_pos h]

theorem Takes.seq_nil : Takes 1 (.seq []) ts [] ts where
  le := by simp
  run n hn := by
    obtain ⟨n, rfl⟩ : ∃ m, n = m + 1 := ⟨n - 1, by omega⟩
    rw [Rule.run]

theorem Takes.seq_cons (h : Takes c r ts a mid) (h' : Takes d (.seq rs) mid b rest) (hc : c < e) (hd : d < e) :
    Takes e (.seq (r :: rs)) ts (a ++ b) rest where
  le := by have := h.le; have := h'.le; omega
  run n hn := by
    have hl := h.le
    have hl' := h'.le
    simp only [stride] at hn
    obtain ⟨n, rfl⟩ : ∃ m, n = m + 1 := ⟨n - 1, by omega⟩
    rw [Rule.run, h.run n (by simp only [stride]; omega)]
    show Outcome.after a _ = _
    rw [h'.run n (by simp only [stride]; omega)]
    rfl

/-- A token at the front pays for a stride of what follows. -/
theorem Takes.seq_token {p : Pattern} {t : Token} (h : p.accepts t = true) (h' : Takes d (.seq rs) ts b rest)
    (hd : d < e + stride) (he : 1 < e) : Takes e (.seq (.token p :: rs)) (t :: ts) (.leaf t :: b) rest where
  le := by have := h'.le; rw [List.length_cons]; omega
  run n hn := by
    have hl' := h'.le
    simp only [stride, List.length_cons] at hn hd
    obtain ⟨n, rfl⟩ : ∃ m, n = m + 1 := ⟨n - 1, by omega⟩
    rw [Rule.run, (Takes.token h).run n (by simp only [stride, List.length_cons]; omega)]
    show Outcome.after [.leaf t] _ = _
    rw [h'.run n (by simp only [stride]; omega)]
    rfl

theorem Outcome.after_matched {o : Outcome} {a b : List Tree} {rest : List Token} (h : o.after a = .matched b rest) :
    ∃ b', o = .matched b' rest ∧ b = a ++ b' := by
  cases o with
  | matched b' rest' =>
    simp only [Outcome.after, Outcome.matched.injEq] at h
    exact ⟨b', by rw [h.2], h.1.symm⟩
  | mismatch => cases h
  | starved => cases h

theorem run_seq_append {xs ys : List Rule} (n : Nat)
    (h' : ∀ m, n ≤ m + xs.length → Rule.run grammar m (.seq ys) mid = .matched b rest) :
    Rule.run grammar n (.seq xs) ts = .matched a mid → Rule.run grammar n (.seq (xs ++ ys)) ts = .matched (a ++ b) rest := by
  induction xs generalizing n ts a with
  | nil =>
    intro h
    cases n with
    | zero => cases h
    | succ n =>
      rw [Rule.run, Outcome.matched.injEq] at h
      rw [← h.1, h.2]
      exact h' _ (by simp)
  | cons x xs ih =>
    intro h
    cases n with
    | zero => cases h
    | succ n =>
      rw [List.cons_append, Rule.run]
      rw [Rule.run] at h
      cases hx : Rule.run grammar n x ts with
      | matched c m =>
        rw [hx] at h
        obtain ⟨d, hd, rfl⟩ := Outcome.after_matched h
        show Outcome.after c _ = _
        rw [ih n (fun m hm => h' m (by rw [List.length_cons]; omega)) hd, Outcome.after, List.append_assoc]
      | mismatch => rw [hx] at h; cases h
      | starved => rw [hx] at h; cases h

/-- A sequence can be matched in two parts. -/
theorem Takes.seq_append {xs ys : List Rule} (h : Takes c (.seq xs) ts a mid) (h' : Takes d (.seq ys) mid b rest)
    (hc : c ≤ e) (hd : d + xs.length ≤ e) : Takes e (.seq (xs ++ ys)) ts (a ++ b) rest where
  le := by have := h.le; have := h'.le; omega
  run n hn := by
    have hl := h.le
    have hl' := h'.le
    simp only [stride] at hn
    refine run_seq_append n (fun m hm => h'.run m (by simp only [stride]; omega)) (h.run n (by simp only [stride]; omega))

theorem Takes.first_here (h : Takes c r ts a rest) (hc : c < e) : Takes e (.first (r :: rs)) ts a rest where
  le := h.le
  run n hn := by
    obtain ⟨n, rfl⟩ : ∃ m, n = m + 1 := ⟨n - 1, by omega⟩
    rw [Rule.run, h.run n (by omega)]

theorem Takes.first_later (h : Refuses c r ts) (h' : Takes d (.first rs) ts a rest) (hc : c < e) (hd : d < e) :
    Takes e (.first (r :: rs)) ts a rest where
  le := h'.le
  run n hn := by
    obtain ⟨n, rfl⟩ : ∃ m, n = m + 1 := ⟨n - 1, by omega⟩
    rw [Rule.run, h n (by omega)]
    exact h'.run n (by omega)

/-- A part that is left out. -/
theorem Takes.opt_none (h : Refuses c r ts) (hc : c < e) (he : 2 < e) : Takes e (.opt r) ts [] ts :=
  .first_later h (.first_here .seq_nil (Nat.lt_succ_self 1)) hc he

/-- A part that is there. -/
theorem Takes.opt_some (h : Takes c r ts a rest) (hc : c < e) : Takes e (.opt r) ts a rest := .first_here h hc

theorem Takes.many_nil (h : Refuses c r ts) (hc : c < e) : Takes e (.many r) ts [] ts where
  le := Nat.le_refl _
  run n hn := by
    obtain ⟨n, rfl⟩ : ∃ m, n = m + 1 := ⟨n - 1, by omega⟩
    rw [Rule.run, h n (by omega)]

theorem Takes.many_cons (h : Takes c r ts a mid) (hlt : mid.length < ts.length) (h' : Takes e (.many r) mid b rest)
    (hc : c < e) : Takes e (.many r) ts (a ++ b) rest where
  le := by have := h'.le; omega
  run n hn := by
    have hl' := h'.le
    simp only [stride] at hn
    obtain ⟨n, rfl⟩ : ∃ m, n = m + 1 := ⟨n - 1, by omega⟩
    rw [Rule.run, h.run n (by simp only [stride]; omega)]
    show (if mid.length < ts.length then Outcome.after a _ else _) = _
    rw [if_pos hlt, h'.run n (by simp only [stride]; omega)]
    rfl

theorem Takes.node {kind : Kind} (h : Takes c r ts a rest) (hc : c < e) : Takes e (.node kind r) ts [.node kind a] rest where
  le := h.le
  run n hn := by
    obtain ⟨n, rfl⟩ : ∃ m, n = m + 1 := ⟨n - 1, by omega⟩
    rw [Rule.run, h.run n (by omega)]
    rfl

theorem Takes.ref {s : Symbol} (h : Takes c (grammar s) ts a rest) (hc : c < e) : Takes e (.ref s) ts a rest where
  le := h.le
  run n hn := by
    obtain ⟨n, rfl⟩ : ∃ m, n = m + 1 := ⟨n - 1, by omega⟩
    rw [Rule.run]
    exact h.run n (by omega)

/-- The continuation after those that do not match is picked. -/
theorem pick_later {attempt : Rule → Outcome} {before after : List (Kind × Rule)} {kind : Kind}
    (hb : ∀ p ∈ before, attempt p.2 = .mismatch) (hr : attempt r = .matched b rest) (a : List Tree) :
    pick attempt a (before ++ (kind, r) :: after) = .matched [.node kind (a ++ b)] rest := by
  induction before with
  | nil =>
    rw [List.nil_append, pick, hr]
    rfl
  | cons p before ih =>
    rw [List.cons_append, pick, hb p (by simp)]
    exact ih fun q hq => hb q (by simp [hq])

theorem Takes.headed {head : Rule} {tails before after : List (Kind × Rule)} {kind : Kind} (h : Takes c head ts a mid)
    (ht : tails = before ++ (kind, r) :: after) (hb : ∀ p ∈ before, Refuses d p.2 mid) (hr : Takes d r mid b rest)
    (hc : c < e) (hd : d < e) : Takes e (.headed head tails) ts [.node kind (a ++ b)] rest where
  le := by have := h.le; have := hr.le; omega
  run n hn := by
    have hl := h.le
    have hl' := hr.le
    simp only [stride] at hn
    obtain ⟨n, rfl⟩ : ∃ m, n = m + 1 := ⟨n - 1, by omega⟩
    rw [Rule.run, h.run n (by simp only [stride]; omega), ht]
    exact pick_later (fun p hp => hb p hp n (by omega)) (hr.run n (by simp only [stride]; omega)) a

theorem pick_after {attempt : Rule → Outcome} {tails : List (Kind × Rule)} {kind : Kind}
    (h : pick attempt [] tails = .matched [.node kind b] rest) (a : List Tree) :
    pick attempt a tails = .matched [.node kind (a ++ b)] rest := by
  induction tails with
  | nil => cases h
  | cons p tails ih =>
    obtain ⟨k, r⟩ := p
    rw [pick] at h ⊢
    cases ho : attempt r with
    | matched c rest' =>
      rw [ho] at h
      simp only [Outcome.gathered, List.nil_append, Outcome.matched.injEq, List.cons.injEq, Tree.node.injEq, and_true] at h
      simp only [Outcome.gathered, h.1.1, h.1.2, h.2]
    | mismatch =>
      rw [ho] at h
      exact ih h
    | starved =>
      rw [ho] at h
      cases h

/-- What a beginning is continued with does not depend on the beginning. -/
theorem Takes.headed_after {head : Rule} {tails : List (Kind × Rule)} {kind : Kind} (h : Takes c head ts a mid)
    (h' : Takes d (.headed (.seq []) tails) mid [.node kind b] rest) (hc : c < e) (hd : d ≤ e) :
    Takes e (.headed head tails) ts [.node kind (a ++ b)] rest where
  le := by have := h.le; have := h'.le; omega
  run n hn := by
    have hl := h.le
    have hl' := h'.le
    simp only [stride] at hn
    obtain ⟨n, rfl⟩ : ∃ m, n = m + 1 := ⟨n - 1, by omega⟩
    have hp := h'.run (n + 1) (by simp only [stride]; omega)
    have hnil : Rule.run grammar n (.seq []) mid = .matched [] mid := by
      cases n with
      | zero => cases hp
      | succ n => rw [Rule.run]
    rw [Rule.run, hnil] at hp
    rw [Rule.run, h.run n (by simp only [stride]; omega)]
    exact pick_after hp a

/-! ## Mismatches -/

theorem Refuses.seq_head (h : Refuses c r ts) (hc : c < e) : Refuses e (.seq (r :: rs)) ts := by
  intro n hn
  obtain ⟨n, rfl⟩ : ∃ m, n = m + 1 := ⟨n - 1, by omega⟩
  rw [Rule.run, h n (by omega)]

/-! ## What the trees hold -/

theorem treeTokens_append (a b : List Tree) : treeTokens (a ++ b) = treeTokens a ++ treeTokens b := by
  induction a with
  | nil => rfl
  | cons t a ih => rw [List.cons_append, treeTokens, treeTokens, ih, List.append_assoc]

theorem Outcome.gathered_matched {o : Outcome} {kind : Kind} {a b : List Tree} {rest : List Token}
    (h : o.gathered kind a = .matched b rest) : ∃ b', o = .matched b' rest ∧ b = [.node kind (a ++ b')] := by
  cases o with
  | matched b' rest' =>
    simp only [Outcome.gathered, Outcome.matched.injEq] at h
    exact ⟨b', by rw [h.2], h.1.symm⟩
  | mismatch => cases h
  | starved => cases h

theorem pick_matched {attempt : Rule → Outcome} {a b : List Tree} {tails : List (Kind × Rule)}
    (h : pick attempt a tails = .matched b rest) :
    ∃ kind r b', (kind, r) ∈ tails ∧ attempt r = .matched b' rest ∧ b = [.node kind (a ++ b')] := by
  induction tails with
  | nil => cases h
  | cons p tails ih =>
    obtain ⟨kind, r⟩ := p
    rw [pick] at h
    split at h
    · obtain ⟨k, r', b', hm, hb⟩ := ih h
      exact ⟨k, r', b', List.mem_cons_of_mem _ hm, hb⟩
    · obtain ⟨b', ho, hb⟩ := Outcome.gathered_matched h
      exact ⟨kind, r, b', List.mem_cons_self, ho, hb⟩

/-- A match takes the tokens of its trees from the front. -/
theorem run_tokens (n : Nat) : ∀ {r : Rule} {ts rest : List Token} {trees : List Tree},
    Rule.run grammar n r ts = .matched trees rest → ts = treeTokens trees ++ rest := by
  induction n with
  | zero => intro r ts rest trees h; cases h
  | succ n ih =>
    intro r ts rest trees h
    cases r with
    | token p =>
      cases ts with
      | nil => cases h
      | cons t ts =>
        rw [Rule.run] at h
        split at h
        · cases h; rfl
        · cases h
    | seq parts =>
      cases parts with
      | nil => rw [Rule.run] at h; cases h; rfl
      | cons r more =>
        rw [Rule.run] at h
        split at h
        · rename_i a mid hr
          obtain ⟨b, hb, rfl⟩ := Outcome.after_matched h
          rw [ih hr, ih hb, treeTokens_append, List.append_assoc]
        · exact absurd h (by rename_i hm; exact hm _ _)
    | first choices =>
      cases choices with
      | nil => cases h
      | cons r more =>
        rw [Rule.run] at h
        split at h
        · exact ih h
        · exact ih h
    | many r =>
      rw [Rule.run] at h
      split at h
      · rename_i a mid hr
        split at h
        · obtain ⟨b, hb, rfl⟩ := Outcome.after_matched h
          rw [ih hr, ih hb, treeTokens_append, List.append_assoc]
        · cases h; exact ih hr
      · cases h; rfl
      · cases h
    | ahead r =>
      rw [Rule.run] at h
      split at h
      · cases h; rfl
      · exact absurd h (by rename_i hm; exact hm _ _)
    | never r =>
      rw [Rule.run] at h
      split at h
      · cases h
      · cases h; rfl
      · cases h
    | node kind r =>
      rw [Rule.run] at h
      obtain ⟨b, hb, rfl⟩ := Outcome.gathered_matched h
      simpa [treeTokens, Tree.tokens] using ih hb
    | headed head tails =>
      rw [Rule.run] at h
      split at h
      · rename_i a mid hr
        obtain ⟨kind, r, b, -, hb, rfl⟩ := pick_matched h
        rw [ih hr, ih hb]
        simp [treeTokens, Tree.tokens, treeTokens_append]
      · exact absurd h (by rename_i hm; exact hm _ _)
    | ref s =>
      rw [Rule.run] at h
      exact ih h

theorem Takes.tokens (h : Takes c r ts a rest) : ts = treeTokens a ++ rest := run_tokens _ (h.run _ (Nat.le_refl _))

end Typewright.Source
