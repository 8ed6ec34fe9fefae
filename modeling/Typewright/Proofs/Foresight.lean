import Typewright.Proofs.Matching

/-!
Matching tokens of which only part is known.

The text of a declaration has lines of a few known forms, but with names in them that are not known. What the grammar does
to such a line is the same for all names, yet it cannot be settled by running the grammar, since there are no tokens to run
it on. A `Look` is what is known of one token: its text, or that it is a word, a name, an identifier, a predefined type or a
literal, that it may follow a member, or that there is none. `Rule.foresee` follows a rule along looks in the way `Rule.run`
follows it along tokens. A pattern accepts a token or refuses it as far as its look tells (`Look.accepts?`), and where that
is not far enough it gives up. Trees over tokens that are known by their place only are a `Forest`; the tokens are put in
later (`Forest.trees`).

- `foresee_holds`: where foresight does not give up, every run on tokens of these looks, with enough steps, ends as
  foreseen. By induction on the steps of foresight, one case for each way of building a rule.
- `takes_of_foresee`, `refuses_of_foresee`: the same in the terms of `Matching`.

So the question is settled by evaluating `foresee` once, on a closed term, for each form of line. Foresight stops at the
tokens it has looks for; lists and nested types, whose length is not known, are matched by the lemmas of `Matching` around
it.

Words that are keywords in some places and names in others (`contextualWords`) are why there are names that are no
identifiers: an identifier is none of them, and only of an identifier every pattern for one word can be told to refuse it.
-/

namespace Typewright.Source

/-! ## Looks -/

def contextualWords : List String :=
  ["alias", "allows", "and", "ascending", "async", "await", "by", "descending", "equals", "file", "from", "global", "group",
    "into", "join", "let", "managed", "not", "on", "or", "orderby", "partial", "record", "required", "scoped", "select",
    "unmanaged", "var", "when", "where", "with", "yield"]

/-- What is known of a token. -/
inductive Look where
  | exactly (kind : TokenKind) (text : String)
  | word
  | name
  /-- A name that is no keyword anywhere. -/
  | identifier
  | predefined
  /-- A number or a literal. -/
  | value
  /-- Whatever may follow a member in a body. -/
  | next
  /-- There is no token. -/
  | ending

namespace Look

def Fits : Look → TokenKind → String → Prop
  | exactly kind text, k, s => k = kind ∧ s = text
  | word, k, _ => k = .word
  | name, k, s => k = .word ∧ isReserved s = false
  | identifier, k, s => k = .word ∧ isReserved s = false ∧ contextualWords.contains s = false
  | predefined, k, s => k = .word ∧ predefinedTypes.contains s = true
  | value, k, _ => k = .literal ∨ k = .number
  | next, k, s => k = .word ∨ k = .mark ∧ (s = "\x7d" ∨ s = "[")
  | ending, _, _ => False

/-- Whether a pattern accepts a token, as far as its look tells. -/
def accepts? : Look → Pattern → Option Bool
  | exactly kind text, .tight s => if kind == .mark && text == s then none else some false
  | exactly kind text, p => some (p.accepts ⟨[], kind, text⟩)
  | word, .mark _ | word, .tight _ | word, .directive _ | word, .literal => some false
  | word, .anyWord => some true
  | word, _ => none
  | name, .name | name, .anyWord => some true
  | name, .plainName => none
  | name, .word s => if isReserved s then some false else none
  | name, _ => some false
  | identifier, .name | identifier, .plainName | identifier, .anyWord => some true
  | identifier, .word s => if isReserved s || contextualWords.contains s then some false else none
  | identifier, _ => some false
  | predefined, .predefined | predefined, .anyWord => some true
  | predefined, .word s => if predefinedTypes.contains s then none else some false
  | predefined, _ => some false
  | value, .literal => some true
  | value, _ => some false
  | next, .mark s | next, .tight s => if s == "\x7d" || s == "[" then none else some false
  | next, .literal | next, .directive _ => some false
  | next, _ => none
  | ending, _ => some false

variable {t : Token} {p : Pattern} {b : Bool}

theorem accepts_exactly {kind : TokenKind} {text : String} (h : (exactly kind text).Fits t.kind t.text)
    (hb : (exactly kind text).accepts? p = some b) : p.accepts t = b := by
  obtain ⟨rfl, rfl⟩ := h
  cases p with
  | tight s =>
    rw [accepts?] at hb
    split at hb
    · cases hb
    · rename_i hne
      rw [Bool.not_eq_true] at hne
      rw [Pattern.accepts, hne, ← Option.some.inj hb]
      rfl
  | _ => exact Option.some.inj hb

/-- A word pattern does not accept a token with another text. -/
theorem word_accepts_ne {s : String} (h : t.text ≠ s) : (Pattern.word s).accepts t = false := by
  rw [Pattern.accepts, Bool.and_eq_false_iff]
  exact .inr (beq_eq_false_iff_ne.mpr h)

theorem accepts_word (h : Look.word.Fits t.kind t.text) (hb : Look.word.accepts? p = some b) : p.accepts t = b := by
  have hk : t.kind = .word := h
  cases p with
  | word _ | name | plainName | predefined => cases hb
  | _ =>
    rw [← Option.some.inj hb]
    simp [Pattern.accepts, hk]

theorem accepts_name (h : Look.name.Fits t.kind t.text) (hb : Look.name.accepts? p = some b) : p.accepts t = b := by
  obtain ⟨hk, hr⟩ := h
  cases p with
  | word s =>
    rw [accepts?] at hb
    split at hb
    · rename_i hs
      rw [← Option.some.inj hb]
      refine word_accepts_ne ?_
      rintro rfl
      rw [hr] at hs
      cases hs
    · cases hb
  | plainName => cases hb
  | predefined =>
    rw [isReserved, Bool.or_eq_false_iff] at hr
    rw [← Option.some.inj hb, Pattern.accepts, hr.1, Bool.and_false]
  | _ =>
    rw [← Option.some.inj hb]
    simp [Pattern.accepts, hk, hr]

theorem accepts_identifier (h : Look.identifier.Fits t.kind t.text) (hb : Look.identifier.accepts? p = some b) :
    p.accepts t = b := by
  obtain ⟨hk, hr, hc⟩ := h
  cases p with
  | word s =>
    rw [accepts?] at hb
    split at hb
    · rename_i hs
      rw [← Option.some.inj hb]
      refine word_accepts_ne ?_
      rintro rfl
      rw [hr, hc] at hs
      cases hs
    · cases hb
  | plainName =>
    -- the words that join expressions are all contextual
    have hjoin : joiningWords.contains t.text = false := by
      rw [Bool.eq_false_iff]
      intro hj
      have hsub : ∀ w ∈ joiningWords, contextualWords.contains w = true := by decide
      rw [hsub t.text (by simpa using hj)] at hc
      cases hc
    rw [← Option.some.inj hb, Pattern.accepts, hk, hr, hjoin]
    rfl
  | _ => exact accepts_name ⟨hk, hr⟩ hb

theorem accepts_predefined (h : Look.predefined.Fits t.kind t.text) (hb : Look.predefined.accepts? p = some b) :
    p.accepts t = b := by
  obtain ⟨hk, hp⟩ := h
  cases p with
  | word s =>
    rw [accepts?] at hb
    split at hb
    · cases hb
    · rename_i hs
      rw [← Option.some.inj hb]
      refine word_accepts_ne ?_
      rintro rfl
      exact hs hp
  | _ =>
    rw [← Option.some.inj hb]
    simp [Pattern.accepts, hk, hp, isReserved, -List.contains_eq_mem]

theorem accepts_next (h : Look.next.Fits t.kind t.text) (hb : Look.next.accepts? p = some b) : p.accepts t = b := by
  have hmark : ∀ s, (t.kind == .mark && t.text == s) = true → (s == "\x7d" || s == "[") = true := by
    intro s hs
    rw [Bool.and_eq_true, beq_iff_eq, beq_iff_eq] at hs
    rcases h with hw | ⟨-, ht⟩
    · rw [hw] at hs
      cases hs.1
    · rw [← hs.2]
      rcases ht with ht | ht <;> rw [ht] <;> decide
  cases p with
  | mark s =>
    rw [accepts?] at hb
    split at hb
    · cases hb
    · rename_i hne
      rw [← Option.some.inj hb, Pattern.accepts, Bool.eq_false_iff]
      exact fun hs => hne (hmark s hs)
  | tight s =>
    rw [accepts?] at hb
    split at hb
    · cases hb
    · rename_i hne
      rw [← Option.some.inj hb, Pattern.accepts, Bool.and_eq_false_iff, Bool.eq_false_iff]
      exact .inl fun hs => hne (hmark s hs)
  | literal =>
    rw [← Option.some.inj hb]
    rcases h with hk | ⟨hk, -⟩ <;> simp [Pattern.accepts, hk]
  | directive name =>
    rw [← Option.some.inj hb]
    rcases h with hk | ⟨hk, -⟩ <;> simp [Pattern.accepts, hk]
  | _ => cases hb

theorem accepts_of_look {l : Look} (h : l.Fits t.kind t.text) (hb : l.accepts? p = some b) : p.accepts t = b := by
  cases l with
  | exactly kind text => exact accepts_exactly h hb
  | word => exact accepts_word h hb
  | name => exact accepts_name h hb
  | identifier => exact accepts_identifier h hb
  | predefined => exact accepts_predefined h hb
  | value =>
    have hk : t.kind = .literal ∨ t.kind = .number := h
    cases p <;> rw [← Option.some.inj hb] <;> rcases hk with hk | hk <;> simp [Pattern.accepts, hk]
  | next => exact accepts_next h hb
  | ending => exact absurd h id

end Look

def Sees : List Look → List Token → Prop
  | [], _ => True
  | .ending :: _, ts => ts = []
  | l :: ls, t :: ts => l.Fits t.kind t.text ∧ Sees ls ts
  | _ :: _, [] => False

/-! ## Trees to come -/

/-- Trees over tokens that are known by their place only. -/
inductive Forest where
  | nil
  | leaf (place : Nat) (rest : Forest)
  | node (kind : Kind) (inner rest : Forest)
  deriving DecidableEq

namespace Forest

def append : Forest → Forest → Forest
  | nil, g => g
  | leaf i rest, g => leaf i (rest.append g)
  | node k inner rest, g => node k inner (rest.append g)

def trees (ts : List Token) : Forest → List Tree
  | nil => []
  | leaf i rest => .leaf (ts.getD i ⟨[], .word, ""⟩) :: rest.trees ts
  | node k inner rest => .node k (inner.trees ts) :: rest.trees ts

theorem trees_append (ts : List Token) (f g : Forest) : (f.append g).trees ts = f.trees ts ++ g.trees ts := by
  induction f with
  | nil => rfl
  | leaf i rest ih => simp only [append, trees, ih, List.cons_append]
  | node k inner rest _ ih => simp only [append, trees, ih, List.cons_append]

end Forest

/-! ## Foresight -/

inductive Foreseen where
  | matched (forest : Forest) (used : Nat)
  | mismatch
  | unknown
  deriving DecidableEq

def Foreseen.after (f : Forest) (k : Nat) : Foreseen → Foreseen
  | .matched g l => .matched (f.append g) (k + l)
  | o => o

def foreseePick (attempt : Rule → Foreseen) (f : Forest) (k : Nat) : List (Kind × Rule) → Foreseen
  | [] => .mismatch
  | (kind, r) :: more =>
    match attempt r with
    | .mismatch => foreseePick attempt f k more
    | .matched g l => .matched (.node kind (f.append g) .nil) (k + l)
    | .unknown => .unknown

def Rule.foresee (g : Symbol → Rule) : Nat → Rule → Nat → List Look → Foreseen
  | 0, _, _, _ => .unknown
  | fuel + 1, rule, i, ls =>
    match rule with
    | .token p =>
      match ls with
      | [] => .unknown
      | l :: _ =>
        match l.accepts? p with
        | some true => .matched (.leaf i .nil) 1
        | some false => .mismatch
        | none => .unknown
    | .seq [] => .matched .nil 0
    | .seq (r :: more) =>
      match foresee g fuel r i ls with
      | .matched f k => (foresee g fuel (.seq more) (i + k) (ls.drop k)).after f k
      | o => o
    | .first [] => .mismatch
    | .first (r :: more) =>
      match foresee g fuel r i ls with
      | .mismatch => foresee g fuel (.first more) i ls
      | o => o
    | .many r =>
      match foresee g fuel r i ls with
      | .matched f k => if 0 < k then (foresee g fuel (.many r) (i + k) (ls.drop k)).after f k else .matched f 0
      | .mismatch => .matched .nil 0
      | .unknown => .unknown
    | .ahead r =>
      match foresee g fuel r i ls with
      | .matched _ _ => .matched .nil 0
      | o => o
    | .never r =>
      match foresee g fuel r i ls with
      | .matched _ _ => .mismatch
      | .mismatch => .matched .nil 0
      | .unknown => .unknown
    | .node kind r =>
      match foresee g fuel r i ls with
      | .matched f k => .matched (.node kind f .nil) k
      | o => o
    | .headed head tails =>
      match foresee g fuel head i ls with
      | .matched f k => foreseePick (fun r => foresee g fuel r (i + k) (ls.drop k)) f k tails
      | o => o
    | .ref s => foresee g fuel (g s) i ls

/-! ## Runs -/

theorem Sees.drop {ls : List Look} {ts : List Token} (h : Sees ls ts) {k : Nat} (hk : k ≤ ts.length) :
    Sees (ls.drop k) (ts.drop k) := by
  induction k generalizing ls ts with
  | zero => exact h
  | succ k ih =>
    cases ts with
    | nil => simp at hk
    | cons t ts =>
      cases ls with
      | nil => trivial
      | cons l ls =>
        rw [List.drop_succ_cons, List.drop_succ_cons]
        cases l with
        | ending => cases h
        | _ => exact ih h.2 (by simpa using hk)

/-- An outcome is as foreseen, for the tokens of a source from a place on. -/
def Foreseen.Holds (ts : List Token) (i : Nat) (o : Outcome) : Foreseen → Prop
  | .matched f k => i + k ≤ ts.length ∧ o = .matched (f.trees ts) (ts.drop (i + k))
  | .mismatch => o = .mismatch
  | .unknown => True

variable {ts : List Token}

theorem Foreseen.Holds.after {i k : Nat} {f : Forest} {o : Outcome} {p : Foreseen} (h : p.Holds ts (i + k) o) :
    (p.after f k).Holds ts i (o.after (f.trees ts)) := by
  cases p with
  | matched g l =>
    obtain ⟨hle, rfl⟩ := h
    exact ⟨by omega, by simp only [Outcome.after, Forest.trees_append, Nat.add_assoc]⟩
  | mismatch =>
    obtain rfl := h
    rfl
  | unknown => trivial

theorem foreseePick_holds {i k : Nat} {f : Forest} {attempt : Rule → Outcome} {foreseen : Rule → Foreseen}
    (h : ∀ r, (foreseen r).Holds ts (i + k) (attempt r)) (tails : List (Kind × Rule)) :
    (foreseePick foreseen f k tails).Holds ts i (pick attempt (f.trees ts) tails) := by
  induction tails with
  | nil => rfl
  | cons p tails ih =>
    obtain ⟨kind, r⟩ := p
    have hr := h r
    rw [foreseePick, pick]
    cases hp : foreseen r with
    | matched g l =>
      rw [hp] at hr
      obtain ⟨hle, ho⟩ := hr
      simp only [ho, Outcome.gathered]
      refine ⟨by omega, ?_⟩
      rw [Forest.trees, Forest.trees, Forest.trees_append, Nat.add_assoc]
    | mismatch =>
      rw [hp] at hr
      have ho : attempt r = .mismatch := hr
      simp only [ho]
      exact ih
    | unknown => trivial

theorem foresee_token {i : Nat} {ls : List Look} (hs : Sees ls (ts.drop i)) (p : Pattern) (n m : Nat) :
    (Rule.foresee grammar (n + 1) (.token p) i ls).Holds ts i (Rule.run grammar (m + 1) (.token p) (ts.drop i)) := by
  cases ls with
  | nil => trivial
  | cons l ls =>
    rw [Rule.foresee]
    cases hb : l.accepts? p with
    | none => trivial
    | some b =>
      cases hd : ts.drop i with
      | nil =>
        -- only where no token is seen may there be none
        have hl : l = .ending := by
          rw [hd] at hs
          cases l with
          | ending => rfl
          | _ => exact absurd hs id
        subst hl
        obtain rfl := Option.some.inj hb
        rfl
      | cons t rest =>
        have hl : l.Fits t.kind t.text := by
          rw [hd] at hs
          cases l with
          | ending => cases hs
          | _ => exact hs.1
        have hlt : i < ts.length := by
          rw [← Nat.not_le]
          intro hle
          rw [List.drop_eq_nil_of_le hle] at hd
          cases hd
        rw [Rule.run, Look.accepts_of_look hl hb]
        cases b with
        | false => rfl
        | true =>
          have hrest : ts.drop (i + 1) = rest := by rw [← List.drop_drop, hd]; rfl
          have hget : ts.getD i ⟨[], .word, ""⟩ = t := by
            rw [List.getD_eq_getElem?_getD, ← List.head?_drop, hd]
            rfl
          refine ⟨hlt, ?_⟩
          rw [hrest, Forest.trees, Forest.trees, hget]
          rfl

/-- A run on tokens of these looks goes as foreseen. -/
theorem foresee_holds (n : Nat) : ∀ {m : Nat}, n ≤ m → ∀ (r : Rule) {i : Nat} {ls : List Look}, i ≤ ts.length →
    Sees ls (ts.drop i) → (Rule.foresee grammar n r i ls).Holds ts i (Rule.run grammar m r (ts.drop i)) := by
  induction n with
  | zero => intros; trivial
  | succ n ih =>
    intro m hm r i ls hi hs
    obtain ⟨m, rfl⟩ : ∃ m', m = m' + 1 := ⟨m - 1, by omega⟩
    have hm : n ≤ m := by omega
    -- what is left after a match is seen through the looks that are left
    have step : ∀ {r f k}, Rule.foresee grammar n r i ls = .matched f k →
        i + k ≤ ts.length ∧ Rule.run grammar m r (ts.drop i) = .matched (f.trees ts) (ts.drop (i + k)) ∧
          Sees (ls.drop k) (ts.drop (i + k)) := by
      intro r f k hr
      have h := ih hm r hi hs
      rw [hr] at h
      refine ⟨h.1, h.2, ?_⟩
      have hle := h.1
      rw [← List.drop_drop]
      exact hs.drop (by rw [List.length_drop]; omega)
    have fails : ∀ {r}, Rule.foresee grammar n r i ls = .mismatch → Rule.run grammar m r (ts.drop i) = .mismatch := by
      intro r hr
      have h := ih hm r hi hs
      rw [hr] at h
      exact h
    cases r with
    | token p => exact foresee_token hs p n m
    | seq parts =>
      cases parts with
      | nil => exact ⟨hi, by rw [Rule.run]; rfl⟩
      | cons r more =>
        rw [Rule.foresee, Rule.run]
        cases hr : Rule.foresee grammar n r i ls with
        | matched f k =>
          obtain ⟨hle, hrun, hsees⟩ := step hr
          rw [hrun]
          exact (ih hm (.seq more) hle hsees).after
        | mismatch => rw [fails hr]; rfl
        | unknown => trivial
    | first choices =>
      cases choices with
      | nil => rfl
      | cons r more =>
        rw [Rule.foresee, Rule.run]
        cases hr : Rule.foresee grammar n r i ls with
        | matched f k =>
          obtain ⟨hle, hrun, -⟩ := step hr
          rw [hrun]
          exact ⟨hle, rfl⟩
        | mismatch => rw [fails hr]; exact ih hm (.first more) hi hs
        | unknown => trivial
    | many r =>
      rw [Rule.foresee, Rule.run]
      cases hr : Rule.foresee grammar n r i ls with
      | matched f k =>
        obtain ⟨hle, hrun, hsees⟩ := step hr
        rw [hrun]
        by_cases hk : 0 < k
        · have hlt : (ts.drop (i + k)).length < (ts.drop i).length := by
            rw [List.length_drop, List.length_drop]
            omega
          simp only [hk, hlt, if_true]
          exact (ih hm (.many r) hle hsees).after
        · obtain rfl : k = 0 := by omega
          simp only [Nat.lt_irrefl, if_false, Nat.add_zero]
          exact ⟨hi, rfl⟩
      | mismatch => rw [fails hr]; exact ⟨hi, rfl⟩
      | unknown => trivial
    | ahead r =>
      rw [Rule.foresee, Rule.run]
      cases hr : Rule.foresee grammar n r i ls with
      | matched f k => rw [(step hr).2.1]; exact ⟨hi, rfl⟩
      | mismatch => rw [fails hr]; rfl
      | unknown => trivial
    | never r =>
      rw [Rule.foresee, Rule.run]
      cases hr : Rule.foresee grammar n r i ls with
      | matched f k => rw [(step hr).2.1]; rfl
      | mismatch => rw [fails hr]; exact ⟨hi, rfl⟩
      | unknown => trivial
    | node kind r =>
      rw [Rule.foresee, Rule.run]
      cases hr : Rule.foresee grammar n r i ls with
      | matched f k =>
        obtain ⟨hle, hrun, -⟩ := step hr
        rw [hrun]
        exact ⟨hle, rfl⟩
      | mismatch => rw [fails hr]; rfl
      | unknown => trivial
    | headed head tails =>
      rw [Rule.foresee, Rule.run]
      cases hr : Rule.foresee grammar n head i ls with
      | matched f k =>
        obtain ⟨hle, hrun, hsees⟩ := step hr
        rw [hrun]
        exact foreseePick_holds (fun r => ih hm r hle hsees) tails
      | mismatch => rw [fails hr]; rfl
      | unknown => trivial
    | ref s => rw [Rule.foresee, Rule.run]; exact ih hm (grammar s) hi hs

def sight : Nat := 200

def foresee (r : Rule) (ls : List Look) : Foreseen := Rule.foresee grammar sight r 0 ls

theorem takes_of_foresee {r : Rule} {ls : List Look} {f : Forest} {k : Nat} (h : foresee r ls = .matched f k)
    (hs : Sees ls ts) : Takes sight r ts (f.trees ts) (ts.drop k) where
  le := by rw [List.length_drop]; omega
  run n hn := by
    have hr := @foresee_holds ts sight n (by omega) r 0 ls (Nat.zero_le _) hs
    rw [show Rule.foresee grammar sight r 0 ls = _ from h] at hr
    rw [← Nat.zero_add k]
    exact hr.2

theorem refuses_of_foresee {r : Rule} {ls : List Look} (h : foresee r ls = .mismatch) (hs : Sees ls ts) :
    Refuses sight r ts := by
  intro n hn
  have hr := @foresee_holds ts sight n hn r 0 ls (Nat.zero_le _) hs
  rw [show Rule.foresee grammar sight r 0 ls = _ from h] at hr
  exact hr

end Typewright.Source
