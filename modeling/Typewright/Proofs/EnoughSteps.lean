import Typewright.Proofs.Matching

/-!
The steps that a source is given are enough to read it. Rules are run with a number of steps, since a rule may refer to
others and these back to it, and a run that has none left is starved, which would say nothing about the source.

No rule comes back to itself before it has taken a token. So how far the rules nest in front of the next token can be read
off them (`Rule.depth`), with a bound for each symbol that is checked against its rule (`Symbol.depth`, `grammar_depth`).
Whether a rule takes a token when it matches can be read off them too (`Rule.takesToken`, `run_length_lt`). A token that is
taken pays for a stride of what follows (`run_pays`), and a run with a stride for each token and the depth of its rule finds
an answer, a match or a mismatch (`run_answers`). The induction is on the steps, with one case for each kind of rule: each
part of a sequence has less depth than the whole or has a token paid before it.

Proved:
- `stepsFor_answers`: the steps a source is given by its length are never too few.
- `treesOf?_eq_some_iff`: so steps play no part in what is read. There are trees exactly if some number of steps finds them.
-/

namespace Typewright.Source

/-! ## Tokens taken -/

namespace Rule

mutual

/-- Every match of the rule takes a token. References are taken on trust (`grammar_takesToken`). -/
def takesToken : Rule → Bool
  | .token _ | .ref _ => true
  | .seq rs => someTakeToken rs
  | .first rs => allTakeToken rs
  | .many _ | .ahead _ | .never _ => false
  | .node _ r => r.takesToken
  | .headed head tails => head.takesToken || tailsTakeToken tails

def someTakeToken : List Rule → Bool
  | [] => false
  | r :: rs => r.takesToken || someTakeToken rs

def allTakeToken : List Rule → Bool
  | [] => true
  | r :: rs => r.takesToken && allTakeToken rs

def tailsTakeToken : List (Kind × Rule) → Bool
  | [] => true
  | (_, r) :: tails => r.takesToken && tailsTakeToken tails

end

theorem tailsTakeToken_mem {kind : Kind} {r : Rule} {tails : List (Kind × Rule)} (h : tailsTakeToken tails = true)
    (hm : (kind, r) ∈ tails) : r.takesToken = true := by
  induction tails with
  | nil => cases hm
  | cons p tails ih =>
    obtain ⟨k, r'⟩ := p
    rw [tailsTakeToken, Bool.and_eq_true] at h
    rcases List.mem_cons.mp hm with hm | hm
    · cases hm
      exact h.1
    · exact ih h.2 hm

end Rule

theorem grammar_takesToken (s : Symbol) : (grammar s).takesToken = true := by cases s <;> decide +kernel

variable {r : Rule} {ts rest : List Token} {trees : List Tree}

theorem run_length_le {n : Nat} (h : Rule.run grammar n r ts = .matched trees rest) : rest.length ≤ ts.length := by
  rw [run_tokens n h, List.length_append]
  omega

theorem run_length_lt (n : Nat) : ∀ {r : Rule} {ts rest : List Token} {trees : List Tree}, r.takesToken = true →
    Rule.run grammar n r ts = .matched trees rest → rest.length < ts.length := by
  induction n with
  | zero => intro r ts rest trees _ h; cases h
  | succ n ih =>
    intro r ts rest trees hr h
    cases r with
    | token p =>
      cases ts with
      | nil => cases h
      | cons t ts =>
        rw [Rule.run] at h
        split at h
        · cases h
          simp
        · cases h
    | seq parts =>
      cases parts with
      | nil => cases hr
      | cons r more =>
        rw [Rule.takesToken, Rule.someTakeToken, Bool.or_eq_true] at hr
        rw [Rule.run] at h
        split at h
        · rename_i a mid ha
          obtain ⟨b, hb, rfl⟩ := Outcome.after_matched h
          have hmid := run_length_le ha
          have hrest := run_length_le hb
          rcases hr with hr | hr
          · have := ih hr ha
            omega
          · have := ih (r := .seq more) hr hb
            omega
        · exact absurd h (by rename_i hm; exact hm _ _)
    | first choices =>
      cases choices with
      | nil => cases h
      | cons r more =>
        rw [Rule.takesToken, Rule.allTakeToken, Bool.and_eq_true] at hr
        rw [Rule.run] at h
        split at h
        · exact ih (r := .first more) hr.2 h
        · exact ih hr.1 h
    | many r | ahead r | never r => cases hr
    | node kind r =>
      rw [Rule.run] at h
      obtain ⟨b, hb, -⟩ := Outcome.gathered_matched h
      exact ih (by rwa [Rule.takesToken] at hr) hb
    | headed head tails =>
      rw [Rule.takesToken, Bool.or_eq_true] at hr
      rw [Rule.run] at h
      split at h
      · rename_i a mid ha
        obtain ⟨kind, r, b, hm, hb, -⟩ := pick_matched h
        have hmid := run_length_le ha
        have hrest := run_length_le hb
        rcases hr with hr | hr
        · have := ih hr ha
          omega
        · have := ih (Rule.tailsTakeToken_mem hr hm) hb
          omega
      · exact absurd h (by rename_i hm; exact hm _ _)
    | ref s =>
      rw [Rule.run] at h
      exact ih (grammar_takesToken s) h

/-! ## Depth -/

/-- How far the rules behind a symbol nest in front of the next token, at most. -/
def Symbol.depth : Symbol → Nat
  | .type | .functionBody => 20
  | .parameter => 30
  | .operand => 40
  | .expression | .member => 45
  | .pattern => 60
  | .statement => 80
  | .topItem => 95
  | _ => 10

namespace Rule

/-- The steps that a match of the rule is sure to have paid for. -/
def pay (r : Rule) : Nat := if r.takesToken then stride else 0

mutual

/-- The steps that a rule needs besides those that its tokens pay for. -/
def depth : Rule → Nat
  | .token _ => 1
  | .seq rs => seqDepth rs
  | .first rs => firstDepth rs
  | .many r | .ahead r | .never r | .node _ r => r.depth + 1
  | .headed head tails => max head.depth (tailsDepth tails - head.pay) + 1
  | .ref s => s.depth + 1

def seqDepth : List Rule → Nat
  | [] => 1
  | r :: rs => max r.depth (seqDepth rs - r.pay) + 1

def firstDepth : List Rule → Nat
  | [] => 1
  | r :: rs => max r.depth (firstDepth rs) + 1

def tailsDepth : List (Kind × Rule) → Nat
  | [] => 0
  | (_, r) :: tails => max r.depth (tailsDepth tails)

end

theorem depth_pos (r : Rule) : 0 < r.depth := by
  cases r with
  | seq parts => cases parts <;> simp [depth, seqDepth]
  | first choices => cases choices <;> simp [depth, firstDepth]
  | _ => simp [depth]

theorem tailsDepth_mem {kind : Kind} {r : Rule} {tails : List (Kind × Rule)} (hm : (kind, r) ∈ tails) :
    r.depth ≤ tailsDepth tails := by
  induction tails with
  | nil => cases hm
  | cons p tails ih =>
    obtain ⟨k, r'⟩ := p
    rw [tailsDepth]
    rcases List.mem_cons.mp hm with hm | hm
    · cases hm
      omega
    · have := ih hm
      omega

end Rule

theorem grammar_depth (s : Symbol) : (grammar s).depth ≤ s.depth := by cases s <;> decide +kernel

/-- What a match has taken pays for the steps that come after it. -/
theorem run_pays {n : Nat} (h : Rule.run grammar n r ts = .matched trees rest) :
    stride * rest.length + r.pay ≤ stride * ts.length := by
  unfold Rule.pay stride
  split
  · rename_i hr
    have := run_length_lt n hr h
    omega
  · have := run_length_le h
    omega

/-! ## Answers -/

theorem Outcome.after_ne_starved {o : Outcome} (h : o ≠ .starved) (trees : List Tree) : o.after trees ≠ .starved := by
  cases o with
  | matched | mismatch => simp [Outcome.after]
  | starved => exact absurd rfl h

theorem Outcome.gathered_ne_starved {o : Outcome} (h : o ≠ .starved) (kind : Kind) (trees : List Tree) :
    o.gathered kind trees ≠ .starved := by
  cases o with
  | matched | mismatch => simp [Outcome.gathered]
  | starved => exact absurd rfl h

theorem pick_ne_starved {attempt : Rule → Outcome} {tails : List (Kind × Rule)}
    (h : ∀ kind r, (kind, r) ∈ tails → attempt r ≠ .starved) (trees : List Tree) : pick attempt trees tails ≠ .starved := by
  induction tails with
  | nil => simp [pick]
  | cons p tails ih =>
    obtain ⟨kind, r⟩ := p
    rw [pick]
    split
    · exact ih fun k r' hm => h k r' (List.mem_cons_of_mem _ hm)
    · exact Outcome.gathered_ne_starved (h kind r List.mem_cons_self) kind trees

/-- A stride for each token and the depth of the rule are enough steps for an answer. -/
theorem run_answers (n : Nat) : ∀ {r : Rule} {ts : List Token}, stride * ts.length + r.depth ≤ n →
    Rule.run grammar n r ts ≠ .starved := by
  induction n with
  | zero =>
    intro r ts hn
    have := r.depth_pos
    omega
  | succ n ih =>
    intro r ts hn
    cases r with
    | token p =>
      cases ts with
      | nil => simp [Rule.run]
      | cons t ts =>
        rw [Rule.run]
        split <;> simp
    | seq parts =>
      cases parts with
      | nil => simp [Rule.run]
      | cons r more =>
        rw [Rule.depth, Rule.seqDepth] at hn
        have hr : Rule.run grammar n r ts ≠ .starved := ih (by omega)
        rw [Rule.run]
        split
        · rename_i a mid ha
          have hpay := run_pays ha
          exact Outcome.after_ne_starved (ih (r := .seq more) (by rw [Rule.depth]; omega)) a
        · exact hr
    | first choices =>
      cases choices with
      | nil => simp [Rule.run]
      | cons r more =>
        rw [Rule.depth, Rule.firstDepth] at hn
        have hr : Rule.run grammar n r ts ≠ .starved := ih (by omega)
        rw [Rule.run]
        split
        · exact ih (r := .first more) (by rw [Rule.depth]; omega)
        · exact hr
    | many r =>
      have hdepth : (Rule.many r).depth = r.depth + 1 := by rw [Rule.depth]
      have hr : Rule.run grammar n r ts ≠ .starved := ih (by omega)
      rw [Rule.run]
      split
      · rename_i a mid ha
        split
        · rename_i hlt
          -- A round that has taken a token pays for the next one, so that rounds cost no more than one of them.
          have hround : stride * mid.length + stride ≤ stride * ts.length := by unfold stride; omega
          have hstride : 0 < stride := by decide
          exact Outcome.after_ne_starved (ih (by omega)) a
        · simp
      · simp
      · rename_i hs
        exact absurd hs hr
    | ahead r =>
      rw [Rule.depth] at hn
      have hr : Rule.run grammar n r ts ≠ .starved := ih (by omega)
      rw [Rule.run]
      split
      · simp
      · exact hr
    | never r =>
      rw [Rule.depth] at hn
      have hr : Rule.run grammar n r ts ≠ .starved := ih (by omega)
      rw [Rule.run]
      split
      · simp
      · simp
      · rename_i hs
        exact absurd hs hr
    | node kind r =>
      rw [Rule.depth] at hn
      rw [Rule.run]
      exact Outcome.gathered_ne_starved (ih (by omega)) kind []
    | headed head tails =>
      rw [Rule.depth] at hn
      have hhead : Rule.run grammar n head ts ≠ .starved := ih (by omega)
      rw [Rule.run]
      split
      · rename_i a mid ha
        have hpay := run_pays ha
        refine pick_ne_starved (fun kind r hm => ?_) a
        have hr := Rule.tailsDepth_mem hm
        exact ih (by omega)
      · exact hhead
    | ref s =>
      have := grammar_depth s
      rw [Rule.depth] at hn
      rw [Rule.run]
      exact ih (by omega)

/-- The steps for a file are enough, however many tokens it has. -/
theorem stepsFor_answers (ts : List Token) : Rule.run grammar (stepsFor ts) (.many (.ref .topItem)) ts ≠ .starved := by
  have hdepth : (Rule.many (.ref .topItem)).depth ≤ stride := by decide
  refine run_answers _ ?_
  unfold stride at hdepth ⊢
  unfold stepsFor
  omega

/-- A file has the trees that any number of steps finds, and none if no number of them does. -/
theorem treesOf?_eq_some_iff (ts : List Token) (trees : List Tree) :
    treesOf? ts = some trees ↔ ∃ n, Rule.run grammar n (.many (.ref .topItem)) ts = .matched trees [] := by
  constructor
  · intro h
    unfold treesOf? at h
    split at h
    · rename_i hrun
      cases h
      exact ⟨stepsFor ts, hrun⟩
    · cases h
  · rintro ⟨n, hn⟩
    -- Both numbers of steps have an answer, and keep it at the greater one.
    have hmore := Rule.run_of_le (Nat.le_max_left n (stepsFor ts)) _ ts (by rw [hn]; simp)
    have henough := Rule.run_of_le (Nat.le_max_right n (stepsFor ts)) _ ts (stepsFor_answers ts)
    rw [treesOf?, ← henough, hmore, hn]

end Typewright.Source
