import Typewright.Source.Rule

/-!
Fuel in the matching of rules. An answer that was found, a match or a mismatch, stays the same with more fuel
(`Rule.run_succ`, `Rule.run_of_le`): fuel only decides whether there is an answer. It holds for any grammar.

The induction is on the fuel, with one case for each kind of rule. In each, the parts that were run found an answer, because
the whole did, and so they find the same one; a choice goes through its alternatives in the same way for both
(`pick_congr`).
-/

namespace Typewright.Source

/-- Attempts that agree wherever the first finds an answer pick the same continuation. -/
theorem pick_congr {f g : Rule → Outcome} (h : ∀ r, f r ≠ .starved → g r = f r) (trees : List Tree) :
    ∀ tails, pick f trees tails ≠ .starved → pick g trees tails = pick f trees tails
  | [], _ => rfl
  | (kind, r) :: more, hs => by
    have hr : f r ≠ .starved := by
      intro e
      simp [pick, e, Outcome.gathered] at hs
    have hg := h r hr
    cases e : f r with
    | matched ts rest => simp [pick, hg, e]
    | mismatch =>
      simp only [pick, e] at hs
      simp only [pick, hg, e]
      exact pick_congr h trees more hs
    | starved => exact absurd e hr

theorem Rule.run_succ (g : Symbol → Rule) (n : Nat) : ∀ (r : Rule) (ts : List Token),
    Rule.run g n r ts ≠ .starved → Rule.run g (n + 1) r ts = Rule.run g n r ts := by
  induction n with
  | zero => intro r ts h; exact absurd rfl h
  | succ n ih =>
    intro r ts h
    cases r with
    | token p => cases ts <;> simp [Rule.run]
    | seq parts =>
      cases parts with
      | nil => simp [Rule.run]
      | cons r more =>
        have hr : Rule.run g n r ts ≠ .starved := by
          intro e; simp [Rule.run, e] at h
        rw [Rule.run, Rule.run, ih r ts hr]
        cases e : Rule.run g n r ts with
        | matched trees rest =>
          have hm : Rule.run g n (.seq more) rest ≠ .starved := by
            intro e'; simp [Rule.run, e, e', Outcome.after] at h
          simp only [ih (.seq more) rest hm]
        | mismatch => rfl
        | starved => rfl
    | first choices =>
      cases choices with
      | nil => simp [Rule.run]
      | cons r more =>
        have hr : Rule.run g n r ts ≠ .starved := by
          intro e; simp [Rule.run, e] at h
        rw [Rule.run, Rule.run, ih r ts hr]
        cases e : Rule.run g n r ts with
        | matched trees rest => rfl
        | mismatch =>
          have hm : Rule.run g n (.first more) ts ≠ .starved := by
            intro e'; simp [Rule.run, e, e'] at h
          simp only [ih (.first more) ts hm]
        | starved => rfl
    | many r =>
      have hr : Rule.run g n r ts ≠ .starved := by
        intro e; simp [Rule.run, e] at h
      rw [Rule.run, Rule.run, ih r ts hr]
      cases e : Rule.run g n r ts with
      | matched trees rest =>
        by_cases hl : rest.length < ts.length
        · have hm : Rule.run g n (.many r) rest ≠ .starved := by
            intro e'; simp [Rule.run, e, hl, e', Outcome.after] at h
          simp only [hl, if_true, ih (.many r) rest hm]
        · simp [hl]
      | mismatch => rfl
      | starved => rfl
    | ahead r =>
      have hr : Rule.run g n r ts ≠ .starved := by
        intro e; simp [Rule.run, e] at h
      rw [Rule.run, Rule.run, ih r ts hr]
    | never r =>
      have hr : Rule.run g n r ts ≠ .starved := by
        intro e; simp [Rule.run, e] at h
      rw [Rule.run, Rule.run, ih r ts hr]
    | node kind r =>
      have hr : Rule.run g n r ts ≠ .starved := by
        intro e; simp [Rule.run, e, Outcome.gathered] at h
      rw [Rule.run, Rule.run, ih r ts hr]
    | headed head tails =>
      have hr : Rule.run g n head ts ≠ .starved := by
        intro e; simp [Rule.run, e] at h
      rw [Rule.run, Rule.run, ih head ts hr]
      cases e : Rule.run g n head ts with
      | matched trees rest =>
        have hp : pick (fun r => Rule.run g n r rest) trees tails ≠ .starved := by
          simpa [Rule.run, e] using h
        exact pick_congr (fun r hs => ih r rest hs) trees tails hp
      | mismatch => rfl
      | starved => rfl
    | ref s =>
      have hr : Rule.run g n (g s) ts ≠ .starved := by
        intro e; simp [Rule.run, e] at h
      rw [Rule.run, Rule.run, ih (g s) ts hr]

/-- More fuel keeps an answer that was found. -/
theorem Rule.run_of_le {g : Symbol → Rule} {n m : Nat} (h : n ≤ m) (r : Rule) (ts : List Token)
    (hs : Rule.run g n r ts ≠ .starved) : Rule.run g m r ts = Rule.run g n r ts := by
  induction h with
  | refl => rfl
  | step _ ih => rw [Rule.run_succ g _ r ts (by rw [ih]; exact hs), ih]

end Typewright.Source
