import Typewright.Declaration.Basic

/-!
Declarations in declarations, to any depth.

`nestedIn` are the declarations directly in one, where a missing collection has none. `Within` follows them down: the
declaration itself, one nested in it, one nested in that, and so on. `Everywhere` says that something holds of a declaration
and of all within it, and is unfolded one level at a time (`everywhere_iff`).

`nested_induction` is the induction that all proofs about nested declarations use: what holds of a declaration as soon as it
holds of those directly in it holds of every declaration.
-/

namespace Typewright.Declaration

def nestedIn (d : Declaration) : List Declaration := d.innerClasses.getD []

/-- What holds of a declaration once it holds of those nested in it holds of all. -/
theorem nested_induction {P : Declaration → Prop} (h : ∀ d : Declaration, (∀ c ∈ d.nestedIn, P c) → P d)
    (d : Declaration) : P d := by
  apply h d
  intro c hc
  have hlt : sizeOf c < sizeOf d := by
    obtain ⟨_, _, _, _, _, _, _, _, _, innerClasses, _, _⟩ := d
    cases innerClasses with
    | none => simp [nestedIn] at hc
    | some cs =>
      have := List.sizeOf_lt_of_mem hc
      simp only [nestedIn, Option.getD_some, Declaration.mk.sizeOf_spec, Option.some.sizeOf_spec] at this ⊢
      omega
  exact nested_induction h c
termination_by sizeOf d

/-- The declaration itself, one nested in it, one nested in that, and so on. -/
inductive Within : Declaration → Declaration → Prop
  | self (d : Declaration) : Within d d
  | nested {c e d : Declaration} : e ∈ d.nestedIn → Within c e → Within c d

def Everywhere (P : Declaration → Prop) (d : Declaration) : Prop := ∀ c, Within c d → P c

theorem everywhere_iff {P : Declaration → Prop} {d : Declaration} :
    Everywhere P d ↔ P d ∧ ∀ c ∈ d.nestedIn, Everywhere P c := by
  constructor
  · intro h
    exact ⟨h d (.self d), fun c hc e he => h e (.nested hc he)⟩
  · rintro ⟨hd, hn⟩ c hc
    cases hc with
    | self => exact hd
    | nested he hw => exact hn _ he c hw

end Typewright.Declaration
