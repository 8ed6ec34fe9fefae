import Mathlib.Combinatorics.Enumerative.DyckWord
import Typewright.Proofs.ValueTexts

/-!
Texts whose braces balance.

A text is `Balanced` when its braces, all else left out (`bracesOf`), make a Dyck word. Reading it is a climb: an opening
brace leads up, a closing one leads down, and none may close what is not open. The climb from one height to another
(`Climbs`) is what proofs work with, since heights add up where texts are joined, while balance of the parts is neither
needed nor enough.
- `balanced_iff_climbs`: a text is balanced exactly when its climb leads from the ground back to the ground.
- `Balanced.climbs`: a balanced text leads back to the height it starts at, whatever that is. So it may be put anywhere into
  another one.
- `climbs_framed`: text around lines that are balanced only together is balanced when each of its own parts is.

A value is written as balanced text when all texts in it are balanced. Quoting makes no brace and loses none
(`bracesOf_quoted`): the characters that it escapes are none, and escapes are spelled with letters and digits. So balance is
inherited by what is put together from texts (`balanced_inherited`), by a value in writing (`balanced_shown`) and by an
indent that is taken several times (`balanced_repeated`).
-/

namespace Typewright

open DyckStep

/-! ## Braces -/

def brace? (c : Char) : Option DyckStep :=
  if c = '\x7b' then some U else if c = '\x7d' then some D else none

def bracesOf (s : String) : List DyckStep := s.toList.filterMap brace?

def Balanced (s : String) : Prop := ∃ w : DyckWord, w.toList = bracesOf s

/-- The height after braces, from a height on; none when a brace closes nothing. -/
def climb : Nat → List DyckStep → Option Nat
  | n, [] => some n
  | n, U :: rest => climb (n + 1) rest
  | 0, D :: _ => none
  | n + 1, D :: rest => climb n rest

theorem climb_append (n : Nat) (a b : List DyckStep) : climb n (a ++ b) = (climb n a).bind (climb · b) := by
  fun_induction climb n a with
  | case1 => rfl
  | case2 n rest ih => exact ih
  | case3 => rfl
  | case4 n rest ih => exact ih

/-- A climb arrives when no part of it closes more than is open, at the height that the counts give. -/
theorem climb_eq_some_iff {n m : Nat} {w : List DyckStep} :
    climb n w = some m ↔ (∀ i, (w.take i).count D ≤ n + (w.take i).count U) ∧ n + w.count U = m + w.count D := by
  induction w generalizing n with
  | nil => simp [climb]
  | cons b rest ih =>
    -- Nothing is asked of the empty part; the others begin with `b`.
    have parts : (∀ i, ((b :: rest).take i).count D ≤ n + ((b :: rest).take i).count U) ↔
        ∀ i, (b :: rest.take i).count D ≤ n + (b :: rest.take i).count U :=
      ⟨fun h i => h (i + 1), fun h i => by cases i with | zero => simp | succ i => exact h i⟩
    rw [parts]
    cases b with
    | U =>
      rw [climb, ih]
      simp only [List.count_cons_self, List.count_cons_of_ne (show U ≠ D by decide)]
      constructor <;> rintro ⟨h, he⟩ <;> exact ⟨fun i => by have := h i; omega, by omega⟩
    | D =>
      simp only [List.count_cons_self, List.count_cons_of_ne (show D ≠ U by decide)]
      cases n with
      | zero =>
        refine ⟨(by intro h; cases h), fun h => ?_⟩
        have := h.1 0
        simp at this
      | succ n =>
        rw [climb, ih]
        constructor <;> rintro ⟨h, he⟩ <;> exact ⟨fun i => by have := h i; omega, by omega⟩

theorem climb_lift {n m : Nat} {w : List DyckStep} (h : climb n w = some m) (k : Nat) : climb (n + k) w = some (m + k) := by
  rw [climb_eq_some_iff] at h ⊢
  exact ⟨fun i => by have := h.1 i; omega, by omega⟩

def Climbs (s : String) (n m : Nat) : Prop := climb n (bracesOf s) = some m

instance (s : String) (n m : Nat) : Decidable (Climbs s n m) :=
  inferInstanceAs (Decidable (climb n (bracesOf s) = some m))

theorem balanced_iff_climbs {s : String} : Balanced s ↔ Climbs s 0 0 := by
  rw [Climbs, climb_eq_some_iff]
  constructor
  · rintro ⟨w, hw⟩
    rw [← hw, w.count_U_eq_count_D]
    exact ⟨fun i => by simpa using w.count_D_le_count_U i, rfl⟩
  · rintro ⟨h, he⟩
    exact ⟨⟨bracesOf s, by simpa using he, fun i => by simpa using h i⟩, rfl⟩

instance : DecidablePred Balanced := fun s =>
  decidable_of_iff (Climbs s 0 0) balanced_iff_climbs.symm

theorem climbs_append {s t : String} {n m : Nat} : Climbs (s ++ t) n m ↔ ∃ k, Climbs s n k ∧ Climbs t k m := by
  simp [Climbs, bracesOf, climb_append, Option.bind_eq_some_iff]

namespace Balanced

/-- A balanced text leads back to where it starts, whatever is open there. -/
theorem climbs {s : String} (h : Balanced s) (n : Nat) : Climbs s n n := by
  have := climb_lift (balanced_iff_climbs.mp h) n
  rwa [Nat.zero_add] at this

theorem of_no_braces {s : String} (h : ∀ c ∈ s.toList, brace? c = none) : Balanced s :=
  ⟨0, (List.filterMap_eq_nil_iff.mpr h).symm⟩

@[simp] theorem empty : Balanced "" := .of_no_braces (by simp)

theorem append {s t : String} (hs : Balanced s) (ht : Balanced t) : Balanced (s ++ t) :=
  balanced_iff_climbs.mpr (climbs_append.mpr ⟨0, hs.climbs 0, ht.climbs 0⟩)

/-- Braces around a balanced text, with balanced texts beside them. -/
theorem block {a b s c d : String} (ha : Balanced a) (hb : Balanced b) (hs : Balanced s) (hc : Balanced c) (hd : Balanced d) :
    Balanced ((a ++ "\x7b" ++ b) ++ s ++ (c ++ "\x7d" ++ d)) := by
  have hopen : Climbs "\x7b" 0 1 := by decide
  have hclose : Climbs "\x7d" 1 0 := by decide
  simp only [balanced_iff_climbs, climbs_append]
  exact ⟨1, ⟨1, ⟨1, ⟨0, ha.climbs 0, hopen⟩, hb.climbs 1⟩, hs.climbs 1⟩, 0, ⟨1, hc.climbs 1, hclose⟩, hd.climbs 0⟩

end Balanced

/-- Balanced texts put around the lines of a text change nothing, also when the lines are balanced only together. -/
theorem climbs_framed {before after : String} (hb : Balanced before) (ha : Balanced after) {lines : List String} {n m : Nat}
    (h : Climbs (String.join lines) n m) : Climbs (String.join (lines.map fun l => before ++ l ++ after)) n m := by
  induction lines generalizing n with
  | nil => exact h
  | cons l rest ih =>
    rw [String.join_cons, climbs_append] at h
    obtain ⟨k, hl, hrest⟩ := h
    rw [List.map_cons, String.join_cons, climbs_append]
    exact ⟨k, climbs_append.mpr ⟨k, climbs_append.mpr ⟨n, hb.climbs n, hl⟩, ha.climbs k⟩, ih hrest⟩

/-! ## Quoted texts and values -/

/-- A test that braces fail is passed by other characters only. -/
theorem brace_eq_none {p : Char → Bool} (hopen : p '\x7b' = false) (hclose : p '\x7d' = false) {c : Char} (h : p c = true) :
    brace? c = none := by
  have ho : c ≠ '\x7b' := by
    rintro rfl
    rw [h] at hopen
    cases hopen
  have hc : c ≠ '\x7d' := by
    rintro rfl
    rw [h] at hclose
    cases hclose
  rw [brace?, if_neg ho, if_neg hc]

theorem brace_of_plain {c : Char} (h : Text.isPlain c = true) : brace? c = none := brace_eq_none (by decide) (by decide) h

/-- Quoting keeps a brace and makes none. -/
theorem braces_quotedChar {quote : Char} (hq : brace? quote = none) (c : Char) :
    (Text.quotedChar quote c).filterMap brace? = (brace? c).toList := by
  have named : ∀ {x : Char} {cs : List Char}, brace? x = none → (∀ c ∈ cs, brace? c = none) →
      ('\\' :: x :: cs).filterMap brace? = [] := by
    intro x cs hx hcs
    refine List.filterMap_eq_nil_iff.mpr (List.forall_mem_cons.mpr ⟨by decide, List.forall_mem_cons.mpr ⟨hx, hcs⟩⟩)
  have hex : ∀ width n, ∀ c ∈ Text.hexDigits width n, brace? c = none :=
    fun width n c hc => brace_of_plain (Text.plain_hexDigits width n c hc)
  unfold Text.quotedChar
  split
  · rename_i h
    have hc : brace? c = none := by
      rcases Bool.or_eq_true_iff.mp h with h | h <;> rw [beq_iff_eq.mp h]
      · exact hq
      · decide
    rw [named hc (by simp), hc]
    rfl
  split
  · rename_i h
    rw [beq_iff_eq.mp h]
    decide
  split
  · rename_i h
    rw [beq_iff_eq.mp h]
    decide
  split
  · rename_i h
    rw [beq_iff_eq.mp h]
    decide
  split
  · cases h : brace? c <;> simp [h]
  · rename_i h
    rw [brace_eq_none (p := fun c => !Text.isPrintable c) (by decide) (by decide) (by simpa using h)]
    split
    · exact named (by decide) (hex _ _)
    split
    · exact named (by decide) (hex _ _)
    · exact named (by decide) (hex _ _)

theorem bracesOf_quoted (s : String) : bracesOf (Text.quoted s) = bracesOf s := by
  have hq : brace? (Text.quoteFor s.toList) = none := by
    unfold Text.quoteFor
    split <;> decide
  have hinner : ∀ cs : List Char, (cs.flatMap (Text.quotedChar (Text.quoteFor s.toList))).filterMap brace? =
    cs.filterMap brace? := by
    intro cs
    induction cs with
    | nil => rfl
    | cons c rest ih =>
      rw [List.flatMap_cons, List.filterMap_append, braces_quotedChar hq, ih]
      cases h : brace? c <;> simp [h]
  simp [bracesOf, Text.quoted, hq, hinner]

theorem Balanced.quoted {s : String} (h : Balanced s) : Balanced (Text.quoted s) := by
  rwa [Balanced, bracesOf_quoted]

/-- Balance passes from texts to what is written of them. -/
theorem balanced_inherited : Inherited Balanced where
  plain hs := .of_no_braces fun c hc => brace_of_plain (List.all_eq_true.mp hs c hc)
  append hs ht := hs.append ht
  braced hs := by simpa using Balanced.block .empty .empty hs .empty .empty
  quoted hs := hs.quoted

namespace Json

theorem balanced_shown {v : Json} (h : ∀ s ∈ v.texts, Balanced s) : Balanced v.shown := balanced_inherited.shown h

/-- Taken any number of times, a balanced value stays balanced. -/
theorem balanced_repeated {v : Json} (h : ∀ s ∈ v.texts, Balanced s) {n : Int} {text : String} (hn : v.repeated n = .ok text) :
    Balanced text := balanced_inherited.repeated h hn

end Json

end Typewright
