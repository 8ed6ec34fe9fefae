import Typewright.Emitter
import Typewright.Text.Utf8

/-!
Facts about texts, indents and lists of entries that several proofs share.

An indent is a value of the settings, and the emitter takes it as often as the depth says. For a text or a list that is
repetition; a number is multiplied, and null or an object cannot be taken at all. `Repeats v i` says that the value can be
taken any number of times, and that `i n` is what it reads then. It holds of a value or the value is refused, whatever the
depth (`repeats_or_fails`), so proofs about lines go by cases on it once and deal with texts afterwards
(`Emitter.lineAt_repeats`).
-/

namespace Typewright

/-- Taking the entries of one key away leaves what is found under the others. -/
theorem lookup_filter_ne {κ α : Type} [BEq κ] [LawfulBEq κ] {key other : κ} (h : other ≠ key) (entries : List (κ × α)) :
    List.lookup other (entries.filter fun e => e.1 != key) = List.lookup other entries := by
  induction entries with
  | nil => rfl
  | cons e rest ih =>
    obtain ⟨k, v⟩ := e
    by_cases hk : k = key
    · subst hk
      have ho : (other == k) = false := by simpa using h
      simp [List.lookup_cons, ho, ih]
    · simp [hk, List.lookup_cons, ih]

/-- What is found once an entry has taken the place of those with its key. -/
theorem lookup_replaced {κ α : Type} [DecidableEq κ] [BEq κ] [LawfulBEq κ] (key other : κ) (v : α) (entries : List (κ × α)) :
    List.lookup other ((key, v) :: entries.filter fun e => e.1 != key) =
      if other = key then some v else List.lookup other entries := by
  by_cases h : other = key
  · simp [h]
  · have hne : (other == key) = false := by simpa using h
    rw [List.lookup_cons, hne, if_neg h]
    exact lookup_filter_ne h entries

/-- A text without carriage returns reads as it is. -/
theorem Text.unifyLineEnds_eq_self (cs : List Char) (h : '\r' ∉ cs) : unifyLineEnds cs = cs := by
  fun_induction unifyLineEnds cs with
  | case1 => rfl
  | case2 rest ih => simp at h
  | case3 c rest _ ih =>
    simp only [List.mem_cons, not_or] at h
    have hc : (c == '\r') = false := by simpa using fun e => h.1 e.symm
    simp [hc, ih h.2]

/-! ## Indents -/

namespace Json

/-- The value can be repeated: taken `n` times it reads `i n`. -/
def Repeats (v : Json) (i : Int → String) : Prop := ∀ n, v.repeated n = .ok (i n)

theorem repeats_text (u : String) : (Json.text u).Repeats (repeatText u) := fun _ => rfl

/-- A value can be repeated any number of times, or not at all. -/
theorem repeats_or_fails (v : Json) : (∃ i, v.Repeats i) ∨ ∃ m, ∀ n, v.repeated n = .error m := by
  cases v with
  | null => exact .inr ⟨_, fun _ => rfl⟩
  | bool b => exact .inl ⟨_, fun _ => rfl⟩
  | int n => exact .inl ⟨_, fun _ => rfl⟩
  | real x => exact .inl ⟨_, fun _ => rfl⟩
  | text u => exact .inl ⟨_, repeats_text u⟩
  | list items => exact .inl ⟨_, fun _ => rfl⟩
  | object fields => exact .inr ⟨_, fun _ => rfl⟩

end Json

theorem Emitter.lineAt_repeats {e : Emitter} {i : Int → String} (h : e.indent.Repeats i) (depth : Int) (text : String) :
    e.lineAt depth text = .ok { e with lines := e.lines ++ [i depth ++ text] } := by
  rw [Emitter.lineAt, h depth]

end Typewright
