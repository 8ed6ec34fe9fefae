import Typewright.Files.Tree
import Typewright.Proofs.Basic

/-!
Trees of files over time.

A file is written or deleted, and directories are made (`Change`); what the tree refuses leaves it as it was. What changes
can do is said once, and all else is derived from it. `Later t t'` says that `t'` is `t` at a later time:
- the clock does not go back;
- directories stay, since nothing deletes one;
- a file is either as it was or has a stamp that no file had before.

It is an order (`Later.refl`, `Later.trans`), and every change leads to a later tree (`later_change`). Two things follow
that a library of templates relies on. A file with an old stamp is an old file: the same stamp at the same place means the
same content (`Later.old_file`). And a path that leads somewhere leads there ever after (`Later.locate`), so that a template
is looked for in one place, whatever was changed meanwhile.

Stamps are dates of a clock that every write moves on. A tree whose files are none of them newer than its clock is `Dated`,
and trees that are built by changes from the empty one are (`dated_built`).
-/

namespace Typewright.Files

inductive Change where
  | write (p : Path) (c : Content)
  | makeDirectory (p : Path)
  | delete (p : Path)

namespace Tree

def change (t : Tree) : Change → Tree
  | .write p c =>
    match t.write p c with
    | .ok t' => t'
    | .error _ => t
  | .makeDirectory p =>
    match t.locate p with
    | .ok place => if (t.entry? place).isSome then t else t.put place .directory
    | .error _ => t
  | .delete p =>
    match t.locate p with
    | .ok place =>
      match t.entry? place with
      | some (.file _ _) => t.remove ⟨false, place⟩
      | _ => t
    | .error _ => t

def built (changes : List Change) : Tree := changes.foldl change empty

/-! ## Entries -/

theorem entry?_put (t : Tree) {place : List String} (hp : place ≠ []) (e : Entry) (q : List String) :
    entry? (t.put place e) q = if q = place then some e else t.entry? q := by
  -- The root is found without a look at the entries.
  by_cases hq : q = [] <;> simp [put, entry?, lookup_replaced, hq, hp.symm]

theorem entry?_remove (t : Tree) {p : Path} (hp : p.parts ≠ []) (q : List String) :
    entry? (t.remove p) q = if q = p.parts then none else t.entry? q := by
  by_cases hq : q = p.parts
  · have hnone : List.lookup q (t.entries.filter fun f => f.1 != p.parts) = none := by
      rw [List.lookup_eq_none_iff]
      intro f hf
      have hne : f.1 ≠ p.parts := by simpa using (List.mem_filter.mp hf).2
      simpa [hq] using hne.symm
    have hempty : q.isEmpty = false := by simpa [hq] using hp
    rw [if_pos hq, entry?, remove, hempty]
    exact hnone
  · simp [remove, entry?, hq, lookup_filter_ne hq]

/-- Where no directory is, is not the root. -/
theorem place_ne_nil {t : Tree} {place : List String} (h : t.entry? place ≠ some .directory) : place ≠ [] := by
  rintro rfl
  exact h rfl

/-- What writing does, and when. -/
theorem write_eq_ok {t t' : Tree} {p : Path} {c : Content} : t.write p c = .ok t' ↔
    ∃ place, t.locate p = .ok place ∧ t.entry? place ≠ some .directory ∧
      { t.put place (.file c (t.clock + 1)) with clock := t.clock + 1 } = t' := by
  unfold write
  cases t.locate p with
  | error r => simp
  | ok place =>
    simp only [Except.ok.injEq, exists_eq_left', ne_eq]
    split
    · rename_i hp
      simp [hp]
    · rename_i hp
      exact ⟨fun h => ⟨hp, Except.ok.inj h⟩, fun h => congrArg Except.ok h.2⟩

/-! ## What a change can do -/

/-- No file is newer than the clock. -/
def Dated (t : Tree) : Prop := ∀ place c stamp, t.entry? place = some (.file c stamp) → stamp ≤ t.clock

structure Later (t t' : Tree) : Prop where
  clock : t.clock ≤ t'.clock
  directory {place : List String} : t.entry? place = some .directory → t'.entry? place = some .directory
  file {place : List String} {c : Content} {stamp : Nat} : t'.entry? place = some (.file c stamp) →
    t.entry? place = some (.file c stamp) ∨ t.clock < stamp ∧ stamp ≤ t'.clock

namespace Later

theorem refl (t : Tree) : Later t t := ⟨Nat.le_refl _, id, .inl⟩

theorem trans {t t' t'' : Tree} (h : Later t t') (h' : Later t' t'') : Later t t'' where
  clock := Nat.le_trans h.clock h'.clock
  directory hd := h'.directory (h.directory hd)
  file he := by
    rcases h'.file he with he | ⟨hlt, hle⟩
    · rcases h.file he with he | ⟨hlt, hle⟩
      · exact .inl he
      · exact .inr ⟨hlt, Nat.le_trans hle h'.clock⟩
    · exact .inr ⟨Nat.lt_of_le_of_lt h.clock hlt, hle⟩

theorem dated {t t' : Tree} (h : Later t t') (hd : t.Dated) : t'.Dated := by
  intro place c stamp he
  rcases h.file he with he | ⟨-, hle⟩
  · exact Nat.le_trans (hd place c stamp he) h.clock
  · exact hle

/-- A file with an old stamp is as it was. -/
theorem old_file {t t' : Tree} (h : Later t t') {place : List String} {c : Content} {stamp : Nat}
    (he : t'.entry? place = some (.file c stamp)) (hs : stamp ≤ t.clock) : t.entry? place = some (.file c stamp) := by
  rcases h.file he with he | ⟨hlt, -⟩
  · exact he
  · omega

theorem walk {t t' : Tree} (h : Later t t') {parts here place : List String} (hw : t.walk here parts = .ok place) :
    t'.walk here parts = .ok place := by
  induction parts generalizing here with
  | nil => exact hw
  | cons part rest ih =>
    rw [Tree.walk] at hw ⊢
    cases he : t.entry? here with
    | none =>
      rw [he] at hw
      cases hw
    | some e =>
      cases e with
      | file c stamp =>
        rw [he] at hw
        cases hw
      | directory =>
        rw [he] at hw
        rw [h.directory he]
        simp only at hw ⊢
        by_cases hup : (part == "..") = true
        · rw [if_pos hup] at hw ⊢
          exact ih hw
        · rw [if_neg hup] at hw ⊢
          by_cases hlong : 255 < part.utf8ByteSize
          · rw [if_pos hlong] at hw
            cases hw
          · rw [if_neg hlong] at hw ⊢
            exact ih hw

/-- What a path leads to does not move. -/
theorem locate {t t' : Tree} (h : Later t t') {p : Path} {place : List String} (hl : t.locate p = .ok place) :
    t'.locate p = .ok place := by
  unfold Tree.locate at hl ⊢
  split at hl
  · cases hl
  · rename_i hlong
    split at hl
    · cases hl
    · rename_i hroot
      rw [if_neg hlong, if_neg hroot]
      exact h.walk hl

end Later

theorem later_put {t : Tree} {place : List String} (hp : t.entry? place ≠ some .directory) {e : Entry} {now : Nat}
    (hnow : t.clock ≤ now) (hf : ∀ c stamp, e = .file c stamp → t.clock < stamp ∧ stamp ≤ now) :
    Later t { t.put place e with clock := now } := by
  have hentry : ∀ q, entry? { t.put place e with clock := now } q = if q = place then some e else t.entry? q :=
    entry?_put t (place_ne_nil hp) e
  refine ⟨hnow, fun {q} hq => ?_, fun {q c stamp} hq => ?_⟩
  · have hne : q ≠ place := by
      rintro rfl
      exact hp hq
    rw [hentry, if_neg hne, hq]
  · rw [hentry] at hq
    split at hq
    · exact .inr (hf c stamp (Option.some.inj hq))
    · exact .inl hq

theorem later_remove {t : Tree} {p : Path} (hp : t.entry? p.parts ≠ some .directory) : Later t (t.remove p) := by
  have hentry := t.entry?_remove (place_ne_nil hp)
  refine ⟨Nat.le_refl _, fun {q} hq => ?_, fun {q c stamp} hq => ?_⟩
  · have hne : q ≠ p.parts := by
      rintro rfl
      exact hp hq
    rw [hentry, if_neg hne, hq]
  · rw [hentry] at hq
    split at hq
    · cases hq
    · exact .inl hq

theorem later_write {t t' : Tree} {p : Path} {c : Content} (h : t.write p c = .ok t') : Later t t' := by
  obtain ⟨place, -, hp, rfl⟩ := write_eq_ok.mp h
  refine later_put hp (Nat.le_succ _) fun c' stamp h => ?_
  cases h
  exact ⟨Nat.lt_succ_self _, Nat.le_refl _⟩

theorem later_change (t : Tree) (c : Change) : Later t (t.change c) := by
  cases c with
  | write p c =>
    rw [change]
    cases h : t.write p c with
    | error r => exact .refl t
    | ok t' => exact later_write h
  | makeDirectory p =>
    rw [change]
    cases t.locate p with
    | error r => exact .refl t
    | ok place =>
      simp only
      split
      · exact .refl t
      · rename_i h
        have hp : t.entry? place ≠ some .directory := by
          intro he
          simp [he] at h
        exact later_put hp (Nat.le_refl _) fun _ _ h => by cases h
  | delete p =>
    rw [change]
    cases t.locate p with
    | error r => exact .refl t
    | ok place =>
      simp only
      split
      · rename_i h
        exact later_remove (by simp [h])
      · exact .refl t

theorem dated_built (changes : List Change) : (built changes).Dated := by
  suffices h : ∀ t : Tree, t.Dated → (changes.foldl change t).Dated by
    refine h empty fun place c stamp he => ?_
    simp [empty, entry?] at he
  induction changes with
  | nil => exact fun t ht => ht
  | cons c rest ih => exact fun t ht => ih (t.change c) ((later_change t c).dated ht)

end Tree

end Typewright.Files
