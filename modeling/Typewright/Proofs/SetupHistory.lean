import Typewright.Log.Logger

/-!
What setups leave behind, one after the other.

A setup is asked for with a level and a format (`Setup`). It takes the old handlers away, makes a handler that writes by the
format, adds it, and sets the level. Two things can be wrong, and they are found out on the way: a format without a field
when the handler is made, and a level that is none when it is set. What was done by then is not undone.

The three ways in which a setup can end are told once (`apply_cases`), and all else follows from that.
- Whether it goes through or is refused, a setup puts handlers of its own in the place of those it finds (`apply_handlers`):
  one that writes by its format, or none when the format has no field. So the handlers after a history are those of its last
  setup (`after_handlers`), also when that one was refused.
- The level changes only when nothing is refused (`apply_accepted`, `apply_refused`).
- Which handlers a setup leaves hangs on its format alone, so what was there is found again only if the setup right before
  had left the same (`handlers_eq_after_iff`). Nothing but the start is silent.

Proved, after every history of setups: `refused_setup_keeps_level_only`. A setup that is accepted goes through as a whole.
One that is refused keeps the level but not the handlers, and all is as it was only if the setup right before had left the
very handlers that this one leaves.

`refusals_are_not_undone` has the two cases beside each other: a format without a field takes the handler away, and an
unknown level comes too late to keep the old one. `loud_notes_between_short_ones` is a refusal that changes nothing.
-/

namespace Typewright.Log

/-! ## One setup -/

structure Setup where
  level : Json := .int 30
  format : Option String := none

/-- The level a value asks for: a number, a truth value as a number, or the name of a level in any case. -/
inductive Asks : Json → Int → Prop
  | number (n : Int) : Asks (.int n) n
  | truth (b : Bool) : Asks (.bool b) b.toInt
  | name {s : String} {n : Int} : levelNumber? (Text.upper s) = some n → Asks (.text s) n

theorem readLevel_eq_ok {v : Json} {n : Int} : readLevel v = .ok n ↔ Asks v n := by
  constructor
  · intro h
    cases v with
    | int m =>
      cases h
      exact .number _
    | bool b =>
      cases b <;> cases h
      · exact .truth false
      · exact .truth true
    | text s =>
      rw [readLevel] at h
      split at h
      · rename_i m hm
        cases h
        exact .name hm
      · cases h
    | null | real | list | object => cases h
  · intro h
    cases h with
    | number => rfl
    | truth b => cases b <;> rfl
    | name hn => rw [readLevel, hn]

namespace Setup

/-- The format asked for; the default one when none is, or an empty one. -/
def formatInUse (c : Setup) : String :=
  match c.format with
  | some f => if f.isEmpty then defaultFormat else f
  | none => defaultFormat

def Accepted (c : Setup) (n : Int) : Prop := hasField c.formatInUse.toList = true ∧ Asks c.level n

/-- The handlers a setup leaves, whether it goes through or not. -/
def handlers (c : Setup) : List Handler := if hasField c.formatInUse.toList then [.stream c.formatInUse] else []

theorem silent_not_mem_handlers (c : Setup) : .silent ∉ c.handlers := by
  unfold handlers
  split <;> simp

end Setup

namespace Logger

variable (l : Logger) (c : Setup)

def apply : Logger × Option SetupFault := l.setup c.level c.format

/-- A setup is refused for its format, refused for its level with the handler already replaced, or goes through. -/
theorem apply_cases :
    (hasField c.formatInUse.toList = false ∧
      l.apply c = ({ l with handlers := [] }, some (.format c.formatInUse))) ∨
    (hasField c.formatInUse.toList = true ∧ ∃ f, readLevel c.level = .error f ∧
      l.apply c = ({ l with handlers := [.stream c.formatInUse] }, some f)) ∨
    ∃ n, c.Accepted n ∧ l.apply c = (⟨n, [.stream c.formatInUse]⟩, none) := by
  cases hfield : hasField c.formatInUse.toList with
  | false =>
    have hnone : (!hasField c.formatInUse.toList) = true := by rw [hfield]; rfl
    exact .inl ⟨rfl, if_pos hnone⟩
  | true =>
    have hsome : ¬ (!hasField c.formatInUse.toList) = true := by simp [hfield]
    cases hlevel : readLevel c.level with
    | error f =>
      have happly : l.apply c = ({ l with handlers := [.stream c.formatInUse] }, some f) := by
        unfold apply setup
        rw [hlevel]
        exact if_neg hsome
      exact .inr (.inl ⟨rfl, f, rfl, happly⟩)
    | ok n =>
      have happly : l.apply c = (⟨n, [.stream c.formatInUse]⟩, none) := by
        unfold apply setup
        rw [hlevel]
        exact if_neg hsome
      exact .inr (.inr ⟨n, ⟨hfield, readLevel_eq_ok.mp hlevel⟩, happly⟩)

/-- The handlers that were there play no part in those that are left. -/
theorem apply_handlers : (l.apply c).1.handlers = c.handlers := by
  obtain ⟨hf, h⟩ | ⟨hf, f, -, h⟩ | ⟨n, ⟨hf, -⟩, h⟩ := l.apply_cases c <;> simp [h, Setup.handlers, hf]

theorem apply_accepted {n : Int} (hn : c.Accepted n) : l.apply c = (⟨n, [.stream c.formatInUse]⟩, none) := by
  obtain ⟨hfield, hlevel⟩ := hn
  rw [← readLevel_eq_ok] at hlevel
  obtain ⟨hf, -⟩ | ⟨-, f, hf, -⟩ | ⟨m, ⟨-, hm⟩, h⟩ := l.apply_cases c
  · rw [hfield] at hf
    cases hf
  · rw [hlevel] at hf
    cases hf
  · rw [← readLevel_eq_ok, hlevel] at hm
    cases hm
    exact h

/-- A refusal touches nothing but the handlers. -/
theorem apply_refused (hc : ∀ n, ¬ c.Accepted n) :
    ∃ f, l.apply c = ({ l with handlers := c.handlers }, some f) := by
  obtain ⟨hf, h⟩ | ⟨hf, f, -, h⟩ | ⟨n, hn, -⟩ := l.apply_cases c
  · exact ⟨.format c.formatInUse, by simp [h, Setup.handlers, hf]⟩
  · exact ⟨f, by simp [h, Setup.handlers, hf]⟩
  · exact absurd hn (hc n)

/-! ## A history of setups -/

def after (calls : List Setup) : Logger := calls.foldl (fun l c => (l.apply c).1) initial

theorem after_snoc (calls : List Setup) (c : Setup) : after (calls ++ [c]) = ((after calls).apply c).1 := by
  simp [after]

/-- The last setup decides on the handlers. Nothing but the silence at the start comes before the first. -/
theorem after_handlers (calls : List Setup) :
    (after calls).handlers = (calls.getLast?.map Setup.handlers).getD [.silent] := by
  rcases List.eq_nil_or_concat calls with rfl | ⟨earlier, last, rfl⟩
  · rfl
  · rw [List.concat_eq_append, after_snoc, apply_handlers]
    simp

/-- What setups leave is found again only by one that leaves the same. -/
theorem handlers_eq_after_iff (calls : List Setup) (c : Setup) :
    c.handlers = (after calls).handlers ↔ ∃ last, calls.getLast? = some last ∧ last.handlers = c.handlers := by
  rw [after_handlers]
  cases calls.getLast? with
  | none =>
    have hsilent : c.handlers ≠ [.silent] := fun h => c.silent_not_mem_handlers (h ▸ List.mem_singleton_self _)
    simp [hsilent]
  | some last => simp [eq_comm]

/-- After every history of setups, one that is accepted goes through as a whole: one handler with its format, and the level it
    asks for. One that is not accepted is refused and keeps the level, but not the handlers: it leaves one with its own format,
    or none at all when that has no field. So all is as it was only if the last setup before had left the same handlers. -/
theorem refused_setup_keeps_level_only (calls : List Setup) (c : Setup) :
    (∀ n, c.Accepted n → (after calls).apply c = (⟨n, [.stream c.formatInUse]⟩, none)) ∧
    ((∀ n, ¬ c.Accepted n) → ∃ f,
      (after calls).apply c = ({ after calls with handlers := c.handlers }, some f) ∧
      (((after calls).apply c).1 = after calls ↔
        ∃ last, calls.getLast? = some last ∧ last.handlers = c.handlers)) := by
  refine ⟨fun n hn => apply_accepted _ c hn, fun hc => ?_⟩
  obtain ⟨f, hf⟩ := (after calls).apply_refused c hc
  refine ⟨f, hf, ?_⟩
  rw [hf, ← handlers_eq_after_iff]
  constructor
  · intro h
    exact congrArg Logger.handlers h
  · intro h
    rw [h]

def shortNotes : Setup := ⟨.text "Info", some "%(message)s"⟩

def loudNotes : Setup := ⟨.text "loud", some "%(message)s"⟩

theorem shortNotes_accepted : shortNotes.Accepted 20 := ⟨by decide +kernel, .name (by decide +kernel)⟩

theorem loudNotes_refused (n : Int) : ¬ loudNotes.Accepted n := by
  rintro ⟨-, hlevel⟩
  have hname : levelNumber? (Text.upper "loud") = none := by decide +kernel
  rw [loudNotes] at hlevel
  cases hlevel with
  | name h =>
    rw [hname] at h
    cases h

/-- A level without a name, after a setup with the same format and before another one. -/
theorem loud_notes_between_short_ones :
    shortNotes.Accepted 20 ∧ (∀ n, ¬ loudNotes.Accepted n) ∧
      ((after [shortNotes]).apply loudNotes).1 = after [shortNotes] ∧
      ((after []).apply loudNotes).1 ≠ after [] ∧
      (after [shortNotes, loudNotes]).apply shortNotes = (⟨20, [.stream "%(message)s"]⟩, none) := by
  obtain ⟨f, -, hsame⟩ := (refused_setup_keeps_level_only [shortNotes] loudNotes).2 loudNotes_refused
  obtain ⟨g, -, hfirst⟩ := (refused_setup_keeps_level_only [] loudNotes).2 loudNotes_refused
  refine ⟨shortNotes_accepted, loudNotes_refused, hsame.mpr ⟨shortNotes, rfl, rfl⟩, ?_, ?_⟩
  · rw [ne_eq, hfirst]
    simp
  · exact (refused_setup_keeps_level_only [shortNotes, loudNotes] shortNotes).1 20 shortNotes_accepted

/-- A refused setup is not undone: a format without a field takes the handler away, and an unknown level comes too late to
    keep the old one. -/
theorem refusals_are_not_undone :
    after [shortNotes] = ⟨20, [.stream "%(message)s"]⟩ ∧
      (after [shortNotes]).apply ⟨.text "debug", some "plain"⟩ = (⟨20, []⟩, some (.format "plain")) ∧
      (after [shortNotes]).apply ⟨.text "loud", some "%(name)s"⟩ =
        (⟨20, [.stream "%(name)s"]⟩, some (.unknownLevel "Level LOUD")) := by
  refine ⟨?_, ?_, ?_⟩
  · rfl
  · rfl
  · rfl

end Logger

end Typewright.Log
