import Typewright.Proofs.MemberTemplates
import Typewright.Proofs.Nesting

/-!
What carrying out a script comes to.

A declaration is written by a script of steps, carried out on a draft: an emitter, a library of templates, a log. Most of
what is proved about texts does not depend on how that is done. This module says once what a step can do and what a script
comes to, so that all others speak about lines.

A step has a fault of its own (`Step.fault?`), or it appends its entries and changes the depth (`Step.emit`). An `Entry` is
a line that knows neither the indent nor the depth its declaration starts at: a blank one, one at the very left, or one at a
depth counted from there. Which templates were loaded on the way does not matter (`Draft.run_emit`): member lines are the
closed texts that `MemberTemplates` gives (`constantText`, `propertyText`, `methodText`).

- `Steps.emit_repeats`: under an indent that can be repeated a script breaks off with its first fault, and otherwise the
  lines it writes are those of its `layout`.
- `Declaration.level_script`: a script leaves the depth as it was and closes only what it opened (`Level`), part by part.
- `layout_shift`: at another depth a script has the same entries, so much further in.
- `Steps.Same`: two scripts whose steps fail alike and write the same lines come to the same, whether they are carried out
  to the end or broken off.

`outcome_repeats` puts these together for a whole declaration: the first fault of its script, or the text of its layout. Of
an indent that cannot be repeated only this is needed: scripts that come to the same have the same outcome under all
settings (`outcome_congr`).
-/

namespace Typewright

open Template Template.Library Declaration.Script

/-! ## Entries -/

/-- A line of a layout: blank, at the very left, or at a depth counted from where the declaration starts. -/
inductive Entry where
  | blank
  | flush (text : String)
  | deep (depth : Nat) (text : String)
  deriving DecidableEq

def indentation (indent : String) (n : Nat) : String := Json.repeatText indent n

def Entry.line (indent : String) (start : Nat) : Entry → String
  | blank => ""
  | flush text => text
  | deep depth text => indentation indent (start + depth) ++ text

/-- The line of an entry, where `i` gives the indentations. -/
def Entry.lineBy (i : Int → String) (start : Nat) : Entry → String
  | blank => ""
  | flush text => i 0 ++ text
  | deep depth text => i (start + depth : Nat) ++ text

@[simp] theorem indentation_zero (u : String) : indentation u 0 = "" := rfl

theorem indentation_succ (u : String) (n : Nat) : indentation u (n + 1) = u ++ indentation u n := by
  simp [indentation, Json.repeatText, List.replicate_succ]

theorem mem_indentation {c : Char} {u : String} {n : Nat} : c ∈ (indentation u n).toList ↔ n ≠ 0 ∧ c ∈ u.toList := by
  induction n with
  | zero => simp
  | succ n ih =>
    rw [indentation_succ, String.toList_append, List.mem_append, ih, or_iff_left_of_imp And.right]
    simp

theorem Entry.lineBy_text (u : String) (start : Nat) (e : Entry) :
    e.lineBy (Json.repeatText u) start = e.line u start := by
  cases e with
  | blank => rfl
  | flush text => simp [lineBy, line, Json.repeatText]
  | deep depth text => rfl

/-! ## Steps -/

def memberText (template : String) (scope : Object) : Except Template.Fault String :=
  ((Generator.freshLibrary Generator.memberFiles (some Generator.memberDirectory) []).render Generator.memberFiles template
    scope).2

namespace Step

def fault? : Step → Option WriteFault
  | .require present field owner => if present then none else some (.missing field owner)
  | .mark a =>
    match a.text with
    | .ok _ => none
    | .error m => some (.attributeText m)
  | .member template scope =>
    match memberText template scope with
    | .ok _ => none
    | .error f => some (.template template f)
  | _ => none

def depth (r : Nat) : Step → Nat
  | .openBlock => r + 1
  | .closeBlock => r - 1
  | _ => r

def entries (comment : String) (r : Nat) : Step → List Entry
  | .note _ | .require _ _ _ => []
  | .blank => [.blank]
  | .comment => [.flush comment]
  | .header text => [.flush text]
  | .line text => [.deep r text]
  | .mark a => (a.text.toOption.map (Entry.deep r)).toList
  | .member template scope => ((memberText template scope).toOption.map (Entry.deep r)).toList
  | .openBlock => [.deep r "\x7b"]
  | .closeBlock => [.deep (r - 1) "\x7d"]

end Step

namespace Steps

def depthAfter (r : Nat) (steps : List Step) : Nat := steps.foldl Step.depth r

/-- No step closes a block that was not opened. -/
def Nests : Nat → List Step → Prop
  | _, [] => True
  | r, s :: rest => (s = .closeBlock → 0 < r) ∧ Nests (s.depth r) rest

def layout (comment : String) : Nat → List Step → List Entry
  | _, [] => []
  | r, s :: rest => s.entries comment r ++ layout comment (s.depth r) rest

def fault? (steps : List Step) : Option WriteFault := steps.findSome? Step.fault?

@[simp] theorem depthAfter_nil (r : Nat) : depthAfter r [] = r := rfl

@[simp] theorem depthAfter_cons (r : Nat) (s : Step) (rest : List Step) :
    depthAfter r (s :: rest) = depthAfter (s.depth r) rest := rfl

@[simp] theorem depthAfter_append (r : Nat) (a b : List Step) :
    depthAfter r (a ++ b) = depthAfter (depthAfter r a) b := List.foldl_append

theorem nests_append (r : Nat) (a b : List Step) : Nests r (a ++ b) ↔ Nests r a ∧ Nests (depthAfter r a) b := by
  induction a generalizing r with
  | nil => simp [Nests]
  | cons s rest ih => simp only [List.cons_append, Nests, ih, depthAfter_cons, and_assoc]

theorem layout_append (comment : String) (r : Nat) (a b : List Step) :
    layout comment r (a ++ b) = layout comment r a ++ layout comment (depthAfter r a) b := by
  induction a generalizing r with
  | nil => rfl
  | cons s rest ih => simp only [List.cons_append, layout, ih, depthAfter_cons, List.append_assoc]

theorem fault_cons (s : Step) (rest : List Step) : fault? (s :: rest) = s.fault?.or (fault? rest) := by
  simp only [fault?, List.findSome?_cons]
  cases s.fault? <;> rfl

end Steps

/-! ## Carrying out a script -/

/-- Stocked libraries find the same templates. -/
theorem find_of_stocked {l l' : Library} (h : Stocked l) (h' : Stocked l') (name : String) :
    l.find Generator.memberFiles name = l'.find Generator.memberFiles name := by
  simp only [find, file?, h.memory, h'.memory, h.directory, h'.directory]

/-- A stocked library renders a member as a fresh one does, and stays stocked. -/
theorem render_member {l : Library} (h : Stocked l) (name : String) (scope : Object) :
    (l.render Generator.memberFiles name scope).2 = memberText name scope ∧
      Stocked (l.render Generator.memberFiles name scope).1 := by
  have hl := load_stocked h name
  have hf := load_stocked stocked_fresh name
  rw [find_of_stocked stocked_fresh h] at hf
  unfold memberText render
  cases e : l.load Generator.memberFiles name with
  | mk l' r =>
    cases e' : load (Generator.freshLibrary Generator.memberFiles (some Generator.memberDirectory) [])
        Generator.memberFiles name with
    | mk f r' =>
      rw [e] at hl
      rw [e'] at hf
      obtain ⟨h1, h2⟩ := hl
      obtain rfl : r = r' := h1.trans hf.1.symm
      cases r with
      | error x => exact ⟨rfl, h2⟩
      | ok t => exact ⟨rfl, h2⟩

/-- Writes an entry; its depth counts from the very left. -/
def Emitter.put (e : Emitter) : Entry → Except Fault Emitter
  | .blank => .ok e.blank
  | .flush text => e.lineAt 0 text
  | .deep depth text => e.lineAt depth text

/-- What a step comes to on an emitter: a fault of its own, or its lines and its depth. -/
def Step.emit (comment : String) (e : Emitter) (s : Step) : Except WriteFault Emitter :=
  match s.fault? with
  | some f => .error f
  | none =>
    match (s.entries comment e.depth).foldlM Emitter.put e with
    | .ok e' => .ok { e' with depth := s.depth e.depth }
    | .error f => .error (.emitter f)

/-- A step that writes one line. -/
theorem Step.emit_line {comment : String} {e : Emitter} {s : Step} (x : Entry) (hf : s.fault? = none)
    (hx : s.entries comment e.depth = [x]) :
    s.emit comment e =
      match e.put x with
      | .ok e' => .ok { e' with depth := s.depth e.depth }
      | .error f => .error (.emitter f) := by
  rw [emit, hf]
  simp only [hx, List.foldlM_cons, List.foldlM_nil, bind_pure]

namespace Draft

/-- How steps end: with a fault, or with what is emitted by then. -/
def ending (out : Draft × Option WriteFault) : Except WriteFault Emitter :=
  match out.2 with
  | some f => .error f
  | none => .ok out.1.emitter

/-- Taking over one line, or its fault, is what a step comes to that writes this line and no brace. -/
theorem ending_emitted {comment : String} {d : Draft} {s : Step} (x : Entry) (hf : s.fault? = none)
    (hx : s.entries comment d.emitter.depth = [x]) (hd : s.depth d.emitter.depth = d.emitter.depth) :
    ending (d.emitted (d.emitter.put x)) = s.emit comment d.emitter := by
  rw [Step.emit_line x hf hx, hd]
  cases x with
  | blank => rfl
  | flush text =>
    simp only [Emitter.put, Emitter.lineAt]
    cases d.emitter.indent.repeated 0 <;> rfl
  | deep depth text =>
    simp only [Emitter.put, Emitter.lineAt]
    cases d.emitter.indent.repeated depth <;> rfl

theorem library_emitted {d : Draft} (h : Stocked d.library) (r : Except Emitter.Fault Emitter) :
    Stocked (d.emitted r).1.library := by
  cases r <;> exact h

/-- A step goes by its fault, its lines and its depth alone: which templates were loaded before it does not matter. -/
theorem step_emit (comment : Json) {d : Draft} (h : Stocked d.library) (s : Step) :
    ending (d.step Generator.memberFiles comment s) = s.emit comment.shown d.emitter ∧
      Stocked (d.step Generator.memberFiles comment s).1.library := by
  cases s with
  | note r => exact ⟨rfl, h⟩
  | require present field owner => cases present <;> exact ⟨rfl, h⟩
  | blank => exact ⟨rfl, h⟩
  | comment => exact ⟨ending_emitted (.flush comment.shown) rfl rfl rfl, library_emitted h _⟩
  | header text => exact ⟨ending_emitted (.flush text) rfl rfl rfl, library_emitted h _⟩
  | line text => exact ⟨ending_emitted (.deep d.emitter.depth text) rfl rfl rfl, library_emitted h _⟩
  | mark a =>
    rw [step]
    cases ha : a.text with
    | ok text =>
      have hf : (Step.mark a).fault? = none := by rw [Step.fault?, ha]
      have hx : (Step.mark a).entries comment.shown d.emitter.depth = [.deep d.emitter.depth text] := by
        rw [Step.entries, ha]
        rfl
      exact ⟨ending_emitted _ hf hx rfl, library_emitted h _⟩
    | error m =>
      have hf : (Step.mark a).fault? = some (.attributeText m) := by rw [Step.fault?, ha]
      exact ⟨by rw [Step.emit, hf]; rfl, h⟩
  | member name scope =>
    obtain ⟨hr, hl⟩ := render_member h name scope
    rw [step]
    cases e : d.library.render Generator.memberFiles name scope with
    | mk library r =>
      rw [e] at hr hl
      simp only at hr hl
      cases r with
      | ok text =>
        have hf : (Step.member name scope).fault? = none := by rw [Step.fault?, ← hr]
        have hx : (Step.member name scope).entries comment.shown d.emitter.depth = [.deep d.emitter.depth text] := by
          rw [Step.entries, ← hr]
          rfl
        exact ⟨ending_emitted (d := { d with library }) _ hf hx rfl, library_emitted (d := { d with library }) hl _⟩
      | error f =>
        have hf : (Step.member name scope).fault? = some (.template name f) := by rw [Step.fault?, ← hr]
        exact ⟨by rw [Step.emit, hf]; rfl, hl⟩
  | openBlock =>
    refine ⟨?_, library_emitted h _⟩
    rw [Step.emit_line (.deep d.emitter.depth "\x7b") rfl rfl]
    simp only [step, Emitter.openBlock, Emitter.line, Emitter.put, Emitter.lineAt]
    cases d.emitter.indent.repeated d.emitter.depth <;> rfl
  | closeBlock =>
    refine ⟨?_, library_emitted h _⟩
    rw [Step.emit_line (.deep (d.emitter.depth - 1) "\x7d") rfl rfl]
    simp only [step, Emitter.closeBlock, Emitter.line, Emitter.put, Emitter.lineAt]
    cases d.emitter.indent.repeated ((d.emitter.depth - 1 : Nat) : Int) <;> rfl

/-- A script is carried out on the emitter alone. -/
theorem run_emit (comment : Json) {d : Draft} (h : Stocked d.library) (steps : List Step) :
    ending (d.run Generator.memberFiles comment steps) = steps.foldlM (Step.emit comment.shown) d.emitter := by
  induction steps generalizing d with
  | nil => rfl
  | cons s rest ih =>
    obtain ⟨hs, hl⟩ := step_emit comment h s
    rw [run, List.foldlM_cons, ← hs]
    cases e : d.step Generator.memberFiles comment s with
    | mk d' f =>
      rw [e] at hl
      cases f with
      | some f => rfl
      | none => exact ih hl

end Draft

theorem Emitter.puts_indent {es : List Entry} {e e' : Emitter} (h : es.foldlM put e = .ok e') : e'.indent = e.indent := by
  induction es generalizing e with
  | nil =>
    cases h
    rfl
  | cons x rest ih =>
    have hput : ∀ e₁, e.put x = .ok e₁ → e₁.indent = e.indent := by
      intro e₁ hx
      cases x with
      | blank =>
        cases hx
        rfl
      | flush text =>
        simp only [put, lineAt] at hx
        split at hx <;> cases hx
        rfl
      | deep depth text =>
        simp only [put, lineAt] at hx
        split at hx <;> cases hx
        rfl
    rw [List.foldlM_cons] at h
    cases hx : e.put x with
    | error f =>
      rw [hx] at h
      cases h
    | ok e₁ =>
      rw [hx] at h
      rw [ih h, hput e₁ hx]

theorem Step.emit_indent {comment : String} {s : Step} {e e' : Emitter} (h : s.emit comment e = .ok e') :
    e'.indent = e.indent := by
  unfold emit at h
  split at h
  · cases h
  · split at h
    · rename_i e₁ he
      cases h
      exact (Emitter.puts_indent he : e₁.indent = e.indent)
    · cases h

namespace Steps

/-- Steps that are carried out have no fault. -/
theorem fault_of_emit {comment : String} {steps : List Step} {e e' : Emitter}
    (h : steps.foldlM (Step.emit comment) e = .ok e') : fault? steps = none := by
  induction steps generalizing e with
  | nil => rfl
  | cons s rest ih =>
    rw [List.foldlM_cons] at h
    rw [fault_cons]
    cases hs : s.emit comment e with
    | error f =>
      rw [hs] at h
      cases h
    | ok e₁ =>
      rw [hs] at h
      have hf : s.fault? = none := by
        unfold Step.emit at hs
        cases hf : s.fault? with
        | none => rfl
        | some f =>
          rw [hf] at hs
          cases hs
      rw [hf, ih h]
      rfl

/-- Steps with a block are carried out only under an indent that can be repeated. -/
theorem indent_of_emit {comment : String} {steps : List Step} (hs : .openBlock ∈ steps) {e e' : Emitter}
    (h : steps.foldlM (Step.emit comment) e = .ok e') : ∃ i, e.indent.Repeats i := by
  induction steps generalizing e with
  | nil => cases hs
  | cons s rest ih =>
    rw [List.foldlM_cons] at h
    cases he : s.emit comment e with
    | error f =>
      rw [he] at h
      cases h
    | ok e₁ =>
      rw [he] at h
      rcases List.mem_cons.mp hs with rfl | hs
      · refine e.indent.repeats_or_fails.resolve_right ?_
        rintro ⟨m, hm⟩
        rw [Step.emit_line (.deep e.depth "\x7b") rfl rfl] at he
        simp only [Emitter.put, Emitter.lineAt, hm] at he
        cases he
      · rw [← Step.emit_indent he]
        exact ih hs h

end Steps

/-! ## The lines of a script -/

section Lines

variable {i : Int → String} {e : Emitter}

theorem Emitter.put_repeats (h : e.indent.Repeats i) (x : Entry) :
    e.put x = .ok { e with lines := e.lines ++ [x.lineBy i 0] } := by
  cases x with
  | blank => rfl
  | flush text => exact lineAt_repeats h 0 text
  | deep depth text => exact (lineAt_repeats h depth text).trans (by rw [Entry.lineBy, Nat.zero_add])

theorem Emitter.puts_repeats (h : e.indent.Repeats i) (es : List Entry) :
    es.foldlM Emitter.put e = .ok { e with lines := e.lines ++ es.map (Entry.lineBy i 0) } := by
  induction es generalizing e with
  | nil => simp [pure, Except.pure]
  | cons x rest ih =>
    rw [List.foldlM_cons, put_repeats h x]
    exact (ih (e := { e with lines := e.lines ++ [x.lineBy i 0] }) h).trans (by simp)

/-- Lines further in, or a declaration that starts further in: it comes to the same. -/
theorem Step.entries_shift (comment : String) (i : Int → String) (k n r : Nat) (s : Step) (hs : s = .closeBlock → 0 < r) :
    (s.entries comment (n + r)).map (Entry.lineBy i k) = (s.entries comment r).map (Entry.lineBy i (k + n)) := by
  have deep : ∀ text, (Entry.deep (n + r) text).lineBy i k = (Entry.deep r text).lineBy i (k + n) := by
    intro text
    rw [Entry.lineBy, Entry.lineBy, Nat.add_assoc]
  cases s with
  | note | require | blank | comment | header => rfl
  | line text => simp [entries, deep]
  | mark a => cases ha : a.text <;> simp [entries, ha, Except.toOption, deep]
  | member name scope => cases hm : memberText name scope <;> simp [entries, hm, Except.toOption, deep]
  | openBlock => simp [entries, deep]
  | closeBlock =>
    have hr := hs rfl
    have hd : k + (n + r - 1) = k + n + (r - 1) := by omega
    simp [entries, Entry.lineBy, hd]

theorem Step.depth_shift (k r : Nat) (s : Step) (hs : s = .closeBlock → 0 < r) : s.depth (k + r) = k + s.depth r := by
  cases s with
  | closeBlock =>
    have hr := hs rfl
    simp only [depth]
    omega
  | openBlock => rfl
  | _ => rfl

theorem Step.emit_repeats (comment : String) {k r : Nat} (h : e.indent.Repeats i) (hd : e.depth = k + r) (s : Step)
    (hs : s = .closeBlock → 0 < r) :
    s.emit comment e =
      match s.fault? with
      | some f => .error f
      | none =>
        .ok { e with lines := e.lines ++ (s.entries comment r).map (Entry.lineBy i k), depth := k + s.depth r } := by
  have hshift := entries_shift comment i 0 k r s hs
  rw [Nat.zero_add] at hshift
  rw [emit, hd, Emitter.puts_repeats h, hshift, depth_shift k r s hs]

namespace Steps

/-- Under an indent that can be repeated, a script fails by a fault of its own, or writes its layout. -/
theorem emit_repeats (comment : String) {k r : Nat} (h : e.indent.Repeats i) (hd : e.depth = k + r) (steps : List Step)
    (hs : Nests r steps) :
    steps.foldlM (Step.emit comment) e =
      match fault? steps with
      | some f => .error f
      | none =>
        .ok { e with lines := e.lines ++ (layout comment r steps).map (Entry.lineBy i k), depth := k + depthAfter r steps } := by
  induction steps generalizing e r with
  | nil => simp [fault?, layout, pure, Except.pure, ← hd]
  | cons s rest ih =>
    rw [List.foldlM_cons, Step.emit_repeats comment h hd s hs.1, fault_cons]
    cases s.fault? with
    | some f => rfl
    | none =>
      refine (ih (e := { e with
        lines := e.lines ++ (s.entries comment r).map (Entry.lineBy i k), depth := k + s.depth r }) h rfl hs.2).trans ?_
      simp [layout]

/-- A layout further in, or one that starts further in: it comes to the same. -/
theorem layout_shift (comment : String) (i : Int → String) (k n : Nat) {r : Nat} (steps : List Step) (hs : Nests r steps) :
    (layout comment (n + r) steps).map (Entry.lineBy i k) = (layout comment r steps).map (Entry.lineBy i (k + n)) := by
  induction steps generalizing r with
  | nil => rfl
  | cons s rest ih =>
    rw [layout, layout, List.map_append, List.map_append, Step.entries_shift comment i k n r s hs.1,
      Step.depth_shift n r s hs.1, ih hs.2]

end Steps

end Lines

/-! ## The script of a declaration -/

namespace Declaration.Script

def innerSteps (d : Declaration) : List Step :=
  .note (.debug source ("Rendering nested declaration '" ++ d.name.shown ++ "'")) :: nested d ++ [.blank]

theorem inner_eq (ds : List Declaration) : inner ds = ds.flatMap innerSteps := by
  induction ds with
  | nil => simp [inner]
  | cons d rest ih => simp [inner, ih, innerSteps, nested]

theorem type_eq (d : Declaration) : type d = typeAround d (d.nestedIn.flatMap innerSteps) := by
  obtain ⟨_, _, _, _, _, _, _, _, _, innerClasses, _, _⟩ := d
  cases innerClasses with
  | none => simp [type, innerOption, nestedIn]
  | some ds => simp [type, innerOption, inner_eq, nestedIn]

end Declaration.Script

namespace Steps

/-- Steps that leave the depth as it was and close only what they opened. -/
def Level (steps : List Step) : Prop := ∀ r, Nests r steps ∧ depthAfter r steps = r

theorem Level.append {a b : List Step} (ha : Level a) (hb : Level b) : Level (a ++ b) := by
  intro r
  rw [nests_append, depthAfter_append, (ha r).2]
  exact ⟨⟨(ha r).1, (hb r).1⟩, (hb r).2⟩

/-- A step that is no brace leaves the depth alone. -/
theorem Level.cons {s : Step} {rest : List Step} (ho : s ≠ .openBlock) (hc : s ≠ .closeBlock) (h : Level rest) :
    Level (s :: rest) := by
  intro r
  have hd : s.depth r = r := by cases s <;> simp_all [Step.depth]
  simp only [Nests, depthAfter_cons, hd]
  exact ⟨⟨fun e => absurd e hc, (h r).1⟩, (h r).2⟩

theorem Level.nil : Level [] := fun _ => ⟨trivial, rfl⟩

theorem Level.block {steps : List Step} (h : Level steps) : Level (.openBlock :: steps ++ [.closeBlock]) := by
  intro r
  have hn := (h (r + 1)).1
  have hd := (h (r + 1)).2
  simp [Nests, nests_append, Step.depth, hn, hd]

theorem Level.flatMap {α : Type} {f : α → List Step} {xs : List α} (h : ∀ x ∈ xs, Level (f x)) : Level (xs.flatMap f) := by
  induction xs with
  | nil => exact Level.nil
  | cons x rest ih =>
    rw [List.flatMap_cons]
    exact (h x (by simp)).append (ih fun y hy => h y (by simp [hy]))

theorem Level.map {α : Type} {f : α → Step} (xs : List α) (h : ∀ x, f x ≠ .openBlock ∧ f x ≠ .closeBlock) :
    Level (xs.map f) := by
  induction xs with
  | nil => exact Level.nil
  | cons x rest ih => exact Level.cons (h x).1 (h x).2 ih

end Steps

namespace Declaration.Script

open Steps

theorem level_body (i : Bool) (m : Method) : Level (body i m) := by
  unfold body
  cases i with
  | true => exact Level.nil
  | false =>
    apply Level.cons (by simp) (by simp)
    exact Level.block (Level.map _ (by simp))

theorem level_method (i : Bool) (m : Method) : Level (method i m) := by
  apply Level.cons (by simp) (by simp)
  apply Level.cons (by simp) (by simp)
  apply Level.append
  · exact Level.append (Level.map _ (by simp)) (Level.cons (by simp) (by simp) (level_body i m))
  · exact Level.cons (by simp) (by simp) Level.nil

theorem level_methods (i : Bool) (ms : Option (List Method)) : Level (methods i ms) := by
  unfold methods
  split
  · exact Level.nil
  · exact Level.cons (by simp) (by simp) (Level.flatMap fun m _ => level_method i m)

theorem level_requirements (d : Declaration) : Level (requirements d) :=
  Level.cons (by simp) (by simp) (Level.cons (by simp) (by simp) (Level.cons (by simp) (by simp) Level.nil))

theorem level_typeAround (d : Declaration) {inner : List Step} (h : Level inner) : Level (typeAround d inner) := by
  have hb := ((h.append (Level.map (d.constants.getD []) (f := fun c => .member constantTemplate (constantScope c))
    (by simp))).append (Level.map (d.properties.getD []) (f := fun p => .member propertyTemplate (propertyScope p))
    (by simp))).append (level_methods d.isInterface d.methods)
  have := (Level.map (d.attributes.getD []) (f := Step.mark) (by simp)).append
    (Level.cons (s := .line (headline d)) (by simp) (by simp) hb.block)
  simpa [typeAround, attributes, constants, properties] using this

theorem level_type (d : Declaration) : Level (type d) := by
  induction d using Declaration.nested_induction with
  | h d ih =>
    rw [type_eq]
    apply level_typeAround
    apply Level.flatMap
    intro c hc
    apply Level.append _ (Level.cons (by simp) (by simp) Level.nil)
    apply Level.cons (by simp) (by simp)
    exact (level_requirements c).append (Level.cons (by simp) (by simp) (ih c hc))

theorem level_fileHeader (d : Declaration) : Level (fileHeader d) := by
  unfold fileHeader
  apply Level.append _ (Level.cons (by simp) (by simp) Level.nil)
  apply Level.cons (by simp) (by simp)
  apply Level.cons (by simp) (by simp)
  split
  · exact Level.nil
  · exact (Level.map _ (by simp)).append (Level.cons (by simp) (by simp) Level.nil)

end Declaration.Script

theorem Declaration.level_script (d : Declaration) : Steps.Level d.script := by
  unfold Declaration.script
  split
  · exact (Script.level_requirements d).append (Steps.Level.cons (by simp) (by simp) (Script.level_type d))
  · have := ((Script.level_requirements d).append (Script.level_fileHeader d)).append (Script.level_type d).block
    simpa [Script.freestanding] using this

/-! ## Steps that come to the same -/

/-- The steps fail alike and write the same lines. -/
def Step.Same (s s' : Step) : Prop :=
  s.fault? = s'.fault? ∧ (∀ r, s.depth r = s'.depth r) ∧ ∀ comment r, s.entries comment r = s'.entries comment r

theorem Step.Same.refl (s : Step) : s.Same s := ⟨rfl, fun _ => rfl, fun _ _ => rfl⟩

theorem Step.Same.emit {s s' : Step} (h : s.Same s') (comment : String) (e : Emitter) :
    s.emit comment e = s'.emit comment e := by
  rw [Step.emit, Step.emit, h.1, h.2.1, h.2.2]

theorem Step.Same.member {template : String} {scope scope' : Object}
    (h : memberText template scope = memberText template scope') :
    Step.Same (.member template scope) (.member template scope') := by
  refine ⟨?_, fun _ => rfl, fun _ _ => ?_⟩
  · simp only [Step.fault?, h]
  · simp only [Step.entries, h]

namespace Steps

inductive Same : List Step → List Step → Prop
  | nil : Same [] []
  | cons {s s' : Step} {a b : List Step} : s.Same s' → Same a b → Same (s :: a) (s' :: b)

namespace Same

theorem refl (a : List Step) : Same a a := by
  induction a with
  | nil => exact .nil
  | cons s rest ih => exact .cons (.refl s) ih

theorem append {a a' b b' : List Step} (ha : Same a a') (hb : Same b b') : Same (a ++ b) (a' ++ b') := by
  induction ha with
  | nil => exact hb
  | cons hs _ ih => exact .cons hs ih

theorem fault {a b : List Step} (h : Same a b) : fault? a = fault? b := by
  induction h with
  | nil => rfl
  | cons hs _ ih => rw [fault_cons, fault_cons, hs.1, ih]

theorem emit {a b : List Step} (h : Same a b) (comment : String) (e : Emitter) :
    a.foldlM (Step.emit comment) e = b.foldlM (Step.emit comment) e := by
  induction h generalizing e with
  | nil => rfl
  | cons hs _ ih => simp only [List.foldlM_cons, hs.emit, ih]

theorem layout {a b : List Step} (h : Same a b) (comment : String) (r : Nat) :
    layout comment r a = layout comment r b := by
  induction h generalizing r with
  | nil => rfl
  | cons hs _ ih => rw [Steps.layout, Steps.layout, hs.2.2, hs.2.1, ih]

end Same

end Steps

/-! ## The texts of members -/

namespace Declaration.Script

def constantText (c : Constant) : String :=
  constantLine (.ofOption c.access) (.ofOption c.type) (.ofOption c.name) c.value

def propertyText (p : Property) : String :=
  propertyLine (.ofOption p.access) (.ofOption p.type) (.ofOption p.name) p.isExpressionBodied p.expression

def methodText (isInterface : Bool) (m : Method) : String :=
  methodLine (signature m) ((m.parameters.getD []).map parameterText) ((m.baseArguments.getD []).map .ofOption) isInterface

@[simp] theorem memberText_constant (c : Constant) :
    memberText constantTemplate (constantScope c) = .ok (constantText c) := by
  rw [memberText, constantScope, constantText]
  exact (render_constant stocked_fresh _ _ _ _).1

@[simp] theorem memberText_property (p : Property) :
    memberText propertyTemplate (propertyScope p) = .ok (propertyText p) := by
  rw [memberText, propertyScope, propertyText]
  exact (render_property stocked_fresh _ _ _ _ _).1

theorem methodScope_eq (i : Bool) (m : Method) :
    methodScope i m = [("signature", .text (signature m)),
      ("parameters", .list (((m.parameters.getD []).map parameterText).map .text)),
      ("base_arguments", argumentList (m.baseArguments.map (·.map .ofOption))), ("is_interface", .bool i)] := by
  rw [methodScope, List.map_map]
  cases m.baseArguments <;> rfl

@[simp] theorem memberText_method (i : Bool) (m : Method) :
    memberText methodTemplate (methodScope i m) = .ok (methodText i m) := by
  rw [memberText, methodScope_eq, (render_method stocked_fresh _ _ _ _).1, methodText]
  cases m.baseArguments <;> rfl

end Declaration.Script

/-! ## The whole declaration -/

def layoutText (indent ending : String) (start : Nat) (es : List Entry) : String :=
  String.join (es.map fun e => e.line indent start ++ ending)

theorem toList_layoutText (u ending : String) (start : Nat) (es : List Entry) :
    (layoutText u ending start es).toList = es.flatMap fun e => (e.line u start).toList ++ ending.toList := by
  simp [layoutText, String.toList_join, List.flatMap_map]

def layoutTextBy (i : Int → String) (ending : String) (start : Nat) (es : List Entry) : String :=
  String.join (es.map fun e => e.lineBy i start ++ ending)

theorem layoutTextBy_text (u ending : String) (start : Nat) (es : List Entry) :
    layoutTextBy (Json.repeatText u) ending start es = layoutText u ending start es := by
  simp only [layoutTextBy, layoutText, Entry.lineBy_text]

namespace Declaration

/-- Writing a declaration is carrying out its script on an emitter. -/
theorem render_emit (d : Declaration) (k : Int) (s : Settings) :
    (d.render k s).outcome =
      match Emitter.start s.indent s.lineEnding k with
      | .error f => .error (.emitter f)
      | .ok e => (d.script.foldlM (Step.emit s.comment.shown) e).map Emitter.render := by
  simp only [render, Generator.generate, write, Generator.csharp, Generator.currentLibrary, Option.getD_some]
  cases Emitter.start s.indent s.lineEnding k with
  | error f => rfl
  | ok e =>
    have hrun := Draft.run_emit s.comment (d := ⟨e, Generator.freshLibrary Generator.memberFiles
      (some Generator.memberDirectory) [], [.debug Script.source ("Rendering " ++ d.kindWord ++ " '" ++ d.name.shown
        ++ "' at depth " ++ toString k)]⟩) stocked_fresh d.script
    simp only at hrun ⊢
    rw [← hrun]
    generalize Draft.run _ _ _ _ = out
    obtain ⟨draft, f⟩ := out
    cases f <;> rfl

theorem carried_out {d : Declaration} {k : Int} {s : Settings} {text : String} (h : (d.render k s).outcome = .ok text) :
    ∃ e e', e.indent = s.indent ∧ d.script.foldlM (Step.emit s.comment.shown) e = .ok e' := by
  rw [render_emit] at h
  cases hs : Emitter.start s.indent s.lineEnding k with
  | error f =>
    rw [hs] at h
    cases h
  | ok e =>
    have hi : e.indent = s.indent := by
      unfold Emitter.start at hs
      split at hs <;> cases hs
      rfl
    rw [hs] at h
    cases he : d.script.foldlM (Step.emit s.comment.shown) e with
    | error f =>
      simp only [he] at h
      cases h
    | ok e' => exact ⟨e, e', hi, he⟩

/-- Declarations whose scripts come to the same are written alike, at every depth and whatever the custom settings are. -/
theorem outcome_congr {d e : Declaration} (h : Steps.Same d.script e.script) (k : Int) (s : Settings) (custom : Json) :
    (d.render k s).outcome = (e.render k { s with custom }).outcome := by
  rw [render_emit, render_emit]
  simp only [h.emit]

/-- Writing a declaration ends with the first fault of its script, or with the text of its layout. -/
theorem outcome_repeats (d : Declaration) (k : Nat) {s : Settings} {i : Int → String} (hi : s.indent.Repeats i) :
    (d.render k s).outcome =
      match Steps.fault? d.script with
      | some f => .error f
      | none => .ok (layoutTextBy i s.lineEnding.shown k (Steps.layout s.comment.shown 0 d.script)) := by
  have hk : ¬ ((k : Int) < 0) := by omega
  have hstart : Emitter.start s.indent s.lineEnding k = .ok ⟨s.indent, s.lineEnding, k, k, []⟩ := by
    simp [Emitter.start, hk]
  rw [render_emit, hstart]
  simp only
  rw [Steps.emit_repeats (e := ⟨s.indent, s.lineEnding, k, k, []⟩) s.comment.shown hi (r := 0) rfl d.script
    (d.level_script 0).1]
  cases Steps.fault? d.script with
  | some f => rfl
  | none => simp [Except.map, Emitter.render, layoutTextBy, Function.comp_def]

theorem render_outcome (d : Declaration) (k : Nat) (s : Settings) (u : String) (hu : s.indent = .text u) :
    (d.render k s).outcome =
      match Steps.fault? d.script with
      | some f => .error f
      | none => .ok (layoutText u s.lineEnding.shown k (Steps.layout s.comment.shown 0 d.script)) := by
  rw [outcome_repeats d k (hu ▸ Json.repeats_text u : s.indent.Repeats _), layoutTextBy_text]

/-- Declarations whose scripts come to the same are written alike. -/
theorem outcome_of_same {d e : Declaration} (h : Steps.Same d.script e.script) (k : Nat) (s : Settings)
    (u : String) (hu : s.indent = .text u) : (d.render k s).outcome = (e.render k s).outcome := by
  rw [render_outcome d k s u hu, render_outcome e k s u hu, h.fault, h.layout]

end Declaration

end Typewright
