import Mathlib.Combinatorics.Enumerative.DyckWord
import Typewright.Proofs.Basic

/-!
What a run of the emitter does, deed by deed. A program opens blocks, writes lines, raises messages and catches them, and
may be broken off by an indent that cannot be repeated. What is to be said about it is about every moment of such a run, so
the run is first brought into a list.

The deeds of a program are known before it runs (`course`): a raised message skips what follows it up to the attempt around
it, while every block on the way is closed. Running a program is doing its deeds (`runActions_course`), those before the
first fault if there is one (`done_part`). So what holds after each deed holds at every moment of a run, and programs need
no further induction.

The braces of a course make a balanced word (`course_nested`, a `DyckWord`). From this alone:
- the depth is that of the start plus the number of open blocks (`depth_of_nested`), and it is restored at the end;
- a block is closed at the depth at which it was opened, so both of its braces have the same indentation, which is that of
  the blocks around it (`WellNested.matched`), and so have lines without a depth of their own (`WellNested.indented`);
- lines are only added, never taken away (`WellNested.grows`), and so what is rendered earlier begins what is rendered later
  (`renderings_grow`).

Proved:
- `every_run_is_well_nested`: all of this for every program from a fresh emitter, whatever its depth and whatever the indent
  and the line ending are.
-/

namespace Typewright.Emitter

open DyckStep

/-! ## Deeds -/

/-- What is done to an emitter at one moment, or seen of it. -/
inductive Deed where
  | line (text : String) (depth : Option Int)
  | blank
  | opening
  | closing
  | look
  | caught (message : String)
  | render

namespace Deed

@[simp] def depth (n : Nat) : Deed → Nat
  | opening => n + 1
  | closing => n - 1
  | line _ _ | blank | look | caught _ | render => n

def written (indent : Json) (n : Nat) : Deed → Except Misuse (List String)
  | line text depth => (indent.repeated (depth.getD n)).map fun i => [i ++ text]
  | blank => .ok [""]
  | opening => (indent.repeated n).map fun i => [i ++ "\x7b"]
  | closing => (indent.repeated (n - 1 : Nat)).map fun i => [i ++ "\x7d"]
  | look | caught _ | render => .ok []

def seen (e : Emitter) : Deed → List Event
  | look => [e.note]
  | caught message => [.caught message]
  | render => [.text e.render]
  | line _ _ | blank | opening | closing => []

@[simp] def brace? : Deed → Option DyckStep
  | opening => some U
  | closing => some D
  | line _ _ | blank | look | caught _ | render => none

end Deed

def perform (e : Emitter) : Deed → Except Fault Emitter
  | .line text depth => e.lineAt (depth.getD e.depth) text
  | .blank => .ok e.blank
  | .opening => e.openBlock
  | .closing => e.closeBlock
  | .look | .caught _ | .render => .ok e

/-- A deed appends its lines and changes the depth, and nothing else. -/
theorem perform_eq (e : Emitter) (d : Deed) :
    e.perform d =
      match d.written e.indent e.depth with
      | .ok new => .ok { e with depth := d.depth e.depth, lines := e.lines ++ new }
      | .error m => .error (.indent m) := by
  cases d with
  | line text depth =>
    simp only [perform, lineAt, Deed.written, Deed.depth]
    cases e.indent.repeated (depth.getD e.depth) <;> rfl
  | blank => rfl
  | opening =>
    simp only [perform, openBlock, line, lineAt, Deed.written, Deed.depth]
    cases e.indent.repeated e.depth <;> rfl
  | closing =>
    simp only [perform, closeBlock, line, lineAt, Deed.written, Deed.depth]
    cases e.indent.repeated (e.depth - 1 : Nat) <;> rfl
  | look | caught _ | render => simp [perform, Deed.written, Deed.depth]

theorem perform_ok {e e' : Emitter} {d : Deed} (h : e.perform d = .ok e') :
    ∃ new, d.written e.indent e.depth = .ok new ∧ e' = { e with depth := d.depth e.depth, lines := e.lines ++ new } := by
  rw [perform_eq] at h
  cases hw : d.written e.indent e.depth with
  | error m =>
    rw [hw] at h
    cases h
  | ok new =>
    rw [hw] at h
    exact ⟨new, rfl, (Except.ok.inj h).symm⟩

namespace Run

def next (r : Run) (more : Emitter → Run) : Run :=
  match r.halt with
  | some _ => r
  | none => { more r.emitter with events := r.events ++ (more r.emitter).events }

def raising (r : Run) (message : Option String) : Run := { r with halt := r.halt.or (message.map .raised) }

theorem next_next (r : Run) (f g : Emitter → Run) : (r.next f).next g = r.next fun e => (f e).next g := by
  obtain ⟨e, events, _ | h⟩ := r
  · cases hf : (f e).halt <;> simp [next, hf]
  · rfl

theorem next_raising (r : Run) (f : Emitter → Run) (message : Option String) :
    (r.next f).raising message = r.next fun e => (f e).raising message := by
  obtain ⟨e, events, _ | h⟩ := r <;> rfl

@[simp] theorem raising_none (r : Run) : r.raising none = r := by simp [raising]

theorem raising_some_next (r : Run) (message : String) (f : Emitter → Run) :
    (r.raising (some message)).next f = r.raising (some message) := by
  obtain ⟨e, events, _ | h⟩ := r <;> rfl

end Run

def performed (e : Emitter) (d : Deed) : Run :=
  match e.perform d with
  | .ok e' => ⟨e', d.seen e', none⟩
  | .error f => ⟨e, [], some (.fault f)⟩

def performAll (e : Emitter) : List Deed → Run
  | [] => ⟨e, [], none⟩
  | d :: rest => (e.performed d).next fun e' => performAll e' rest

theorem performAll_cons_ok {e e' : Emitter} {d : Deed} (h : e.perform d = .ok e') (rest : List Deed) :
    e.performAll (d :: rest) = { e'.performAll rest with events := d.seen e' ++ (e'.performAll rest).events } := by
  simp only [performAll, performed, h, Run.next]

theorem performAll_cons_error {e : Emitter} {d : Deed} {f : Fault} (h : e.perform d = .error f) (rest : List Deed) :
    e.performAll (d :: rest) = ⟨e, [], some (.fault f)⟩ := by
  simp only [performAll, performed, h, Run.next]

theorem performAll_append (e : Emitter) (a b : List Deed) :
    e.performAll (a ++ b) = (e.performAll a).next fun e' => e'.performAll b := by
  induction a generalizing e with
  | nil => rfl
  | cons d rest ih => simp only [List.cons_append, performAll, Run.next_next, ih]

/-- Deeds do not raise anything. -/
theorem performAll_halt (e : Emitter) (ds : List Deed) (message : String) :
    (e.performAll ds).halt ≠ some (.raised message) := by
  induction ds generalizing e with
  | nil => simp [performAll]
  | cons d rest ih =>
    cases h : e.perform d with
    | error f => simp [performAll_cons_error h]
    | ok e' =>
      rw [performAll_cons_ok h]
      exact ih e'

theorem performAll_frame (e : Emitter) (ds : List Deed) :
    (e.performAll ds).emitter.indent = e.indent ∧ (e.performAll ds).emitter.lineEnding = e.lineEnding ∧
      e.lines <+: (e.performAll ds).emitter.lines := by
  induction ds generalizing e with
  | nil => exact ⟨rfl, rfl, List.prefix_refl _⟩
  | cons d rest ih =>
    cases h : e.perform d with
    | error f =>
      rw [performAll_cons_error h]
      exact ⟨rfl, rfl, List.prefix_refl _⟩
    | ok e' =>
      rw [performAll_cons_ok h]
      obtain ⟨new, -, rfl⟩ := perform_ok h
      obtain ⟨hi, hl, hg⟩ := ih { e with depth := d.depth e.depth, lines := e.lines ++ new }
      exact ⟨hi, hl, (List.prefix_append _ _).trans hg⟩

theorem performAll_depth {e : Emitter} {ds : List Deed} (h : (e.performAll ds).halt = none) :
    (e.performAll ds).emitter.depth = ds.foldl Deed.depth e.depth := by
  induction ds generalizing e with
  | nil => rfl
  | cons d rest ih =>
    cases hd : e.perform d with
    | error f =>
      rw [performAll_cons_error hd] at h
      cases h
    | ok e' =>
      rw [performAll_cons_ok hd] at h ⊢
      obtain ⟨new, -, rfl⟩ := perform_ok hd
      exact ih h

theorem performAll_repeats {e : Emitter} {i : Int → String} (hi : e.indent.Repeats i) (ds : List Deed) :
    (e.performAll ds).halt = none := by
  induction ds generalizing e with
  | nil => rfl
  | cons d rest ih =>
    have hw : ∃ new, d.written e.indent e.depth = .ok new := by
      cases d <;> simp [Deed.written, hi _, Except.map]
    obtain ⟨new, hw⟩ := hw
    have hd : e.perform d = .ok { e with depth := d.depth e.depth, lines := e.lines ++ new } := by rw [perform_eq, hw]
    rw [performAll_cons_ok hd]
    exact ih hi

/-! ## The course of a program -/

/-- The deeds of a program and the message it is broken off with. -/
structure Course where
  deeds : List Deed
  raised : Option String

def Course.next (c d : Course) : Course :=
  match c.raised with
  | some _ => c
  | none => ⟨c.deeds ++ d.deeds, d.raised⟩

mutual

def Action.course : Action → Course
  | .line text depth => ⟨[.line text depth, .look], none⟩
  | .blank => ⟨[.blank, .look], none⟩
  | .lines texts depth => ⟨texts.map (.line · depth) ++ [.look], none⟩
  | .block body =>
    let c := course body
    -- The closing brace comes in any case; what is seen after it only when nothing was raised.
    ⟨.opening :: .look :: c.deeds ++ .closing :: (if c.raised.isSome then [] else [.look]), c.raised⟩
  | .attempt body =>
    let c := course body
    ⟨c.deeds ++ (c.raised.toList.map .caught ++ [.look]), none⟩
  | .raise message => ⟨[], some message⟩
  | .render => ⟨[.render], none⟩

def course : List Action → Course
  | [] => ⟨[], none⟩
  | a :: rest => a.course.next (course rest)

end

/-! ## Braces -/

def braces (ds : List Deed) : List DyckStep := ds.filterMap Deed.brace?

def openBlocks (ds : List Deed) : Nat := (braces ds).count U - (braces ds).count D

def Nested (ds : List Deed) : Prop := ∃ w : DyckWord, w.toList = braces ds

theorem braces_singleton (d : Deed) : braces [d] = d.brace?.toList := by
  cases d <;> rfl

@[simp] theorem braces_append (a b : List Deed) : braces (a ++ b) = braces a ++ braces b := List.filterMap_append

namespace Nested

theorem of_no_braces {ds : List Deed} (h : ∀ d ∈ ds, d.brace? = none) : Nested ds :=
  ⟨0, (List.filterMap_eq_nil_iff.mpr h).symm⟩

theorem append {a b : List Deed} : Nested a → Nested b → Nested (a ++ b) := by
  rintro ⟨w, hw⟩ ⟨v, hv⟩
  refine ⟨w + v, ?_⟩
  rw [braces_append, ← hw, ← hv]
  rfl

theorem block {ds : List Deed} : Nested ds → Nested (.opening :: ds ++ [.closing]) := by
  rintro ⟨w, hw⟩
  refine ⟨w.nest, ?_⟩
  simp [DyckWord.nest, hw, braces, Deed.brace?]

theorem closed_le_opened {before ds : List Deed} (h : Nested ds) (hb : before <+: ds) :
    (braces before).count D ≤ (braces before).count U := by
  obtain ⟨w, hw⟩ := h
  have hp : braces before <+: w.toList := hw ▸ hb.filterMap _
  rw [List.prefix_iff_eq_take.mp hp]
  exact w.count_D_le_count_U _

theorem closed_eq_opened {ds : List Deed} (h : Nested ds) : (braces ds).count D = (braces ds).count U := by
  obtain ⟨w, hw⟩ := h
  rw [← hw, w.count_U_eq_count_D]

theorem openBlocks_eq_zero {ds : List Deed} (h : Nested ds) : openBlocks ds = 0 := by
  rw [openBlocks, h.closed_eq_opened, Nat.sub_self]

end Nested

/-- Along nested deeds the depth grows by the number of open blocks. -/
theorem depth_of_nested {before ds : List Deed} (h : Nested ds) (hb : before <+: ds) (n : Nat) :
    before.foldl Deed.depth n = n + openBlocks before := by
  induction before using List.reverseRecOn with
  | nil => rfl
  | append_singleton before d ih =>
    have hd : (braces (before ++ [d])).count D ≤ (braces (before ++ [d])).count U := h.closed_le_opened hb
    have hbefore : (braces before).count D ≤ (braces before).count U :=
      h.closed_le_opened ((List.prefix_append _ _).trans hb)
    rw [List.foldl_append, ih ((List.prefix_append _ _).trans hb)]
    unfold openBlocks
    rw [braces_append, braces_singleton] at hd ⊢
    cases d <;> simp at hd ⊢ <;> omega

mutual

theorem action_nested : (a : Action) → Nested a.course.deeds
  | .line _ _ => .of_no_braces (by simp [Action.course])
  | .blank => .of_no_braces (by simp [Action.course])
  | .lines texts depth => by
    refine .of_no_braces fun d hd => ?_
    rcases List.mem_append.mp hd with hd | hd
    · obtain ⟨text, -, rfl⟩ := List.mem_map.mp hd
      rfl
    · obtain rfl := List.mem_singleton.mp hd
      rfl
  | .block body => by
    have hlook : Nested [.look] := .of_no_braces (by simp)
    have hafter : Nested (if (course body).raised.isSome then [] else [.look]) := by
      split
      · exact .of_no_braces (by simp)
      · exact hlook
    simpa [Action.course] using (hlook.append (course_nested body)).block.append hafter
  | .attempt body => by
    refine (course_nested body).append (.append (.of_no_braces fun d hd => ?_) (.of_no_braces (by simp)))
    obtain ⟨message, -, rfl⟩ := List.mem_map.mp hd
    rfl
  | .raise _ => .of_no_braces (by simp [Action.course])
  | .render => .of_no_braces (by simp [Action.course])

/-- The braces of a program make a balanced word, also when it is broken off. -/
theorem course_nested : (p : List Action) → Nested (course p).deeds
  | [] => .of_no_braces (by simp [course])
  | a :: rest => by
    rw [course, Course.next]
    split
    · exact action_nested a
    · exact (action_nested a).append (course_nested rest)

end

/-! ## A run is its course -/

theorem runActions_cons (e : Emitter) (a : Action) (rest : List Action) :
    runActions e (a :: rest) = (runAction e a).next fun e' => runActions e' rest := by
  rw [runActions, Run.next]
  obtain ⟨e', events, _ | h⟩ := runAction e a <;> rfl

theorem settle_look (e : Emitter) (d : Deed) (hd : ∀ e', d.seen e' = []) :
    e.settle (e.perform d) = e.performAll [d, .look] := by
  cases h : e.perform d with
  | error f => exact (performAll_cons_error h _).symm
  | ok e' =>
    rw [performAll_cons_ok h, hd]
    rfl

theorem linesAt_repeats {e : Emitter} {i : Int → String} (hi : e.indent.Repeats i) (n : Int) (texts : List String) :
    linesAt n e texts = .ok { e with lines := e.lines ++ texts.map (i n ++ ·) } := by
  induction texts generalizing e with
  | nil => simp [linesAt]
  | cons text rest ih =>
    rw [linesAt, lineAt_repeats hi]
    simpa using ih (e := { e with lines := e.lines ++ [i n ++ text] }) hi

theorem performAll_lines {e : Emitter} {i : Int → String} (hi : e.indent.Repeats i) (texts : List String) (depth : Option Int) :
    e.performAll (texts.map (.line · depth)) =
      ⟨{ e with lines := e.lines ++ texts.map (i (depth.getD e.depth) ++ ·) }, [], none⟩ := by
  induction texts generalizing e with
  | nil => simp [performAll]
  | cons text rest ih =>
    have hd : e.perform (.line text depth) = .ok { e with lines := e.lines ++ [i (depth.getD e.depth) ++ text] } :=
      lineAt_repeats hi _ text
    rw [List.map_cons, performAll_cons_ok hd, ih (e := { e with lines := e.lines ++ [i (depth.getD e.depth) ++ text] }) hi]
    simp [Deed.seen]

/-- Lines at one depth are appended all or none, for their indent can be repeated or not. -/
theorem settle_lines (e : Emitter) (texts : List String) (depth : Option Int) :
    e.settle (linesAt (depth.getD e.depth) e texts) = e.performAll (texts.map (.line · depth) ++ [.look]) := by
  rcases e.indent.repeats_or_fails with ⟨i, hi⟩ | ⟨m, hm⟩
  · rw [linesAt_repeats hi, performAll_append, performAll_lines hi]
    rfl
  · -- The first line fails already, so there is none before it to lose.
    cases texts with
    | nil => rfl
    | cons text rest =>
      have hline : e.lineAt (depth.getD e.depth) text = .error (.indent m) := by simp only [lineAt, hm]
      have hd : e.perform (.line text depth) = .error (.indent m) := hline
      rw [linesAt, hline, List.map_cons, List.cons_append, performAll_cons_error hd]
      rfl

theorem repeats_of_openBlock {e inner : Emitter} (h : e.openBlock = .ok inner) : ∃ i, e.indent.Repeats i := by
  refine e.indent.repeats_or_fails.resolve_right ?_
  rintro ⟨m, hm⟩
  simp only [openBlock, line, lineAt, hm] at h
  cases h

/-- The end of a block whose body left it one level deeper. -/
theorem endBlock_eq {e : Emitter} {outer : Nat} {i : Int → String} (hd : e.depth = outer + 1) (hi : e.indent.Repeats i)
    (events : List Event) (raised : Option String) :
    endBlock outer ⟨e, events, raised.map .raised⟩ =
      (Run.next ⟨e, events, none⟩ fun e =>
        e.performAll (.closing :: if raised.isSome then [] else [.look])).raising raised := by
  have hline : { e with depth := outer }.line "\x7d" =
      .ok { e with depth := outer, lines := e.lines ++ [i outer ++ "\x7d"] } :=
    lineAt_repeats (e := { e with depth := outer }) hi outer "\x7d"
  have hclose : e.perform .closing = .ok { e with depth := outer, lines := e.lines ++ [i outer ++ "\x7d"] } := by
    rw [perform, closeBlock, hd]
    exact hline
  rw [Run.next, performAll_cons_ok hclose, endBlock]
  simp only [hline]
  cases raised with
  | none => rfl
  | some message => simp [Run.raising, performAll, Deed.seen]

/-- A block is closed at the depth of its opening, whatever its body comes to. -/
theorem endBlock_closing {e inner : Emitter} (ho : e.openBlock = .ok inner) {ds : List Deed} (hds : Nested ds)
    (raised : Option String) :
    endBlock e.depth { (inner.performAll ds).raising raised with
      events := inner.note :: ((inner.performAll ds).raising raised).events } =
      (e.performAll (.opening :: .look :: ds ++ .closing :: (if raised.isSome then [] else [.look]))).raising raised := by
  -- A block that could be opened has an indent, so nothing in it fails.
  obtain ⟨i, hi⟩ := repeats_of_openBlock ho
  obtain ⟨new, -, hinner⟩ := perform_ok (d := .opening) ho
  have hii : inner.indent.Repeats i := by
    rw [hinner]
    exact hi
  have hhalt := performAll_repeats hii ds
  -- The body leaves the depth as it was: going back one level is going back to the depth outside.
  have hdepth : (inner.performAll ds).emitter.depth = e.depth + 1 := by
    rw [performAll_depth hhalt, depth_of_nested hds (List.prefix_refl ds), hds.openBlocks_eq_zero, hinner]
    rfl
  have hindent : (inner.performAll ds).emitter.indent.Repeats i := by
    rw [(performAll_frame inner ds).1]
    exact hii
  have hbody : e.performAll (.opening :: .look :: ds) =
      ⟨(inner.performAll ds).emitter, inner.note :: (inner.performAll ds).events, none⟩ := by
    have hlook : inner.perform .look = .ok inner := rfl
    rw [performAll_cons_ok (d := .opening) ho, performAll_cons_ok hlook, ← hhalt]
    rfl
  rw [performAll_append, hbody, ← endBlock_eq hdepth hindent]
  simp only [Run.raising, hhalt, Option.none_or]

theorem endAttempt_caught (r : Run) (hr : ∀ m, r.halt ≠ some (.raised m)) (raised : Option String) :
    endAttempt (r.raising raised) = r.next fun e => e.performAll (raised.toList.map .caught ++ [.look]) := by
  obtain ⟨e, events, _ | _ | f⟩ := r
  · cases raised <;> rfl
  · exact absurd rfl (hr _)
  · rfl

mutual

theorem runAction_course (e : Emitter) :
    (a : Action) → runAction e a = (e.performAll a.course.deeds).raising a.course.raised
  | .line text depth => by
    rw [runAction, Action.course, Run.raising_none, ← settle_look e (.line text depth) fun _ => rfl]
    rfl
  | .blank => by
    rw [Action.course, Run.raising_none, ← settle_look e .blank fun _ => rfl]
    rfl
  | .lines texts depth => by
    rw [runAction, Action.course, Run.raising_none, settle_lines]
  | .block body => by
    rw [runAction, Action.course]
    cases ho : e.openBlock with
    | error f =>
      have hd : e.perform .opening = .error f := ho
      rw [List.cons_append, performAll_cons_error hd]
      rfl
    | ok inner =>
      rw [← endBlock_closing ho (course_nested body), ← runActions_course inner body]
  | .attempt body => by
    rw [runAction, Action.course, Run.raising_none, performAll_append, runActions_course e body,
      endAttempt_caught _ (performAll_halt e _)]
  | .raise message => by rw [runAction, Action.course]; rfl
  | .render => by rw [runAction, Action.course]; rfl

/-- Running a program is doing the deeds of its course. -/
theorem runActions_course (e : Emitter) :
    (p : List Action) → runActions e p = (e.performAll (course p).deeds).raising (course p).raised
  | [] => by rw [runActions, course]; rfl
  | a :: rest => by
    rw [runActions_cons, runAction_course e a, course, Course.next]
    split
    · rename_i message h
      rw [h, Run.raising_some_next]
    · rename_i h
      rw [h, Run.raising_none, performAll_append, Run.next_raising]
      congr 1
      funext e'
      exact runActions_course e' rest

end

/-! ## At every moment -/

def after (e : Emitter) (ds : List Deed) : Emitter := (e.performAll ds).emitter

theorem halt_of_append {e : Emitter} {a b : List Deed} (h : (e.performAll (a ++ b)).halt = none) :
    (e.performAll a).halt = none ∧ ((e.after a).performAll b).halt = none := by
  rw [performAll_append, Run.next] at h
  cases ha : (e.performAll a).halt with
  | some f =>
    rw [ha] at h
    simp [ha] at h
  | none =>
    rw [ha] at h
    exact ⟨rfl, h⟩

theorem after_append {e : Emitter} {a : List Deed} (h : (e.performAll a).halt = none) (b : List Deed) :
    e.after (a ++ b) = (e.after a).after b := by
  rw [after, performAll_append, Run.next, h]
  rfl

/-- Deeds that are done one after the other from an emitter on: blocks are balanced, and depth and indentation go by them.
    What is done before a moment stands for the moment. -/
structure WellNested (e : Emitter) (ds : List Deed) : Prop where
  restored : (e.after ds).depth = e.depth
  depth {before : List Deed} : before <+: ds → (e.after before).depth = e.depth + openBlocks before
  grows {early late : List Deed} : early <+: late → late <+: ds → (e.after early).lines <+: (e.after late).lines
  balanced : Nested ds
  /-- An opening brace and the one that closes it have the indentation of the blocks around them. -/
  matched {before inside rest : List Deed} : ds = before ++ .opening :: inside ++ .closing :: rest → Nested inside →
    ∃ i, e.indent.repeated (e.depth + openBlocks before : Nat) = .ok i ∧
      (e.after (before ++ [.opening])).lines = (e.after before).lines ++ [i ++ "\x7b"] ∧
      (e.after (before ++ .opening :: inside ++ [.closing])).lines =
        (e.after (before ++ .opening :: inside)).lines ++ [i ++ "\x7d"]
  /-- So has a line for which no depth is given. -/
  indented {before rest : List Deed} {text : String} : ds = before ++ .line text none :: rest →
    ∃ i, e.indent.repeated (e.depth + openBlocks before : Nat) = .ok i ∧
      (e.after (before ++ [.line text none])).lines = (e.after before).lines ++ [i ++ text]

theorem Nested.openBlocks_inside {before inside rest : List Deed} (hn : Nested (before ++ .opening :: inside ++ rest))
    (hin : Nested inside) : openBlocks (before ++ .opening :: inside) = openBlocks before + 1 := by
  have hle : (braces before).count D ≤ (braces before).count U := hn.closed_le_opened (by simp)
  have heq := hin.closed_eq_opened
  have hcons : braces (.opening :: inside) = U :: braces inside := rfl
  simp only [openBlocks, braces_append, hcons, List.count_append, List.count_cons_self, heq,
    List.count_cons_of_ne (show U ≠ D by decide)]
  omega

theorem indentation_of_written {indent : Json} {n : Int} {text : String} {new : List String}
    (h : ((indent.repeated n).map fun i => [i ++ text]) = .ok new) : ∃ i, indent.repeated n = .ok i ∧ new = [i ++ text] := by
  cases hi : indent.repeated n with
  | error m =>
    rw [hi] at h
    cases h
  | ok i =>
    rw [hi] at h
    exact ⟨i, rfl, (Except.ok.inj h).symm⟩

section Done

variable {e : Emitter} {ds : List Deed} (h : (e.performAll ds).halt = none) (hn : Nested ds)

include h hn

theorem after_depth {before : List Deed} (hb : before <+: ds) : (e.after before).depth = e.depth + openBlocks before := by
  obtain ⟨rest, rfl⟩ := hb
  rw [after, performAll_depth (halt_of_append h).1, depth_of_nested hn (List.prefix_append _ _)]

/-- What a deed writes goes by the blocks that are open before it. -/
theorem after_deed {before rest : List Deed} {d : Deed} (hd : ds = before ++ d :: rest) :
    ∃ new, d.written e.indent (e.depth + openBlocks before) = .ok new ∧
      (e.after (before ++ [d])).lines = (e.after before).lines ++ new := by
  have hb : (e.after before).depth = e.depth + openBlocks before := after_depth h hn (hd ▸ List.prefix_append _ _)
  have hi : (e.after before).indent = e.indent := (performAll_frame e before).1
  subst hd
  obtain ⟨hbefore, hrest⟩ := halt_of_append h
  cases hp : (e.after before).perform d with
  | error f =>
    rw [performAll_cons_error hp] at hrest
    cases hrest
  | ok e' =>
    obtain ⟨new, hw, rfl⟩ := perform_ok hp
    rw [hi, hb] at hw
    refine ⟨new, hw, ?_⟩
    rw [after_append hbefore, after, performAll_cons_ok hp]
    rfl

theorem wellNested_of_done : WellNested e ds where
  restored := by rw [after_depth h hn (List.prefix_refl ds), hn.openBlocks_eq_zero, Nat.add_zero]
  depth := after_depth h hn
  grows := by
    rintro early late ⟨between, rfl⟩ ⟨rest, rfl⟩
    rw [after_append (halt_of_append (halt_of_append h).1).1]
    exact (performAll_frame _ between).2.2
  balanced := hn
  matched := by
    intro before inside rest hd hin
    have hd' : ds = before ++ .opening :: (inside ++ .closing :: rest) := by simp [hd]
    have hinside : openBlocks (before ++ .opening :: inside) = openBlocks before + 1 := by
      rw [hd] at hn
      exact hn.openBlocks_inside hin
    obtain ⟨new, hopen, hnew⟩ := after_deed h hn hd'
    obtain ⟨new', hclose, hnew'⟩ := after_deed h hn hd
    rw [hinside] at hclose
    obtain ⟨i, hi, rfl⟩ := indentation_of_written hopen
    obtain ⟨i', hi', rfl⟩ := indentation_of_written hclose
    obtain rfl : i = i' := Except.ok.inj (hi.symm.trans hi')
    exact ⟨i, hi, hnew, hnew'⟩
  indented := by
    intro before rest text hd
    obtain ⟨new, hline, hnew⟩ := after_deed h hn hd
    obtain ⟨i, hi, rfl⟩ := indentation_of_written hline
    exact ⟨i, hi, hnew⟩

end Done

/-! ## Every run -/

/-- The deeds that are done before one fails. -/
theorem done_part (e : Emitter) (ds : List Deed) :
    ∃ t, t <+: ds ∧ e.performAll t = { e.performAll ds with halt := none } ∧ ((e.performAll ds).halt = none → t = ds) := by
  induction ds generalizing e with
  | nil => exact ⟨[], List.prefix_refl _, rfl, fun _ => rfl⟩
  | cons d rest ih =>
    cases hd : e.perform d with
    | error f =>
      rw [performAll_cons_error hd]
      exact ⟨[], List.nil_prefix, rfl, by simp⟩
    | ok e' =>
      obtain ⟨t, ht, hrun, hall⟩ := ih e'
      refine ⟨d :: t, List.cons_prefix_cons.mpr ⟨rfl, ht⟩, ?_, ?_⟩
      · rw [performAll_cons_ok hd, performAll_cons_ok hd, hrun]
      · rw [performAll_cons_ok hd]
        exact fun h => congrArg (d :: ·) (hall h)

/-- Under an indent that cannot be repeated no brace is written. -/
theorem no_braces {e : Emitter} {m : Misuse} (hm : ∀ n, e.indent.repeated n = .error m) {ds : List Deed}
    (h : (e.performAll ds).halt = none) : ∀ d ∈ ds, d.brace? = none := by
  induction ds generalizing e with
  | nil => simp
  | cons d rest ih =>
    cases hd : e.perform d with
    | error f =>
      rw [performAll_cons_error hd] at h
      cases h
    | ok e' =>
      rw [performAll_cons_ok hd] at h
      obtain ⟨new, hw, rfl⟩ := perform_ok hd
      refine List.forall_mem_cons.mpr ⟨?_, ih (e := { e with depth := d.depth e.depth, lines := e.lines ++ new }) hm h⟩
      cases d with
      | opening => simp [Deed.written, hm, Except.map] at hw
      | closing => simp [Deed.written, hm, Except.map] at hw
      | _ => rfl

def Event.rendering? : Event → Option String
  | .text s => some s
  | .note _ _ _ | .caught _ => none

def renderings (events : List Event) : List String := events.filterMap Event.rendering?

theorem render_grows {e e' : Emitter} (hl : e'.lineEnding = e.lineEnding) (h : e.lines <+: e'.lines) :
    e.render.toList <+: e'.render.toList := by
  obtain ⟨more, hmore⟩ := h
  rw [render, render, ← hmore, hl, List.map_append, String.join_append, String.toList_append]
  exact List.prefix_append _ _

theorem renderings_grow (e : Emitter) (ds : List Deed) :
    (e.render :: (renderings (e.performAll ds).events ++ [(e.performAll ds).emitter.render])).Pairwise
      fun earlier later => earlier.toList <+: later.toList := by
  induction ds generalizing e with
  | nil => simp [performAll, renderings]
  | cons d rest ih =>
    cases hd : e.perform d with
    | error f => simp [performAll_cons_error hd, renderings]
    | ok e' =>
      have hstep : e.render.toList <+: e'.render.toList := by
        obtain ⟨new, -, rfl⟩ := perform_ok hd
        exact render_grows rfl (List.prefix_append _ _)
      obtain ⟨hall, hrest⟩ := List.pairwise_cons.mp (ih e')
      have hseen : renderings (d.seen e') = [] ∨ renderings (d.seen e') = [e'.render] := by
        cases d <;> simp [Deed.seen, renderings, note, Event.rendering?]
      rw [performAll_cons_ok hd]
      simp only [renderings, List.filterMap_append] at hseen hall hrest ⊢
      rcases hseen with hseen | hseen
      · rw [hseen]
        exact List.pairwise_cons.mpr ⟨fun x hx => hstep.trans (hall x hx), hrest⟩
      · rw [hseen]
        refine List.pairwise_cons.mpr ⟨fun x hx => ?_, ih e'⟩
        rcases List.mem_cons.mp hx with rfl | hx
        · exact hstep
        · exact hstep.trans (hall x hx)

/-- Every run from a fresh emitter does the deeds of its program's course, or those before the first indented line when the
    indent cannot be repeated. They are well nested, also when the run is broken off, and what is rendered only grows. -/
theorem every_run_is_well_nested (indent lineEnding : Json) (s : Nat) (p : List Action) :
    ∃ e, start indent lineEnding s = .ok e ∧ e.depth = s ∧ e.indent = indent ∧
      (runActions e p).emitter.depth = s ∧
      ((∃ i, indent.Repeats i) → (runActions e p).halt = (course p).raised.map .raised) ∧
      (∃ ds, ds <+: (course p).deeds ∧ ((∀ f, (runActions e p).halt ≠ some (.fault f)) → ds = (course p).deeds) ∧
        e.performAll ds = { runActions e p with halt := none } ∧ WellNested e ds) ∧
      (renderings (runActions e p).events ++ [(runActions e p).emitter.render]).Pairwise
        fun earlier later => earlier.toList <+: later.toList := by
  have hstart : start indent lineEnding s = .ok ⟨indent, lineEnding, s, s, []⟩ := by
    have hs : ¬ ((s : Int) < 0) := by omega
    simp [start, hs]
  generalize he : (⟨indent, lineEnding, s, s, []⟩ : Emitter) = e at hstart
  have hd : e.depth = s := by rw [← he]
  have hi : e.indent = indent := by rw [← he]
  obtain ⟨ds, hds, hrun, hall⟩ := done_part e (course p).deeds
  have hhalt : (e.performAll ds).halt = none := by rw [hrun]
  have hnested : Nested ds := by
    -- Either everything is done, or nothing is that writes a brace.
    rcases e.indent.repeats_or_fails with ⟨i, hrep⟩ | ⟨m, hm⟩
    · rw [hall (performAll_repeats hrep _)]
      exact course_nested p
    · exact .of_no_braces (no_braces hm hhalt)
  have hwell : WellNested e ds := wellNested_of_done hhalt hnested
  refine ⟨e, hstart, hd, hi, ?_, ?_, ⟨ds, hds, ?_, ?_, hwell⟩, ?_⟩ <;> rw [runActions_course]
  · have hend : (e.after ds).depth = s := hwell.restored.trans hd
    rw [after, hrun] at hend
    exact hend
  · rintro ⟨i, hrep⟩
    rw [Run.raising, performAll_repeats (hi ▸ hrep)]
    rfl
  · intro hfault
    refine hall ?_
    cases hh : (e.performAll (course p).deeds).halt with
    | none => rfl
    | some halt =>
      cases halt with
      | raised message => exact absurd hh (performAll_halt e _ message)
      | fault f => exact absurd (by rw [Run.raising, hh]; rfl) (hfault f)
  · exact hrun
  · exact (List.pairwise_cons.mp (renderings_grow e (course p).deeds)).2

example : braces (course [.attempt [.block [.block [.raise "stop", .block []], .block []]], .block []]).deeds =
    [U, U, D, D, U, D] := rfl

end Typewright.Emitter
