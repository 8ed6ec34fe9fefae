import Typewright.Proofs.Layout

/-!
Calls on one generator.

All that a call leaves behind is which templates were loaded. A library that only keeps what a fresh search would find is
`Stocked`, and it stays so through a load, also when the call is broken off later. So what a call sees of the library is the
same whatever was loaded before.

Two drafts are `Twins` when they differ in their libraries alone and both are stocked. One step takes twins to twins
(`Draft.Twins.step`), with the same fault or the same line, and so does a whole script (`Draft.Twins.run`). A generator that
may have been used (`Generator.Used`) then writes each declaration as a fresh one does and stays one that may have been used
(`Generator.Used.generate`). What is seen of a call is its text or its fault, and its log (`Written.seen`).

Proved: `calls_do_not_influence_each_other`, for calls of any number on any declarations, at any depths, those that fail
included. There are no hypotheses, and none are hidden in the generator: it is C#'s, over any settings.
-/

namespace Typewright

open Template Template.Library

namespace Draft

/-- Drafts that differ only in the templates that were loaded. -/
structure Twins (d e : Draft) : Prop where
  emitter : d.emitter = e.emitter
  log : d.log = e.log
  stocked : Stocked d.library
  stocked' : Stocked e.library

namespace Twins

theorem logged {d e : Draft} (h : Twins d e) (r : Log.Record) : Twins (d.logged r) (e.logged r) :=
  ⟨h.emitter, congrArg (· ++ [r]) h.log, h.stocked, h.stocked'⟩

theorem emitted {d e : Draft} (h : Twins d e) (r : Except Emitter.Fault Emitter) :
    (d.emitted r).2 = (e.emitted r).2 ∧ Twins (d.emitted r).1 (e.emitted r).1 := by
  cases r with
  | ok new => exact ⟨rfl, rfl, h.log, h.stocked, h.stocked'⟩
  | error f => exact ⟨rfl, h⟩

/-- Twins take a step alike, whether it succeeds or fails. -/
theorem step (comment : Json) {d e : Draft} (h : Twins d e) (s : Step) :
    (d.step Generator.memberFiles comment s).2 = (e.step Generator.memberFiles comment s).2 ∧
      Twins (d.step Generator.memberFiles comment s).1 (e.step Generator.memberFiles comment s).1 := by
  cases s with
  | note r => exact ⟨rfl, h.logged r⟩
  | require present field owner =>
    cases present with
    | true => exact ⟨rfl, h⟩
    | false => exact ⟨rfl, h.logged _⟩
  | blank => exact ⟨rfl, congrArg Emitter.blank h.emitter, h.log, h.stocked, h.stocked'⟩
  | comment | header text | line text | openBlock | closeBlock =>
    simp only [Draft.step, h.emitter]
    exact h.emitted _
  | mark a =>
    simp only [Draft.step, h.emitter]
    cases a.text with
    | ok text => exact h.emitted _
    | error m => exact ⟨rfl, h⟩
  | member name scope =>
    obtain ⟨emitter, l, log⟩ := d
    obtain ⟨emitter', l', log'⟩ := e
    obtain ⟨he, hl, hs, hs'⟩ := h
    cases he
    cases hl
    obtain ⟨hd, hsd⟩ := render_member hs name scope
    obtain ⟨he, hse⟩ := render_member hs' name scope
    simp only [Draft.step]
    cases hrd : l.render Generator.memberFiles name scope with
    | mk loaded r =>
      cases hre : l'.render Generator.memberFiles name scope with
      | mk loaded' r' =>
        rw [hrd] at hd hsd
        rw [hre] at he hse
        obtain rfl : r = r' := hd.trans he.symm
        have htwins : Twins ⟨emitter, loaded, log⟩ ⟨emitter, loaded', log⟩ := ⟨rfl, rfl, hsd, hse⟩
        cases r with
        | ok text => exact htwins.emitted _
        | error f => exact ⟨rfl, htwins⟩

theorem run (comment : Json) {d e : Draft} (h : Twins d e) (steps : List Step) :
    (d.run Generator.memberFiles comment steps).2 = (e.run Generator.memberFiles comment steps).2 ∧
      Twins (d.run Generator.memberFiles comment steps).1 (e.run Generator.memberFiles comment steps).1 := by
  induction steps generalizing d e with
  | nil => exact ⟨rfl, h⟩
  | cons s rest ih =>
    obtain ⟨hf, ht⟩ := h.step comment s
    simp only [Draft.run]
    cases hd : d.step Generator.memberFiles comment s with
    | mk d' f =>
      cases he : e.step Generator.memberFiles comment s with
      | mk e' f' =>
        rw [hd, he] at hf ht
        obtain rfl : f = f' := hf
        cases f with
        | some f => exact ⟨rfl, ht⟩
        | none => exact ih ht

end Twins

end Draft

def Written.seen (w : Written) : Except WriteFault String × List Log.Record := (w.outcome, w.log)

/-- Stocked libraries write alike, and stay stocked. -/
theorem Declaration.write_stocked {l l' : Library} (h : Stocked l) (h' : Stocked l') (s : Settings) (d : Declaration)
    (depth : Int) :
    (d.write Generator.memberFiles l s depth).seen = (d.write Generator.memberFiles l' s depth).seen ∧
      Stocked (d.write Generator.memberFiles l s depth).library := by
  simp only [Declaration.write]
  cases Emitter.start s.indent s.lineEnding depth with
  | error f => exact ⟨rfl, h⟩
  | ok e =>
    have htwins : Draft.Twins ⟨e, l, [.debug Script.source ("Rendering " ++ d.kindWord ++ " '" ++ d.name.shown
        ++ "' at depth " ++ toString depth)]⟩ ⟨e, l', _⟩ := ⟨rfl, rfl, h, h'⟩
    obtain ⟨hf, ht⟩ := htwins.run s.comment d.script
    simp only
    generalize Draft.run _ _ ⟨e, l, _⟩ _ = out at hf ht ⊢
    generalize Draft.run _ _ ⟨e, l', _⟩ _ = out' at hf ht ⊢
    obtain ⟨draft, f⟩ := out
    obtain ⟨draft', f'⟩ := out'
    obtain rfl : f = f' := hf
    simp only at ht
    cases f with
    | none => exact ⟨by simp only [Written.seen, ht.emitter, ht.log], ht.stocked⟩
    | some f => exact ⟨by simp only [Written.seen, ht.log], ht.stocked⟩

namespace Generator

/-- A generator of C# that may have been used: templates were loaded, none was added. -/
structure Used (c : Settings) (g : Generator) : Prop where
  settings : g.settings = c
  files : g.files = memberFiles
  stocked : Stocked g.currentLibrary

theorem used_fresh (c : Settings) : Used c (csharp c) := ⟨rfl, rfl, stocked_fresh⟩

theorem Used.generate {c : Settings} {g : Generator} (h : Used c g) (d : Declaration) (depth : Int) :
    (g.generate d depth).2.seen = ((csharp c).generate d depth).2.seen ∧ Used c (g.generate d depth).1 := by
  obtain ⟨hw, hs⟩ := d.write_stocked h.stocked stocked_fresh c depth
  simp only [Generator.generate, h.settings, h.files]
  exact ⟨hw, h.settings, h.files, hs⟩

def generateAll (g : Generator) : List (Declaration × Int) → List (Except WriteFault String × List Log.Record)
  | [] => []
  | (d, depth) :: rest => (g.generate d depth).2.seen :: (g.generate d depth).1.generateAll rest

/-- Calls on one generator do not influence each other: each ends in the text or the fault, and logs the records, of the same
    call on a fresh generator with these settings, also after calls that failed. -/
theorem calls_do_not_influence_each_other (c : Settings) (calls : List (Declaration × Int)) :
    (csharp c).generateAll calls = calls.map fun call => ((csharp c).generate call.1 call.2).2.seen := by
  have general : ∀ g : Generator, Used c g →
      g.generateAll calls = calls.map fun call => ((csharp c).generate call.1 call.2).2.seen := by
    induction calls with
    | nil => exact fun _ _ => rfl
    | cons call rest ih =>
      intro g hg
      obtain ⟨hseen, hused⟩ := hg.generate call.1 call.2
      rw [generateAll, List.map_cons, hseen, ih _ hused]
  exact general _ (used_fresh c)

end Generator

end Typewright
