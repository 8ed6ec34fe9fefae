import Typewright.Declaration.Script
import Typewright.Emitter
import Typewright.Settings.Basic
import Typewright.Template.Library

/-!
Carrying out the script of a declaration. Lines go to an emitter, member lines come out of a template library, and notes go
to the log; the three together are a `Draft`, and a step takes a draft to the next one or to a fault (`Draft.step`). The
first step that fails breaks the script off (`Draft.run`). What was logged and which templates were loaded up to there is
kept; of the text nothing is.

A fault is that of the part it comes from: a required collection that is missing, the indent, an attribute whose arguments
are no texts, a template that is not found or cannot be filled (`WriteFault`). A depth below zero is a fault before the
first step, but after the note that writing has begun (`Declaration.write`).

Results: which declarations are written is in `Proofs.Requirements` and `Proofs.Skeleton`, what they are written as in
`Proofs.TypeLines`, what is logged on the way in `Proofs.RenderLog`.
-/

namespace Typewright

open Files

inductive WriteFault where
  | missing (field owner : String)
  | emitter (f : Emitter.Fault)
  | attributeText (m : Misuse)
  | template (name : String) (f : Template.Fault)

def WriteFault.message : WriteFault → String
  | missing field owner => "'" ++ owner ++ "' has no " ++ field ++ " (None is not allowed)"
  | emitter f => f.message
  | attributeText m => m.message
  | template name f => f.message name

structure Draft where
  emitter : Emitter
  library : Template.Library
  log : List Log.Record

namespace Draft

/-- Takes over the emitter of a step that may fail. -/
def emitted (d : Draft) : Except Emitter.Fault Emitter → Draft × Option WriteFault
  | .ok e => ({ d with emitter := e }, none)
  | .error f => (d, some (.emitter f))

def logged (d : Draft) (r : Log.Record) : Draft := { d with log := d.log ++ [r] }

def step (files : Tree) (comment : Json) (d : Draft) : Step → Draft × Option WriteFault
  | .note r => (d.logged r, none)
  | .require present field owner =>
    if present then (d, none)
    else
      (d.logged (.error Declaration.Script.source ("Required '" ++ field ++ "' is missing on '" ++ owner ++ "'")),
        some (.missing field owner))
  | .blank => ({ d with emitter := d.emitter.blank }, none)
  | .comment => d.emitted (d.emitter.lineAt 0 comment.shown)
  | .header text => d.emitted (d.emitter.lineAt 0 text)
  | .line text => d.emitted (d.emitter.line text)
  | .mark a =>
    match a.text with
    | .ok text => d.emitted (d.emitter.line text)
    | .error m => (d, some (.attributeText m))
  | .member name scope =>
    match d.library.render files name scope with
    | (library, .ok text) => { d with library }.emitted (d.emitter.line text)
    | (library, .error f) => ({ d with library }, some (.template name f))
  | .openBlock => d.emitted d.emitter.openBlock
  | .closeBlock => d.emitted d.emitter.closeBlock

def run (files : Tree) (comment : Json) : Draft → List Step → Draft × Option WriteFault
  | d, [] => (d, none)
  | d, s :: rest =>
    match d.step files comment s with
    | (d, none) => run files comment d rest
    | (d, some f) => (d, some f)

end Draft

/-- What writing a declaration leaves behind: the text or the fault, the log, the library. -/
structure Written where
  outcome : Except WriteFault String
  log : List Log.Record
  library : Template.Library

/-- Writes a declaration at a depth. That it is written is logged before anything can fail. -/
def Declaration.write (files : Tree) (library : Template.Library) (settings : Settings) (d : Declaration)
    (depth : Int) : Written :=
  let start := Log.Record.debug Script.source
    ("Rendering " ++ d.kindWord ++ " '" ++ d.name.shown ++ "' at depth " ++ toString depth)
  match Emitter.start settings.indent settings.lineEnding depth with
  | .error f => ⟨.error (.emitter f), [start], library⟩
  | .ok e =>
    match Draft.run files settings.comment ⟨e, library, [start]⟩ d.script with
    | (draft, none) => ⟨.ok draft.emitter.render, draft.log, draft.library⟩
    | (draft, some f) => ⟨.error f, draft.log, draft.library⟩

end Typewright
