import Typewright.Extraction
import Typewright.Source.Listing

/-!
The declarations of a source: those of its types that stand directly in a namespace, in order. The others are passed over
with a note, types nested in types among them.

A source that has no trees is one fault, with one message, and nothing is logged (`listTypes`). Otherwise the number of
types is logged first. The first type that cannot be extracted ends the extraction, and what was extracted before it is lost
while its log is kept (`extractTypes`).

Results: which types are extracted, and with which namespace, is in `Proofs.InnermostNamespace` and `Proofs.Places`; that
what a plain declaration is written as gives the declaration back, as far as it is public, in `Proofs.ReadBack`.
-/

namespace Typewright.Source

open Syntax

inductive Fault where
  | notSource
  | extraction (f : ExtractFault)

def Fault.message : Fault → String
  | notSource => faultMessage
  | extraction f => f.message

structure Reading (α : Type) where
  outcome : Except Fault α
  log : List Log.Record

def listTypes (source : String) : Reading (List TypeNode) :=
  match types? source with
  | none => ⟨.error .notSource, []⟩
  | some ts => ⟨.ok ts, [foundNote ts]⟩

/-- The kind of what a type stands in. -/
def parentKind? (t : TypeNode) : Option Piece := t.parent.bind fun p => p.kind.toOption

def skipNote (t : TypeNode) : Log.Record :=
  .debug logSource ("Skipping '" ++ t.identifier.shown ++ "': not declared in a namespace")

def Reading.after {α : Type} (log : List Log.Record) (r : Reading α) : Reading α := { r with log := log ++ r.log }

def extractTypes (imports : List Piece) : List TypeNode → Reading (List Declaration)
  | [] => ⟨.ok [], []⟩
  | t :: rest =>
    if parentKind? t != some (some "namespace") then (extractTypes imports rest).after [skipNote t]
    else
      match t.extract imports with
      | ⟨.error f, log⟩ => ⟨.error (.extraction f), log⟩
      | ⟨.ok d, log⟩ =>
        let more := extractTypes imports rest
        ⟨more.outcome.map (d :: ·), log ++ more.log⟩

def extract (source : String) (imports : List Piece) : Reading (List Declaration) :=
  match listTypes source with
  | ⟨.error f, log⟩ => ⟨.error f, log⟩
  | ⟨.ok ts, log⟩ => (extractTypes imports ts).after log

end Typewright.Source
