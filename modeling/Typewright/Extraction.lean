import Typewright.Log.Record
import Typewright.Syntax.Node
import Typewright.Text.Quoted

/-!
The declaration of a type found in source. It holds the public surface only: methods with empty bodies and properties, all
of them public, under the type's name, attributes and bases. The type must stand directly in a namespace, which becomes the
last of its imports; a type in another type, or in a file without a namespace, has no declaration
(`ExtractFault.noNamespace`).

Nodes are read as they are met, field by field, and a field that a node does not have is a misuse (`Syntax.Node`). The order
of reading is therefore part of what is modelled, since the first misuse is the one reported: bases, attributes, all
methods, then all properties (`inNamespace`). Members are gone through twice, and each time those of another kind are passed
over. A method is noted in the log before its parts are read, so the note of the method that failed is the last one
(`methods`).

The arguments of an attribute lose their double quotes, all of them and not only those around (`argument`). Whether the type
is a class, an interface, a struct or a record is not kept: what comes out is a class.

Results: that the surface alone decides and is carried over one for one is in `Proofs.Surface`, for types that are read from
a source in `Proofs.Declared` and `Proofs.ReadBack`.
-/

namespace Typewright

open Syntax

inductive ExtractFault where
  | noNamespace (identifier : Piece) (parent : Option Node)
  | misuse (m : Misuse)

def ExtractFault.message : ExtractFault → String
  | noNamespace identifier parent =>
    "Cannot determine the namespace of '" ++ identifier.shown ++ "': parent is "
      ++ (match parent with
        | some p => p.described
        | none => "missing")
      ++ ", expected a namespace"
  | misuse m => m.message

structure Extracted where
  outcome : Except ExtractFault Declaration
  log : List Log.Record

namespace Extraction

def source : String := "classgen.languages.csharp.extractor"

/-- An argument without its double quotes. -/
def argument : Piece → Except Misuse Piece
  | some s => .ok (some (Text.stripQuotes s))
  | none => .error (.lacks "NoneType" "replace")

def plainAttribute (a : Attribute) : Except Misuse Attribute :=
  match a.arguments with
  | none => .ok a
  | some arguments => (arguments.mapM argument).map fun arguments => { a with arguments := some arguments }

def attributes (lists : AttributeLists) : Except Misuse (List Attribute) := (lists.getD []).flatten.mapM plainAttribute

def methodNote (owner identifier : Piece) : Log.Record :=
  .debug source ("Extracting method " ++ owner.shown ++ "." ++ identifier.shown)

/-- A method under its identifier: public, with an empty body. -/
def methodOf (n : Node) (identifier : Piece) : Except Misuse Method :=
  match n.returnType with
  | .error m => .error m
  | .ok returnType =>
    match n.parameters with
    | .error m => .error m
    | .ok parameters =>
      match n.attributeLists with
      | .error m => .error m
      | .ok lists =>
        (attributes lists).map fun attributes =>
          { name := identifier, returnType, keywords := some [some "public"],
            parameters := some (parameters.map fun p => { name := p.identifier, type := p.type }),
            body := some [], attributes := some attributes }

/-- The methods among members, with the notes of those that were read. -/
def methods (owner : Piece) : List Node → List Log.Record × Except Misuse (List Method)
  | [] => ([], .ok [])
  | n :: rest =>
    match n.kind with
    | .error m => ([], .error m)
    | .ok kind =>
      if kind != some "method" then methods owner rest
      else
        match n.identifier with
        | .error m => ([], .error m)
        | .ok identifier =>
          match methodOf n identifier with
          | .error m => ([methodNote owner identifier], .error m)
          | .ok method =>
            let more := methods owner rest
            (methodNote owner identifier :: more.1, more.2.map (method :: ·))

def propertyOf (n : Node) : Except Misuse Property :=
  match n.identifier with
  | .error m => .error m
  | .ok identifier => n.type.map fun type => { name := identifier, type }

def properties : List Node → Except Misuse (List Property)
  | [] => .ok []
  | n :: rest =>
    match n.kind with
    | .error m => .error m
    | .ok kind =>
      if kind != some "property" then properties rest
      else
        match propertyOf n with
        | .error m => .error m
        | .ok p => (properties rest).map (p :: ·)

/-- The bases as one text. -/
def implementations : Option (List Piece) → Except Misuse Piece
  | none => .ok none
  | some bases => (joinTexts "," bases).map some

def doneNote (d : Declaration) (scope : Piece) : Log.Record :=
  .info source
    ("Extracted '" ++ d.name.shown ++ "' from namespace '" ++ scope.shown ++ "': "
      ++ toString (d.methods.getD []).length ++ " methods, "
      ++ toString (d.properties.getD []).length ++ " properties")

/-- Extraction from a type in a namespace: bases, attributes, methods, properties. -/
def inNamespace (t : TypeNode) (imports : List Piece) (scope : Piece) : Extracted :=
  match implementations t.baseList with
  | .error m => ⟨.error (.misuse m), []⟩
  | .ok implementations =>
    match attributes t.attributeLists with
    | .error m => ⟨.error (.misuse m), []⟩
    | .ok attributes =>
      match t.members with
      | none => ⟨.error (.misuse (.notIterable "NoneType")), []⟩
      | some members =>
        match methods t.identifier members with
        | (notes, .error m) => ⟨.error (.misuse m), notes⟩
        | (notes, .ok methods) =>
          match properties members with
          | .error m => ⟨.error (.misuse m), notes⟩
          | .ok properties =>
            let d : Declaration :=
              { name := t.identifier, imports := some (imports ++ [scope]), keywords := some [some "public"],
                attributes := some attributes, implementations, methods := some methods,
                properties := some properties }
            ⟨.ok d, notes ++ [doneNote d scope]⟩

end Extraction

/-- The declaration of a type, with the imports already known. -/
def Syntax.TypeNode.extract (t : TypeNode) (imports : List Piece) : Extracted :=
  match t.namespace? with
  | some scope => Extraction.inNamespace t imports scope
  | none =>
    ⟨.error (.noNamespace t.identifier t.parent),
      [.error Extraction.source ("Type '" ++ t.identifier.shown ++ "' is not declared inside a namespace")]⟩

end Typewright
