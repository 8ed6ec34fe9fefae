import Typewright.Log.Record
import Typewright.Source.Grammar
import Typewright.Syntax.Node

/-!
The types of a source, in the order in which they start, outer ones before those inside them. Each is listed with its
attributes, bases and members, and with the scope it stands in as its parent.

A type in the body of a namespace or of another type has that as its parent. Elsewhere its parent is the nearest namespace
without a body that was declared before it among its neighbours, and otherwise nothing that has a name. Parts that depend on
a condition are neighbourhoods of their own.

Looking for a parent starts at the type and goes up: to the tree right above it, or to the one above that where it is a
body, through one body and no more; then back among the neighbours. The listing goes down instead, and hands on what a look
from there would find (`Surroundings`): the tree above, the tree around, which differs from it inside a body, and the last
namespace without a body before. That both are the same is a theorem about every tree (`Proofs.Places`), whatever stands
directly in what; a namespace without a body is a scope like one with a body, so it would be the parent of a type right in
it. In the trees of a source nothing of the sort occurs (`Proofs.TreeShapes`), but neither result needs the other.

Members are listed as they stand in the body: methods and properties in full, of others the name alone. Notes count: a note
before a member is a member of its own, without a name, and a note among bases is a base (`noteMembers`, `basesOf`).
-/

namespace Typewright.Source

open Syntax

def typeWord? : Kind → Option String
  | .classType => some "class"
  | .structType => some "struct"
  | .interfaceType => some "interface"
  | .recordType => some "record"
  | _ => none

namespace Tree

def attributeOf (t : Tree) : Attribute where
  name := some (t.childText .name)
  arguments := (t.childrenOf .arguments).head?.map fun a => (a.childrenOf .argument).map (some ·.text)

def attributeLists (t : Tree) : List (List Attribute) :=
  (t.childrenOf .attributes).map fun l => (l.childrenOf .attributeNode).map attributeOf

def parameters (t : Tree) : List Syntax.Parameter :=
  match t.childrenOf .parameters with
  | list :: _ => (list.childrenOf .parameter).map fun p => ⟨some (p.childText .name), some (p.childText .type)⟩
  | [] => []

/-- A declaration as a member: methods and properties in full, of others the name alone. -/
def memberNode (t : Tree) : Node :=
  match t.kind? with
  | some .method =>
    .methodNode (some (t.childText .name)) (some (t.childText .type)) (some t.parameters) (some t.attributeLists)
      (some "method")
  | some .property => .propertyNode (some (t.childText .name)) (some (t.childText .type)) (some "property")
  | _ => .member (some (t.childText .name)) (some "other")

/-- The notes before a tree, as members. -/
def noteMembers (t : Tree) : List Node := t.notes.map fun _ => .member (some "") (some "other")

/-- A tree inside a body: the notes before it, and itself unless it is the closing brace. -/
def membersOf (t : Tree) : List Node := t.noteMembers ++ if t.kind?.isSome then [t.memberNode] else []

/-- The members in a body, after its opening brace. -/
def bodyMembers (body : Tree) : List Node := body.children.tail.flatMap membersOf

def members (t : Tree) : List Node := (t.childrenOf .body).flatMap bodyMembers

/-- A tree in a list of bases: the notes before it, and its source unless it is a mark. -/
def basesOf (t : Tree) : List String := t.notes ++ if t.kind?.isSome then [t.text] else []

def bases? (t : Tree) : Option (List Piece) :=
  (t.childrenOf .bases).head?.map fun b => (b.children.tail.flatMap basesOf).map some

/-- A declaration as the scope of what it holds. -/
def scope? : Tree → Option Node
  | .leaf _ => none
  | .node kind children =>
    let name := (Tree.node kind children).childText .name
    match kind with
    | .blockNamespace | .fileNamespace => some (.scope (some name) (some "namespace"))
    | _ => (typeWord? kind).map fun w => .scope (some name) (some w)

/-- A namespace without a body, as the scope of what follows it. -/
def fileScope? (t : Tree) : Option Node := if t.kind? == some .fileNamespace then t.scope? else none

/-- A tree as a type, under its parent. -/
def typeNode? (parent : Node) (t : Tree) : Option TypeNode :=
  match t.kind?.bind typeWord? with
  | some w =>
    some
      { identifier := some (t.childText .name), kind := some w, attributeLists := some t.attributeLists,
        baseList := t.bases?, members := some t.members, parent := some parent }
  | none => none

end Tree

/-- The parent of what stands nowhere in particular. -/
def noScope : Node := .scope (some "") (some "other")

/-- What a tree stands among, each as a scope. -/
structure Surroundings where
  /-- The tree right above. -/
  above : Option Node := none
  /-- The tree above, or the one above that where it is a body. -/
  around : Option Node := none
  /-- The last namespace without a body among the neighbours before. -/
  before : Option Node := none

namespace Surroundings

def parent (s : Surroundings) : Node := (s.around <|> s.before).getD noScope

def inside (s : Surroundings) (t : Tree) : Surroundings where
  above := t.scope?
  around := if t.kind? = some .body then s.above else t.scope?

def past (s : Surroundings) (t : Tree) : Surroundings := { s with before := t.fileScope? <|> s.before }

end Surroundings

mutual

def Tree.types (s : Surroundings) : Tree → List TypeNode
  | .leaf _ => []
  | .node kind children =>
    let self := Tree.node kind children
    (self.typeNode? s.parent).toList ++ treeTypes (s.inside self) children

def treeTypes (s : Surroundings) : List Tree → List TypeNode
  | [] => []
  | t :: rest => t.types s ++ treeTypes (s.past t) rest

end

def types? (source : String) : Option (List TypeNode) := (read? source).map (treeTypes {})

/-! ## The listing with its log -/

def logSource : String := "classgen.languages.csharp.parser"

def faultMessage : String := "C# source contains syntax errors"

def foundNote (ts : List TypeNode) : Log.Record :=
  .debug logSource ("Found " ++ toString ts.length ++ " type declarations")

end Typewright.Source
