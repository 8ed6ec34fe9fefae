import Typewright.Declaration.Basic
import Typewright.Json.Misuse

/-!
Syntax nodes: what is known of a type in source before it becomes a declaration. A node is of one of seven shapes and
carries a kind of its own, which need not fit the shape; reading a field that the shape lacks is a misuse, with the shape
and the field in its message (`Node.without`). A kind is a word and may be missing; attributes and parameters have none.

So nothing here says that nodes fit together. A member that calls itself a method but has the shape of a property can be
built, and extraction finds out when it reads the return type. Nodes that a source is read into do fit, which is a theorem
and not a type (`Proofs.Declared`).

A type has its members as nodes, and its parent as one. Parents are looked at in one way only, whether they are a namespace
(`Node.namespace?`): that is a scope of the kind namespace, and a type of this kind is none.
-/

namespace Typewright.Syntax

structure Parameter where
  identifier : Piece
  type : Piece
  deriving DecidableEq

abbrev AttributeLists := Option (List (List Attribute))

inductive Node where
  | scope (name kind : Piece)
  | attributeNode (name : Piece) (arguments : Option (List Piece))
  | parameterNode (identifier type : Piece)
  | methodNode (identifier returnType : Piece) (parameters : Option (List Parameter)) (attributeLists : AttributeLists)
      (kind : Piece)
  | propertyNode (identifier type kind : Piece)
  | member (identifier kind : Piece)
  | typeNode (identifier kind : Piece)

structure TypeNode where
  identifier : Piece
  kind : Piece := some "class"
  attributeLists : AttributeLists := some []
  baseList : Option (List Piece) := none
  members : Option (List Node) := some []
  parent : Option Node := none

namespace Node

def shape : Node → String
  | scope _ _ => "ScopeSyntax"
  | attributeNode _ _ => "AttributeSyntax"
  | parameterNode _ _ => "ParameterSyntax"
  | methodNode _ _ _ _ _ => "MethodSyntax"
  | propertyNode _ _ _ => "PropertySyntax"
  | member _ _ => "MemberSyntax"
  | typeNode _ _ => "TypeDeclarationSyntax"

def without (n : Node) (field : String) : Misuse := .lacks n.shape field

def kind (n : Node) : Except Misuse Piece :=
  match n with
  | scope _ k | methodNode _ _ _ _ k | propertyNode _ _ k | member _ k | typeNode _ k => .ok k
  | attributeNode _ _ | parameterNode _ _ => .error (n.without "kind")

def identifier (n : Node) : Except Misuse Piece :=
  match n with
  | parameterNode i _ | methodNode i _ _ _ _ | propertyNode i _ _ | member i _ | typeNode i _ => .ok i
  | scope _ _ | attributeNode _ _ => .error (n.without "identifier")

def returnType (n : Node) : Except Misuse Piece :=
  match n with
  | methodNode _ t _ _ _ => .ok t
  | _ => .error (n.without "return_type")

def type (n : Node) : Except Misuse Piece :=
  match n with
  | parameterNode _ t | propertyNode _ t _ => .ok t
  | _ => .error (n.without "type")

def parameters (n : Node) : Except Misuse (List Parameter) :=
  match n with
  | methodNode _ _ (some ps) _ _ => .ok ps
  | methodNode _ _ none _ _ => .error (.notIterable "NoneType")
  | _ => .error (n.without "parameters")

def attributeLists (n : Node) : Except Misuse AttributeLists :=
  match n with
  | methodNode _ _ _ as _ => .ok as
  | _ => .error (n.without "attribute_lists")

/-- The name of the namespace that a node is. -/
def namespace? : Node → Option Piece
  | scope name (some "namespace") => some name
  | _ => none

/-- How messages describe a node: by its kind, or by its shape when it has none. -/
def described (n : Node) : String :=
  match n.kind with
  | .ok (some k) => "a " ++ k ++ " node"
  | _ => n.shape

end Node

/-- The namespace that a type stands directly in. -/
def TypeNode.namespace? (t : TypeNode) : Option Piece := t.parent.bind Node.namespace?

end Typewright.Syntax
