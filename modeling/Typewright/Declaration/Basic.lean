import Typewright.Json.Basic

/-!
Declarations of C# classes and interfaces: what a generator is asked to write, and what extraction gives back. Names, types,
keywords and the lines of a body are texts that are not looked into (`Piece`), and a text may be missing like anything else;
it is then written as the word for nothing and is no fault.

A collection may be missing, and it depends on the collection what that means.
- Required when the declaration is written: its imports, keywords and attributes, the keywords and parameters of a method,
  and the body of a method outside an interface. A script asks for each of them (`Declaration.Script`), and the first one
  missing breaks it off.
- Not required: properties, constants, methods, nested declarations, the attributes of a method and the arguments for its
  base. Missing and empty are the same to a reader of the text (`Proofs.Visibility`).

A declaration holds others, so it is a tree (`innerClasses`). Whether it is nested is a mark of its own (`isNested`), which
only matters for the outermost one: inside another, a declaration is written as nested whatever its mark says.
-/

namespace Typewright

abbrev Piece := Option String

/-- The piece in writing; a missing one reads `None`. -/
def Piece.shown : Piece → String
  | some s => s
  | none => "None"

/-- An attribute; its arguments are written as one quoted text. -/
structure Attribute where
  name : Piece
  arguments : Option (List Piece) := none

/-- An auto-property, or one that is an expression. -/
structure Property where
  name : Piece
  type : Piece
  access : Piece := some "public"
  isExpressionBodied : Bool := false
  expression : Json := .null

structure Constant where
  name : Piece
  type : Piece
  access : Piece := some "public"
  value : Json := .text ""

/-- A parameter; the receiver of an extension method when so marked. -/
structure Parameter where
  name : Piece
  type : Piece
  isExtensionReceiver : Bool := false

/-- A method, or a constructor when it has no name: then the return type names the declaring type. -/
structure Method where
  name : Piece
  returnType : Piece
  keywords : Option (List Piece) := some []
  parameters : Option (List Parameter) := some []
  body : Option (List Piece) := some []
  attributes : Option (List Attribute) := none
  baseArguments : Option (List Piece) := none

structure Declaration where
  name : Piece
  «namespace» : Piece := some ""
  imports : Option (List Piece) := some []
  keywords : Option (List Piece) := some []
  attributes : Option (List Attribute) := some []
  implementations : Piece := none
  properties : Option (List Property) := none
  constants : Option (List Constant) := none
  methods : Option (List Method) := none
  innerClasses : Option (List Declaration) := none
  isInterface : Bool := false
  isNested : Bool := false

namespace Method

def isConstructor (m : Method) : Bool := (m.name.getD "").isEmpty

def label (m : Method) : String :=
  if m.isConstructor then m.returnType.shown ++ " constructor" else m.name.shown

end Method

def Declaration.kindWord (d : Declaration) : String := if d.isInterface then "interface" else "class"

end Typewright
