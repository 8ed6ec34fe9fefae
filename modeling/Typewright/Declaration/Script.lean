import Typewright.Declaration.Basic
import Typewright.Json.Misuse
import Typewright.Log.Record

/-!
The script of a declaration: the steps that write it, in order. The script depends on the declaration alone; depth, indent,
line ending and comment only matter when the steps are carried out (`Draft.run`), and so do the templates, of which a step
has the name and what it is filled with. That two declarations are written alike, or that one is written at all, can so be
asked of their steps.

Steps are of three sorts.
- What is written: a blank line, the comment and the header lines at the very left, lines at the depth of the block they are
  in, attributes, members through their templates, and the braces of blocks.
- What is asked: whether a required collection is there is a step too (`Step.require`), so the first one missing in the
  order of the script is the one that breaks it off, after everything before it has been logged and written.
- What is logged: a note for each nested declaration.

The order of a type is its attributes, its header line, and in its block the nested declarations, the constants, the
properties and the methods (`typeAround`). A nested declaration asks for its own collections when its turn comes, not before
(`inner`). The head of a file and the block of its namespace go around a declaration that is not nested (`freestanding`).
-/

namespace Typewright

inductive Step where
  | note (r : Log.Record)
  | require (present : Bool) (field owner : String)
  | blank
  | comment
  | header (text : String)
  | line (text : String)
  | mark (a : Attribute)
  | member (template : String) (scope : Object)
  | openBlock
  | closeBlock

/-- The text of an attribute; its arguments, if it has any, are joined inside one pair of quotes. -/
def Attribute.text (a : Attribute) : Except Misuse String :=
  match a.arguments.getD [] with
  | [] => .ok ("[" ++ a.name.shown ++ "]")
  | arguments =>
    (joinTexts "," arguments).map fun joined => "[" ++ a.name.shown ++ "(\"" ++ joined ++ "\")" ++ "]"

def spaced (pieces : List Piece) : String := String.intercalate " " (pieces.map Piece.shown)

namespace Declaration.Script

def source : String := "classgen.languages.csharp.generator"

def constantTemplate : String := "constant.cs.j2"

def propertyTemplate : String := "property.cs.j2"

def methodTemplate : String := "method_header.cs.j2"

def constantScope (c : Constant) : Object :=
  [("access", .ofOption c.access), ("type", .ofOption c.type), ("name", .ofOption c.name), ("value", c.value)]

def propertyScope (p : Property) : Object :=
  [("access", .ofOption p.access), ("type", .ofOption p.type), ("name", .ofOption p.name),
    ("is_expression_bodied", .bool p.isExpressionBodied), ("expression", p.expression)]

def parameterText (p : Parameter) : String :=
  (if p.isExtensionReceiver then "this " else "") ++ p.type.shown ++ " " ++ p.name.shown

/-- Keywords, return type and name; a constructor has no name of its own. -/
def signature (m : Method) : String :=
  spaced (m.keywords.getD [] ++ m.returnType :: if m.isConstructor then [] else [m.name])

def methodScope (isInterface : Bool) (m : Method) : Object :=
  [("signature", .text (signature m)),
    ("parameters", .list ((m.parameters.getD []).map fun p => .text (parameterText p))),
    ("base_arguments",
      match m.baseArguments with
      | some arguments => .list (arguments.map .ofOption)
      | none => .null),
    ("is_interface", .bool isInterface)]

def attributes (as : Option (List Attribute)) : List Step := (as.getD []).map .mark

def constants (cs : Option (List Constant)) : List Step :=
  (cs.getD []).map fun c => .member constantTemplate (constantScope c)

def properties (ps : Option (List Property)) : List Step :=
  (ps.getD []).map fun p => .member propertyTemplate (propertyScope p)

/-- The body of a method; one of an interface has none. -/
def body (isInterface : Bool) (m : Method) : List Step :=
  if isInterface then []
  else
    .require m.body.isSome "body" m.label :: .openBlock
      :: (m.body.getD []).map (fun l => .line l.shown) ++ [.closeBlock]

def method (isInterface : Bool) (m : Method) : List Step :=
  .require m.keywords.isSome "keywords" m.label :: .require m.parameters.isSome "parameters" m.label
    :: attributes m.attributes
      ++ .member methodTemplate (methodScope isInterface m) :: body isInterface m ++ [.blank]

def methods (isInterface : Bool) (ms : Option (List Method)) : List Step :=
  match ms.getD [] with
  | [] => []
  | ms => .blank :: ms.flatMap (method isInterface)

/-- The header line: keywords, kind, name, and what the type derives from. -/
def headline (d : Declaration) : String :=
  spaced (d.keywords.getD [] ++ some d.kindWord :: d.name
    :: match d.implementations with
      | some i => [some ":", some i]
      | none => [])

/-- The collections that every declaration must have. -/
def requirements (d : Declaration) : List Step :=
  [.require d.imports.isSome "imports" d.name.shown, .require d.keywords.isSome "keywords" d.name.shown,
    .require d.attributes.isSome "attributes" d.name.shown]

/-- Comment, usings and namespace, at the very left. -/
def fileHeader (d : Declaration) : List Step :=
  .comment :: .blank
    :: (match d.imports.getD [] with
      | [] => []
      | imports => imports.map (fun i => .header ("using " ++ i.shown ++ ";")) ++ [.blank])
    ++ [.header ("namespace " ++ d.namespace.shown)]

/-- A type around the steps of the declarations nested in it. -/
def typeAround (d : Declaration) (inner : List Step) : List Step :=
  attributes d.attributes
    ++ .line (headline d) :: .openBlock :: inner
    ++ constants d.constants ++ properties d.properties ++ methods d.isInterface d.methods ++ [.closeBlock]

mutual

def type : Declaration → List Step
  | ⟨name, «namespace», imports, keywords, attributes, implementations, properties, constants, methods, innerClasses,
      isInterface, isNested⟩ =>
    typeAround
      ⟨name, «namespace», imports, keywords, attributes, implementations, properties, constants, methods, innerClasses,
        isInterface, isNested⟩
      (innerOption innerClasses)

def innerOption : Option (List Declaration) → List Step
  | none => []
  | some ds => inner ds

/-- The steps of nested declarations, each after a blank line and before one. -/
def inner : List Declaration → List Step
  | [] => []
  | d :: rest =>
    .note (.debug source ("Rendering nested declaration '" ++ d.name.shown ++ "'"))
      :: (requirements d ++ .blank :: type d) ++ .blank :: inner rest

end

def nested (d : Declaration) : List Step := requirements d ++ .blank :: type d

def freestanding (d : Declaration) : List Step :=
  requirements d ++ fileHeader d ++ .openBlock :: type d ++ [.closeBlock]

end Declaration.Script

def Declaration.script (d : Declaration) : List Step :=
  if d.isNested then Script.nested d else Script.freestanding d

end Typewright
