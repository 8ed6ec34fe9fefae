import Typewright.Source.Rule

/-!
Rules for types, names, attributes and parameters, which all other rules use. A type is a predefined word, a tuple, a
pointer to a function or a name with its arguments, with any number of ranks, question marks and stars behind it; after a
type test, where a question mark can also ask for a value, it belongs to the type only in front of what ends an expression
(`testedType`).

Attributes and parameters build trees, since listings give them back: an attribute has a name and perhaps arguments, each
with its own text; a parameter has a name and perhaps a type. A parameter that takes all further arguments is read but
builds no tree, so it is not listed (`parameterArray`).
-/

namespace Typewright.Source.Grammar

open Rule

/-! ## Names and types -/

def simpleName : Rule := .seq [name, opt (.ref .typeArguments)]

def aliasQualifier : Rule := opt (.seq [name, mark "::"])

def qualifiedName : Rule := .seq [aliasQualifier, simpleName, .many (.seq [mark ".", simpleName])]

/-- The arguments of a generic name; all of them may be left open. -/
def typeArguments : Rule := .seq [mark "<", .first [commas (.ref .type), .many (mark ",")], mark ">"]

/-- The elements of a tuple are at least two. -/
def tupleType : Rule :=
  let element := Rule.seq [.ref .type, opt name]
  inParens (.seq [element, several (.seq [mark ",", element])])

def functionPointer : Rule :=
  .seq [word "delegate", mark "*", opt (words ["managed", "unmanaged"]), opt (inSquares (commas name)), mark "<",
    commas (.seq [.many (words ["ref", "out", "in", "readonly"]), .ref .type]), mark ">"]

/-- A type before the marks that may follow it. -/
def plainType : Rule := .first [.token .predefined, tupleType, functionPointer, .ref .qualifiedName]

def rankMark : Rule := inSquares (.many (mark ","))

def type : Rule :=
  .first
    [.seq [word "ref", opt (word "readonly"), .ref .type],
      .seq [plainType, .many (.first [marks ["?", "*"], rankMark])]]

/-- The type after a type test: a question mark belongs to it only where no value can follow. -/
def testedType : Rule :=
  .seq [plainType, .many (.first [mark "*", rankMark]),
    opt (.seq [mark "?", .ahead (marks [")", ";", ",", "]", "\x7d", "??", "&&", "||", "==", "!=", ":"])])]

/-! ## Attributes -/

def attributeArgument : Rule := .node .argument (.seq [opt (.seq [name, marks [":", "="]]), .ref .expression])

def attributeEntry : Rule :=
  .node .attributeNode
    (.seq [.node .name (.ref .qualifiedName), opt (.node .arguments (inParens (optCommas attributeArgument)))])

def attributeTarget : Rule := .seq [.token .anyWord, mark ":"]

def attributeList : Rule :=
  .node .attributes (.seq [mark "[", opt attributeTarget, commas attributeEntry, opt (mark ","), mark "]"])

def globalAttributes : Rule :=
  .seq [mark "[", words ["assembly", "module"], mark ":", commas attributeEntry, opt (mark ","), mark "]"]

/-! ## Parameters -/

def parameterModifier : Rule :=
  .first
    [words ["ref", "out", "in", "this", "readonly"],
      .seq [word "scoped", .ahead (.first [words ["ref", "in", "out"], .seq [.ref .type, name]])]]

/-- A parameter: its type may be missing. -/
def parameter : Rule :=
  .node .parameter
    (.seq [.many (.ref .attributeList), .many parameterModifier,
      .first [.seq [.node .type (.ref .type), .node .name name], .node .name name],
      opt (.seq [mark "=", .ref .expression])])

/-- A parameter that takes all further arguments. It counts as none of the list's parameters. -/
def parameterArray : Rule := .seq [.many (.ref .attributeList), word "params", opt (word "scoped"), .ref .type, name]

def parameters : Rule := optCommas (.first [parameterArray, .ref .parameter])

def parameterList : Rule := .node .parameters (inParens parameters)

/-! ## Generic declarations -/

def typeParameterList : Rule :=
  .seq [mark "<", commas (.seq [.many (.ref .attributeList), opt (words ["in", "out"]), name]), mark ">"]

def constraint : Rule :=
  .first
    [.seq [word "class", opt (mark "?")], word "struct", .seq [word "new", mark "(", mark ")"], word "default",
      .seq [word "allows", word "ref", word "struct"], .ref .type]

def constraintClause : Rule := .seq [word "where", name, mark ":", commas constraint]

end Typewright.Source.Grammar
