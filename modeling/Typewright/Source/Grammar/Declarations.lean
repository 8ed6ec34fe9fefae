import Typewright.Source.Grammar.Statements

/-!
Rules for declarations: types with their members, namespaces, and what stands at the top of a file. Namespaces and types
have bodies of one kind, in which the same members can stand (`declarationBody`), so a type in a namespace and a type in a
type are found alike.

Members are tried in a fixed order after their attributes and modifiers (`memberKinds`). A constructor comes before a method
and a method before a property and a field, each being told from the next by what follows its name. Only methods and
properties have a kind of their own; whatever else is a member is `other`.

What a listing looks at is marked on the way: the name, the type of a method or property, its parameters, attributes with
their names and arguments, bases. A base with arguments is two entries in a class, and one in a record (`baseList`,
`recordBaseList`).

Parts that depend on a condition are in a tree of their own, with branches inside each other (`conditional`).
-/

namespace Typewright.Source.Grammar

open Rule

/-! ## Bodies -/

/-- The body of a function: a block, a value, or none. -/
def functionBody : Rule := .first [.ref .block, .seq [mark "=>", .ref .expression, semicolon], semicolon]

def accessor : Rule := .seq [.many (.ref .attributeList), .many modifier, .token .anyWord, .ref .functionBody]

def accessors : Rule := inBraces (.many accessor)

/-- The body of a type or namespace; a semicolon may touch its end. -/
def declarationBody : Rule := .seq [.node .body (inBraces (.many (.ref .member))), opt (.token (.tight ";"))]

/-! ## Types -/

/-- The bases of a type; the arguments of a base stand beside it. -/
def baseList : Rule :=
  .node .bases (.seq [mark ":", commas (.seq [.node .base (.ref .type), opt (.node .base (.ref .argumentList))])])

/-- The bases of a record; the arguments of a base belong to it. -/
def recordBaseList : Rule :=
  .node .bases (.seq [mark ":", commas (.node .base (.seq [.ref .type, opt (.ref .argumentList)]))])

def typeRest (bases : Rule) : Rule :=
  .seq [.node .name name, .many (.first [typeParameterList, .ref .parameterList, bases]), .many constraintClause,
    .first [declarationBody, semicolon]]

def enumMember : Rule := .seq [.many (.ref .attributeList), name, opt (.seq [mark "=", .ref .expression])]

def enumMembers : Rule :=
  let choice := Rule.first ((["if", "elif", "else", "endif"] : List String).map fun d => .token (.directive d))
  .many (.first [.seq [enumMember, .first [mark ",", .ahead (mark "\x7d"), .ahead choice]], choice])

def enumRest : Rule :=
  .seq [word "enum", .node .name name, opt (.seq [mark ":", .ref .type]),
    .first [.seq [inBraces enumMembers, opt (.token (.tight ";"))], semicolon]]

def delegateRest : Rule :=
  .seq [word "delegate", .ref .type, .node .name name, opt typeParameterList, .ref .parameterList,
    .many constraintClause, semicolon]

def typeKinds : List (Kind × Rule) :=
  [(.classType, .seq [word "class", typeRest baseList]),
    (.structType, .seq [word "struct", typeRest baseList]),
    (.interfaceType, .seq [word "interface", typeRest baseList]),
    (.recordType, .seq [word "record", opt (words ["class", "struct"]), typeRest recordBaseList]),
    (.other, enumRest),
    (.other, delegateRest)]

/-! ## Members -/

/-- The interface a member is declared for, with the point after it. -/
def explicitInterface : Rule := .seq [aliasQualifier, several (.seq [simpleName, mark "."])]

def eventRest : Rule :=
  .seq [word "event", .ref .type,
    .first
      [.seq [opt explicitInterface, .node .name name, .ref .accessors],
        .seq [explicitInterface, .node .name name, semicolon],
        .seq [commas declarator, semicolon]]]

def destructorRest : Rule := .seq [mark "~", .node .name name, mark "(", mark ")", .ref .functionBody]

def constructorRest : Rule :=
  .seq [.node .name name, .ref .parameterList,
    opt (.seq [mark ":", words ["base", "this"], .ref .argumentList]), .ref .functionBody]

def conversionRest : Rule :=
  .seq [words ["implicit", "explicit"], opt explicitInterface, word "operator", opt (word "checked"), .ref .type,
    .ref .parameterList, .ref .functionBody]

def operatorName : Rule :=
  .first
    [marks ["+", "-", "!", "~", "++", "--", "*", "/", "%", "&", "|", "^", "<<", "==", "!=", "<=", ">=", "<"],
      words ["true", "false"],
      .seq [mark ">", opt (.token (.tight ">")), opt (.token (.tight ">"))]]

def operatorRest : Rule :=
  .seq [.ref .type, opt explicitInterface, word "operator", opt (word "checked"), operatorName, .ref .parameterList,
    .ref .functionBody]

def indexerRest : Rule :=
  .seq [.ref .type, opt explicitInterface, word "this", inSquares parameters,
    .first [.ref .accessors, .seq [mark "=>", .ref .expression, semicolon]]]

def methodRest : Rule :=
  .seq [.node .type (.ref .type), opt explicitInterface, .node .name name, opt typeParameterList, .ref .parameterList,
    .many constraintClause, .ref .functionBody]

def propertyRest : Rule :=
  .seq [.node .type (.ref .type), opt explicitInterface, .node .name name,
    .first
      [.seq [.ref .accessors, opt (.seq [mark "=", assigned, semicolon])],
        .seq [mark "=>", .ref .expression, semicolon]]]

def fieldRest : Rule := .seq [declarators, semicolon]

/-- What may follow attributes and modifiers in a body. -/
def memberKinds : List (Kind × Rule) :=
  typeKinds ++
    [(.other, eventRest), (.other, destructorRest), (.other, constructorRest), (.other, conversionRest),
      (.other, operatorRest), (.other, indexerRest), (.method, methodRest), (.property, propertyRest),
      (.other, fieldRest)]

def conditionalAttributes : Rule :=
  let part := several (.ref .attributeList)
  .node .directive
    (.seq [.token (.directive "if"), part, .many (.seq [.token (.directive "elif"), part]),
      opt (.seq [.token (.directive "else"), part]), .token (.directive "endif")])

def declarationHead : Rule := .seq [.many (.first [.ref .attributeList, conditionalAttributes]), .many modifier]

/-! ## Namespaces and files -/

def blockNamespace : Rule :=
  .node .blockNamespace (.seq [word "namespace", .node .name (.ref .qualifiedName), declarationBody])

def fileNamespace : Rule :=
  .node .fileNamespace (.seq [word "namespace", .node .name (.ref .qualifiedName), semicolon])

def usingDirective : Rule :=
  .node .other
    (.seq [opt (word "global"), word "using",
      .first
        [.seq [opt (word "unsafe"), .node .name name, mark "=", .ref .type, semicolon],
          .seq [.many (words ["static", "unsafe"]), .ref .qualifiedName, semicolon]]])

def externAlias : Rule := .seq [word "extern", word "alias", name, semicolon]

def member : Rule :=
  .first
    [blockNamespace, .headed declarationHead memberKinds, usingDirective, conditional .member .memberBranch]

def topItem : Rule :=
  .first
    [externAlias, usingDirective, globalAttributes, blockNamespace, fileNamespace, .headed declarationHead typeKinds,
      .ref .statement]

end Typewright.Source.Grammar
