import Typewright.Source.Grammar.Types

/-!
Rules for expressions and patterns. Only the extent of an expression matters, so operators of all ranks are taken from left
to right, and what is a call, a cast or a generic name is settled only as far as the end of the expression depends on it.

The order of alternatives and a look at what follows carry the rest. A lambda and a cast are tried before an expression in
parentheses, the cast only in front of what can start an operand (`castFollow`). An opening angle bracket starts type
arguments only if what follows them can follow a name (`afterTypeArguments`), and otherwise it compares. A pattern is a type
alone only where a pattern can end (`afterTypePattern`).
-/

namespace Typewright.Source.Grammar

open Rule

/-! ## Arguments -/

/-- An argument: by name, by reference, or as a new variable. -/
def argument : Rule :=
  .seq [opt (.seq [name, mark ":"]),
    .first [.seq [word "out", .ref .type, name], .seq [opt (words ["ref", "out", "in"]), .ref .expression]]]

def argumentList : Rule := inParens (optCommas argument)

def indexList : Rule := inSquares (optCommas argument)

/-! ## Initialisers -/

def assigned : Rule := .first [.ref .initializer, .ref .expression]

def initializerElement : Rule :=
  .first
    [.ref .initializer, .seq [indexList, mark "=", assigned], .seq [name, mark "=", assigned], .ref .expression]

def initializer : Rule := inBraces (looseCommas initializerElement)

/-! ## Patterns -/

def designation : Rule := .token .plainName

/-- What may follow a pattern that is only a type. -/
def afterTypePattern : Rule :=
  .first
    [marks [")", ",", ":", "=>", ";", "]", "\x7d", "&&", "||", "?", "==", "!=", "??"], words ["and", "or", "when"]]

def propertyPattern : Rule :=
  inBraces (looseCommas (.seq [.seq [name, .many (.seq [mark ".", name])], mark ":", .ref .pattern]))

def positionalPattern : Rule := inParens (optCommas (.seq [opt (.seq [name, mark ":"]), .ref .pattern]))

def afterTestedType : Rule :=
  .first
    [.seq [positionalPattern, opt propertyPattern, opt designation, .ahead afterTypePattern],
      .seq [propertyPattern, opt designation],
      designation,
      .ahead afterTypePattern]

def primaryPattern : Rule :=
  .first
    [.seq [word "not", .ref .pattern],
      .seq [marks ["<", ">", "<=", ">="], .ref .operand],
      .seq [word "var", .first [designation, inParens (commas designation)]],
      .seq [inSquares (looseCommas (.first [.seq [mark "..", opt (.ref .pattern)], .ref .pattern])), opt designation],
      .seq [propertyPattern, opt designation],
      .seq [testedType, afterTestedType],
      .seq [positionalPattern, opt propertyPattern, opt designation, .ahead afterTypePattern],
      .ref .expression]

def pattern : Rule := .seq [primaryPattern, .many (.seq [words ["and", "or"], primaryPattern])]

/-! ## Functions as values -/

def lambda : Rule :=
  .seq [.many (.ref .attributeList), .many (words ["static", "async"]),
    .first [.ref .parameterList, name, .seq [.ref .type, .ref .parameterList]], mark "=>",
    .first [.ref .block, .ref .expression]]

def anonymousMethod : Rule :=
  .seq [.many (words ["static", "async"]), word "delegate", opt (.ref .parameterList), .ref .block]

/-! ## Queries -/

def rangeVariable : Rule := .first [.seq [.ref .type, name, word "in"], .seq [name, word "in"]]

def fromClause : Rule := .seq [word "from", rangeVariable, .ref .expression]

def queryClause : Rule :=
  .first
    [fromClause,
      .seq [word "let", name, mark "=", .ref .expression],
      .seq [word "where", .ref .expression],
      .seq [word "join", rangeVariable, .ref .expression, word "on", .ref .expression, word "equals",
        .ref .expression, opt (.seq [word "into", name])],
      .seq [word "orderby", commas (.seq [.ref .expression, opt (words ["ascending", "descending"])])],
      .seq [word "select", .ref .expression],
      .seq [word "group", .ref .expression, word "by", .ref .expression],
      .seq [word "into", name]]

def query : Rule := .seq [fromClause, several queryClause]

/-! ## Operands -/

/-- What can follow the type of a cast: the start of an operand. -/
def castFollow : Rule :=
  .first
    [.token .plainName, .token .literal, .token .predefined,
      words ["this", "base", "new", "typeof", "sizeof", "default", "checked", "unchecked", "null", "true", "false",
        "delegate", "stackalloc"],
      marks ["(", "!", "~", "+", "-", "&", "*", "++", "--", "[", "^"]]

def cast : Rule := .seq [inParens (.ref .type), .ahead castFollow, .ref .operand]

def tupleElement : Rule := .first [.seq [.ref .type, name, .ahead (marks [",", ")"])], argument]

def collection : Rule := inSquares (looseCommas (.seq [opt (mark ".."), .ref .expression]))

/-- The type of a new value; a question mark belongs to it only before a length. -/
def createdType : Rule := .seq [plainType, .many (mark "*"), opt (.seq [mark "?", .ahead (mark "[")])]

def lengths : Rule := inSquares (.many (.first [mark ",", .ref .expression]))

def creation : Rule :=
  .seq [word "new",
    .first
      [.seq [.ref .argumentList, opt (.ref .initializer)],
        .seq [rankMark, .ref .initializer],
        .ref .initializer,
        .seq [createdType,
          .first
            [.seq [several lengths, opt (.ref .initializer)], .seq [.ref .argumentList, opt (.ref .initializer)],
              .ref .initializer]]]]

def stackCreation : Rule := .seq [word "stackalloc", opt createdType, lengths, opt (.ref .initializer)]

/-- What may follow type arguments in an expression; otherwise the bracket is a comparison. -/
def afterTypeArguments : Rule :=
  marks ["(", ")", "]", "\x7b", "\x7d", ":", ";", ",", ".", "?", "==", "!=", "|", "^", "&&", "||", "&", "[", ">", "=>", "??"]

def nameOperand : Rule :=
  .seq [aliasQualifier, name, opt (.seq [.ref .typeArguments, .ahead afterTypeArguments])]

def primary : Rule :=
  .first
    [.token .literal,
      words ["null", "true", "false", "this", "base"],
      .token .predefined,
      .seq [words ["typeof", "sizeof"], inParens (.ref .type)],
      .seq [word "default", opt (inParens (.ref .type))],
      .seq [words ["checked", "unchecked"], inParens (.ref .expression)],
      creation, stackCreation, anonymousMethod,
      inParens (commas tupleElement),
      collection,
      nameOperand]

def access : Rule := .seq [marks [".", "->", "::"], name, opt (.seq [.ref .typeArguments, .ahead afterTypeArguments])]

def conditionalAccess : Rule :=
  .seq [mark "?",
    .first
      [.seq [.token (.tight "."), name, opt (.seq [.ref .typeArguments, .ahead afterTypeArguments])],
        .seq [.ahead (.token (.tight "[")), indexList]]]

def stepMark : Rule := marks ["++", "--"]

def trailer : Rule := .first [access, conditionalAccess, indexList, .ref .argumentList, stepMark, mark "!"]

def operand : Rule :=
  .first
    [lambda, query, cast,
      .seq [marks ["+", "-", "!", "~", "++", "--", "&", "*", "^"], .ref .operand],
      .seq [word "await", .ref .operand],
      .seq [words ["throw", "ref"], .ref .expression],
      .seq [mark "..", opt (.ref .operand)],
      .seq [primary, .many trailer]]

/-! ## Operators -/

def assignMark : Rule :=
  .first
    [marks ["=", "+=", "-=", "*=", "/=", "%=", "&=", "|=", "^=", "<<=", "??="],
      .seq [mark ">", opt (.token (.tight ">")), .token (.tight ">=")]]

/-- A shift to the right is made of closing brackets that touch. -/
def operatorMark : Rule :=
  .first
    [marks ["||", "&&", "|", "^", "&", "==", "!=", "<=", ">=", "<<", "+", "-", "*", "/", "%", "??", "<"],
      .seq [mark ">", opt (.token (.tight ">")), opt (.token (.tight ">"))]]

def switchArm : Rule :=
  .seq [.ref .pattern, opt (.seq [word "when", .ref .expression]), mark "=>", .ref .expression]

def continuation : Rule :=
  .first
    [.seq [assignMark, .ref .expression],
      .seq [mark "?", .ref .expression, mark ":", .ref .expression],
      .seq [word "is", .ref .pattern],
      .seq [word "as", testedType],
      .seq [word "switch", inBraces (looseCommas switchArm)],
      .seq [word "with", .ref .initializer],
      .seq [mark "..", opt (.ref .operand)],
      .seq [operatorMark, .ref .operand]]

def expression : Rule := .seq [.ref .operand, .many continuation]

end Typewright.Source.Grammar
