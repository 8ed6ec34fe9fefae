import Typewright.Source.Grammar.Expressions

/-!
Rules for statements, those of blocks and those at the top of a file. As with expressions only their extent matters. An
expression is a statement only if it does something (`effect`). Functions and variables are tried before expressions, and
modifiers that are names elsewhere count only where a declaration goes on behind them (`modifier`).
-/

namespace Typewright.Source.Grammar

open Rule

def semicolon : Rule := mark ";"

def block : Rule := inBraces (.many (.ref .statement))

/-! ## Declarations in blocks -/

def declarator : Rule := .seq [name, opt indexList, opt (.seq [mark "=", assigned])]

def declarators : Rule := .seq [.ref .type, commas declarator]

/-- The modifiers of a declaration. Some are names elsewhere and count only before a word or a bracket. -/
def modifier : Rule :=
  .first
    [words ["abstract", "const", "extern", "fixed", "internal", "new", "override", "private", "protected", "public",
        "readonly", "sealed", "static", "unsafe", "virtual", "volatile"],
      .seq [word "ref", .ahead (words ["struct", "partial"])],
      .seq [words ["async", "file", "partial", "required"], .ahead (.first [.token .anyWord, mark "("])]]

def localFunction : Rule :=
  .seq [.many (.ref .attributeList), .many modifier, .ref .type, name, opt typeParameterList, .ref .parameterList,
    .many constraintClause, .ref .functionBody]

def localDeclaration : Rule :=
  .seq [.many (.ref .attributeList), opt (word "await"), opt (word "using"), .many modifier,
    opt (.seq [word "scoped", .ahead (.seq [.ref .type, name])]), declarators, semicolon]

/-! ## Expressions as statements -/

/-- A step along a value that does nothing yet. -/
def quietTrailer : Rule := .first [access, indexList, mark "!"]

/-- A call or a step, after any accesses: what makes a value a statement. -/
def deed : Rule := .seq [.many quietTrailer, .first [.ref .argumentList, stepMark, conditionalAccess]]

def assignment : Rule := .seq [.many quietTrailer, assignMark, .ref .expression]

def effectRest : Rule := .first [.seq [several deed, opt assignment], assignment]

/-- The expressions that are statements: assignments, calls, steps, and values that are made, awaited or bracketed. -/
def effect : Rule :=
  .first
    [.seq [.first [stepMark, word "await"], .ref .operand],
      .seq [.first [creation, inParens (commas tupleElement)], opt effectRest],
      .seq [primary, effectRest],
      .seq [marks ["+", "-", "!", "~", "&", "*", "^"], .ref .operand, opt (.seq [assignMark, .ref .expression])],
      .seq [.ref .operand, assignMark, .ref .expression]]

def effectStatement : Rule := .seq [effect, semicolon]

/-! ## Control -/

def condition : Rule := inParens (.ref .expression)

def ifStatement : Rule :=
  .seq [word "if", condition, .ref .statement, opt (.seq [word "else", .ref .statement])]

def whileStatement : Rule := .seq [word "while", condition, .ref .statement]

def doStatement : Rule := .seq [word "do", .ref .statement, word "while", condition, semicolon]

def forStatement : Rule :=
  .seq [word "for", mark "(", opt (.first [.seq [declarators, .ahead semicolon], commas (.ref .expression)]), semicolon,
    opt (.ref .expression), semicolon, optCommas (.ref .expression), mark ")", .ref .statement]

def foreachStatement : Rule :=
  .seq [opt (word "await"), word "foreach", mark "(",
    .first [.seq [.ref .type, name, word "in"], .seq [.ref .operand, word "in"]], .ref .expression, mark ")",
    .ref .statement]

def switchLabel : Rule :=
  .first
    [.seq [word "case", .ref .pattern, opt (.seq [word "when", .ref .expression]), mark ":"],
      .seq [word "default", mark ":"]]

def switchStatement : Rule :=
  .seq [word "switch", inParens (commas tupleElement),
    inBraces (.many (.seq [several switchLabel, .many (.ref .statement)]))]

def catchClause : Rule :=
  .seq [word "catch", opt (inParens (.seq [.ref .type, opt name])), opt (.seq [word "when", condition]), .ref .block]

def tryStatement : Rule :=
  .seq [word "try", .ref .block, .many catchClause, opt (.seq [word "finally", .ref .block])]

def usingStatement : Rule :=
  .seq [opt (word "await"), word "using",
    inParens (.first [.seq [declarators, .ahead (mark ")")], .ref .expression]), .ref .statement]

def fixedStatement : Rule := .seq [word "fixed", inParens declarators, .ref .statement]

def lockStatement : Rule := .seq [word "lock", condition, .ref .statement]

def jump : Rule :=
  .first
    [.seq [word "return", opt (.ref .expression), semicolon],
      .seq [words ["break", "continue"], semicolon],
      .seq [word "goto", .first [.seq [word "case", .ref .expression], word "default", name], semicolon],
      .seq [word "throw", opt (.ref .expression), semicolon],
      .seq [word "yield", .first [.seq [word "return", .ref .expression], word "break"], semicolon]]

/-! ## Parts of the source that depend on a condition -/

/-- Parts between directives, each with any number of items; a further part stands inside the one before it. -/
def conditional (item : Symbol) (further : Symbol) : Rule :=
  .node .directive
    (.seq [.token (.directive "if"), .many (.ref item), opt (.ref further), .token (.directive "endif")])

def conditionalBranch (item : Symbol) (further : Symbol) : Rule :=
  .node .branch
    (.first
      [.seq [.token (.directive "elif"), .many (.ref item), opt (.ref further)],
        .seq [.token (.directive "else"), .many (.ref item)]])

def statement : Rule :=
  .first
    [.ref .block, semicolon, ifStatement, whileStatement, doStatement, forStatement, foreachStatement, switchStatement,
      tryStatement, usingStatement, fixedStatement, lockStatement, .seq [word "unsafe", .ref .block],
      .seq [words ["checked", "unchecked"], .ref .block], jump, conditional .topItem .topBranch,
      .seq [name, mark ":", .ref .statement], localFunction, localDeclaration,
      effectStatement]

end Typewright.Source.Grammar
