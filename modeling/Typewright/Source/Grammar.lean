import Typewright.Source.Grammar.Declarations
import Typewright.Source.Lexer

/-!
The grammar of C# as a whole, and the trees of a source. It covers the declarations that a file can hold, with their bodies
down to statements and expressions, because where a member ends can only be told by reading it.

A file is any number of items, and all of its tokens must be used up: where something is left over there are no trees
(`treesOf?`), and neither are there where the source is not made of tokens. Nothing is repaired. The steps are enough for
every source (`stepsFor_answers`), so that having no trees means that the rules do not match.
-/

namespace Typewright.Source

def grammar : Symbol → Rule
  | .type => Grammar.type
  | .typeArguments => Grammar.typeArguments
  | .qualifiedName => Grammar.qualifiedName
  | .attributeList => Grammar.attributeList
  | .parameter => Grammar.parameter
  | .parameterList => Grammar.parameterList
  | .argumentList => Grammar.argumentList
  | .expression => Grammar.expression
  | .operand => Grammar.operand
  | .pattern => Grammar.pattern
  | .initializer => Grammar.initializer
  | .block => Grammar.block
  | .statement => Grammar.statement
  | .functionBody => Grammar.functionBody
  | .accessors => Grammar.accessors
  | .member => Grammar.member
  | .memberBranch => Grammar.conditionalBranch .member .memberBranch
  | .topItem => Grammar.topItem
  | .topBranch => Grammar.conditionalBranch .topItem .topBranch

/-- Steps that are enough for any number of tokens: between two tokens the rules nest to a bounded depth (`stepsFor_answers`). -/
def stepsFor (ts : List Token) : Nat := 1000 * (ts.length + 1)

/-- The trees of a file; none where something is left over. -/
def treesOf? (ts : List Token) : Option (List Tree) :=
  match Rule.run grammar (stepsFor ts) (.many (.ref .topItem)) ts with
  | .matched trees [] => some trees
  | _ => none

def read? (source : String) : Option (List Tree) := (lex source).bind treesOf?

end Typewright.Source
