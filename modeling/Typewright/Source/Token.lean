/-!
Tokens of C# source. Every token keeps what stands before it: blanks, and notes, which are comments and the directives that
fill a line of their own. So a run of tokens still holds the text it was read from (`spanText`), and types, bases and
arguments can be given back as they were written.

Notes are kept apart from blanks because some of them count: a note inside a body is a member of it, and one inside a list
of bases is a base (`Tree.membersOf`, `Tree.basesOf`).

Names and keywords are words alike; which words are reserved is asked by the patterns of the grammar, so that a word can be
a name in one place and structure the source in another. A pattern looks at one token, its kind and text, and whether
anything stands before it (`Pattern.accepts`).
-/

namespace Typewright.Source

inductive Trivia where
  | blank (text : String)
  | note (text : String)
  deriving DecidableEq

def Trivia.text : Trivia → String
  | blank s | note s => s

def Trivia.isNote : Trivia → Bool
  | blank _ => false
  | note _ => true

/-- Words are names and keywords alike; a directive is one of those that choose between parts of the source. -/
inductive TokenKind where
  | word
  | number
  | literal
  | mark
  | directive (name : String)
  deriving DecidableEq

structure Token where
  lead : List Trivia
  kind : TokenKind
  text : String
  deriving DecidableEq

def Token.fullText (t : Token) : String := String.join (t.lead.map Trivia.text) ++ t.text

/-- The source of a run of tokens, without what stands before the first. -/
def spanText : List Token → String
  | [] => ""
  | t :: rest => t.text ++ String.join (rest.map Token.fullText)

/-! ## Keywords -/

def predefinedTypes : List String :=
  ["bool", "byte", "char", "decimal", "double", "float", "int", "long", "nint", "nuint", "object", "sbyte", "short",
    "string", "uint", "ulong", "ushort", "void"]

def reservedWords : List String :=
  ["abstract", "as", "base", "break", "case", "catch", "checked", "class", "const", "continue", "default", "delegate",
    "do", "else", "enum", "event", "explicit", "extern", "false", "finally", "fixed", "for", "foreach", "goto", "if",
    "implicit", "in", "interface", "internal", "is", "lock", "namespace", "new", "null", "operator", "out", "override",
    "params", "private", "protected", "public", "readonly", "ref", "return", "sealed", "sizeof", "stackalloc", "static",
    "struct", "switch", "this", "throw", "true", "try", "typeof", "unchecked", "unsafe", "using", "virtual", "volatile",
    "while"]

/-- A word is reserved: it names a type of its own or structures the source. -/
def isReserved (word : String) : Bool := predefinedTypes.contains word || reservedWords.contains word

/-- Words that join expressions in queries and patterns; as names they are met elsewhere only. -/
def joiningWords : List String :=
  ["and", "ascending", "by", "descending", "equals", "from", "group", "into", "join", "let", "not", "on", "or",
    "orderby", "select", "when", "where", "with"]

/-! ## Patterns -/

inductive Pattern where
  | word (text : String)
  | mark (text : String)
  /-- A mark right after the token before it. -/
  | tight (text : String)
  | directive (name : String)
  | name
  /-- A name that does not join expressions. -/
  | plainName
  | predefined
  | anyWord
  | literal
  deriving DecidableEq

def Pattern.accepts (p : Pattern) (t : Token) : Bool :=
  match p with
  | word s => t.kind == .word && t.text == s
  | mark s => t.kind == .mark && t.text == s
  | tight s => t.kind == .mark && t.text == s && t.lead.isEmpty
  | directive s => t.kind == .directive s
  | name => t.kind == .word && !isReserved t.text
  | plainName => t.kind == .word && !isReserved t.text && !joiningWords.contains t.text
  | predefined => t.kind == .word && predefinedTypes.contains t.text
  | anyWord => t.kind == .word
  | literal => t.kind == .literal || t.kind == .number

end Typewright.Source
