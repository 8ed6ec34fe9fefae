import Typewright.Text.Quoted

/-!
The vocabulary of C#: keywords, punctuation, built-in types and kinds of syntax, each word under its name. There are four
families, and they are one definition with different words (`Vocabulary`): a family has a title, its words, and how a word
of it is written.

A word is found by its name or by its value (`byName?`, `byValue?`). Words of the first three families are texts, and in
writing they are their value; a kind of syntax is none, and in writing it is its family and its name (`written`).
-/

namespace Typewright

structure Word where
  name : String
  value : String
  deriving DecidableEq

/-- A family of words. Words of some families are written by their value, of others by family and name. -/
structure Vocabulary where
  title : String
  words : List Word
  writesValue : Bool

namespace Vocabulary

def keywords : Vocabulary where
  title := "CSharpKeyword"
  words :=
    [⟨"PUBLIC", "public"⟩, ⟨"PRIVATE", "private"⟩, ⟨"PROTECTED", "protected"⟩, ⟨"INTERNAL", "internal"⟩,
      ⟨"OVERRIDE", "override"⟩, ⟨"SEALED", "sealed"⟩, ⟨"STATIC", "static"⟩, ⟨"PARTIAL", "partial"⟩,
      ⟨"ASYNC", "async"⟩, ⟨"NAMESPACE", "namespace"⟩, ⟨"USING", "using"⟩, ⟨"CLASS", "class"⟩,
      ⟨"INTERFACE", "interface"⟩, ⟨"GET", "get"⟩, ⟨"SET", "set"⟩, ⟨"VOID", "void"⟩, ⟨"CONST", "const"⟩,
      ⟨"THIS", "this"⟩, ⟨"BASE", "base"⟩]
  writesValue := true

def punctuation : Vocabulary where
  title := "CSharpSyntax"
  words :=
    [⟨"SPACE", " "⟩, ⟨"COMMA", ","⟩, ⟨"COLON", ":"⟩, ⟨"STATEMENT_TERMINATOR", ";"⟩, ⟨"OPEN_CODE_BLOCK", "\x7b"⟩,
      ⟨"CLOSE_CODE_BLOCK", "\x7d"⟩, ⟨"OPEN_BRACKET", "("⟩, ⟨"CLOSE_BRACKET", ")"⟩, ⟨"OPEN_SQUARE_BRACKET", "["⟩,
      ⟨"CLOSE_SQUARE_BRACKET", "]"⟩, ⟨"OPEN_ANGLE_BRACKET", "<"⟩, ⟨"CLOSE_ANGLE_BRACKET", ">"⟩, ⟨"QUOTE", "\""⟩]
  writesValue := true

def types : Vocabulary where
  title := "CSharpType"
  words := [⟨"STRING", "string"⟩, ⟨"INT", "int"⟩, ⟨"BOOLEAN", "bool"⟩]
  writesValue := true

def kinds : Vocabulary where
  title := "SyntaxKind"
  words :=
    [⟨"NAMESPACE", "namespace"⟩, ⟨"CLASS", "class"⟩, ⟨"INTERFACE", "interface"⟩, ⟨"STRUCT", "struct"⟩,
      ⟨"RECORD", "record"⟩, ⟨"METHOD", "method"⟩, ⟨"PROPERTY", "property"⟩, ⟨"OTHER", "other"⟩]
  writesValue := false

def all : List Vocabulary := [keywords, punctuation, types, kinds]

def named? (title : String) : Option Vocabulary := all.find? (·.title == title)

def byName? (v : Vocabulary) (name : String) : Option Word := v.words.find? (·.name == name)

def byValue? (v : Vocabulary) (value : String) : Option Word := v.words.find? (·.value == value)

def written (v : Vocabulary) (w : Word) : String := if v.writesValue then w.value else v.title ++ "." ++ w.name

def refusal (v : Vocabulary) (quoted : String) : String := quoted ++ " is not a valid " ++ v.title

end Vocabulary

end Typewright
