import Typewright.Text.Blank
import Typewright.Text.Hex
import Typewright.Text.Identifier
import Typewright.Text.Quoted
import Typewright.Text.Utf8

/-!
Tokens of a template. Outside the tags a template is plain text; a print tag stands in double braces, a block tag between
brace and percent, a comment between brace and hash. A tag that opens with `-` takes the white space before it away; a block
or comment tag that opens without a sign takes the blanks before it away if nothing else stands on the line so far. A tag
that ends with `-` takes the white space after it away. The last line end of a template is no part of it, and line ends of
all sorts are one (`normalized`).

Inside a tag there are names, text literals with their escapes, integers and marks. Brackets are matched while reading, so
that a brace inside brackets does not end the tag (`scanMark`).

A fault of the lexer is a token of its own, the last one: a reader that stops before it never meets it, and so a flaw of the
grammar that comes first is the one that is reported. All flaws have their messages here, those of the reader too
(`Flaw.message`).
-/

namespace Typewright.Template

inductive Flaw where
  | commentEnd
  | stray (mark : Char)
  | crossed (mark wanted : Char)
  | character (c : Char) (position : Nat)
  | escape (cause : String)
  | identifier
  | expected (wanted got : String)
  | ended (wanted : String)
  | noExpression (got : String)
  | unexpected (got : String)
  | tagName
  | target
  | unknownTag (name : String) (known : Bool) (wanted : List String) (innermost : Option String)
  | unclosed (wanted : List String) (innermost : Option String)
  | filter (name : String)
  deriving DecidableEq

inductive Token where
  | data (text : String)
  | printBegin
  | printEnd
  | blockBegin
  | blockEnd
  | name (s : String)
  | text (s : String)
  | integer (n : Nat)
  | mark (s : String)
  | fault (f : Flaw)
  deriving DecidableEq

def Token.label : Token → String
  | data _ => "template data / text"
  | printBegin => "begin of print statement"
  | printEnd => "end of print statement"
  | blockBegin => "begin of statement block"
  | blockEnd => "end of statement block"
  | name s => s
  | text _ => "string"
  | integer _ => "integer"
  | mark s => s
  | fault _ => "end of template"

namespace Flaw

def alternatives (wanted : List String) : String := String.intercalate " or " (wanted.map Text.quoted)

def innermostText : Option String → List String
  | some tag => ["The innermost block that needs to be closed is " ++ Text.quoted tag ++ "."]
  | none => []

def message : Flaw → String
  | commentEnd => "Missing end of comment tag"
  | stray mark => "unexpected '" ++ mark.toString ++ "'"
  | crossed mark wanted => "unexpected '" ++ mark.toString ++ "', expected '" ++ wanted.toString ++ "'"
  | character c position => "unexpected char " ++ Text.quoted c.toString ++ " at " ++ toString position
  | escape cause => cause
  | identifier => "Invalid character in identifier"
  | expected wanted got => "expected token " ++ Text.quoted wanted ++ ", got " ++ Text.quoted got
  | ended wanted => "unexpected end of template, expected " ++ Text.quoted wanted ++ "."
  | noExpression got => "Expected an expression, got " ++ Text.quoted got
  | unexpected got => "unexpected " ++ Text.quoted got
  | tagName => "tag name expected"
  | target => "can't assign to 'const'"
  | unknownTag name known wanted innermost =>
    let hint :=
      if wanted.isEmpty then []
      else if known then
        ["You probably made a nesting mistake. Jinja is expecting this tag, but currently looking for "
          ++ alternatives wanted ++ "."]
      else ["Jinja was looking for the following tags: " ++ alternatives wanted ++ "."]
    String.intercalate " " (("Encountered unknown tag " ++ Text.quoted name ++ ".") :: hint ++ innermostText innermost)
  | unclosed wanted innermost =>
    let hint :=
      if wanted.isEmpty then [] else ["Jinja was looking for the following tags: " ++ alternatives wanted ++ "."]
    String.intercalate " " ("Unexpected end of template." :: hint ++ innermostText innermost)
  | filter name => "No filter named " ++ Text.quoted name ++ "."

end Flaw

/-! ## Text before a tag -/

/-- The text that stays before a tag that takes white space away. -/
def withoutTrailing (text : List Char) : List Char := (text.reverse.dropWhile Text.isBlank).reverse

/-- The text that stays before a tag that takes the blanks of an otherwise empty line away. -/
def withoutLineBlanks (atLineStart : Bool) (text : List Char) : List Char :=
  let last := (text.reverse.takeWhile (· != '\n')).reverse
  let before := text.take (text.length - last.length)
  if (!before.isEmpty || atLineStart) && last.all Text.isBlank then before else text

inductive TagKind where
  | print
  | block
  | comment
  deriving DecidableEq

def opens? : List Char → Option (TagKind × List Char)
  | '\x7b' :: '\x7b' :: rest => some (.print, rest)
  | '\x7b' :: '%' :: rest => some (.block, rest)
  | '\x7b' :: '#' :: rest => some (.comment, rest)
  | _ => none

/-- The text up to the first tag, and that tag with what follows it. -/
def splitTag : List Char → List Char × Option (TagKind × List Char)
  | [] => ([], none)
  | c :: rest =>
    match opens? (c :: rest) with
    | some tag => ([], some tag)
    | none =>
      let (text, tag) := splitTag rest
      (c :: text, tag)

def sign? : List Char → Option Char × List Char
  | '-' :: rest => (some '-', rest)
  | '+' :: rest => (some '+', rest)
  | rest => (none, rest)

/-- The data token of the text before a tag, if any of it stays. -/
def dataBefore (atLineStart : Bool) (kind : TagKind) (sign : Option Char) (text : List Char) : List Token :=
  let kept :=
    if sign == some '-' then withoutTrailing text
    else if sign.isNone && kind != .print then withoutLineBlanks atLineStart text
    else text
  if kept.isEmpty then [] else [.data (String.ofList kept)]

/-! ## Ends of tags -/

/-- Drops white space; tells whether the last of it was a line feed. -/
def dropBlanks (rest : List Char) : Bool × List Char :=
  ((rest.takeWhile Text.isBlank).getLast? == some '\n', rest.dropWhile Text.isBlank)

/-- The rest after the end of a comment, and whether a line starts there; `none` when it does not end. -/
def commentEnd? : List Char → Option (Bool × List Char)
  | '+' :: '#' :: '\x7d' :: rest => some (false, rest)
  | '-' :: '#' :: '\x7d' :: rest => some (dropBlanks rest)
  | '#' :: '\x7d' :: rest => some (false, rest)
  | [] => none
  | _ :: rest => commentEnd? rest

/-- The end of a print or block tag at the head of a text. -/
def tagEnd? : TagKind → List Char → Option (Token × Bool × List Char)
  | .print, '-' :: '\x7d' :: '\x7d' :: rest => some (.printEnd, dropBlanks rest)
  | .print, '\x7d' :: '\x7d' :: rest => some (.printEnd, false, rest)
  | .block, '+' :: '%' :: '\x7d' :: rest => some (.blockEnd, false, rest)
  | .block, '-' :: '%' :: '\x7d' :: rest => some (.blockEnd, dropBlanks rest)
  | .block, '%' :: '\x7d' :: rest => some (.blockEnd, false, rest)
  | _, _ => none

/-! ## Inside a tag -/

/-- The body of a text literal up to its quote, escapes kept as they are. -/
def literalBody (quote : Char) : List Char → Option (List Char × List Char)
  | [] => none
  | '\\' :: c :: rest => (literalBody quote rest).map fun r => ('\\' :: c :: r.1, r.2)
  | c :: rest =>
    if c == quote then some ([], rest)
    else if c == '\\' then none
    else (literalBody quote rest).map fun r => (c :: r.1, r.2)

def namedEscape? : Char → Option Char
  | '\\' => some '\\'
  | '\'' => some '\''
  | '"' => some '"'
  | 'a' => some '\x07'
  | 'b' => some '\x08'
  | 'f' => some '\x0c'
  | 'n' => some '\n'
  | 'r' => some '\r'
  | 't' => some '\t'
  | 'v' => some '\x0b'
  | _ => none

/-- Width and spelling of the escapes by code point. -/
def codeEscape? : Char → Option (Nat × String)
  | 'x' => some (2, "\\xXX")
  | 'u' => some (4, "\\uXXXX")
  | 'U' => some (8, "\\UXXXXXXXX")
  | _ => none

/-- Replaces the escapes of a literal; one that is not known stays as it is. `fuel` bounds the characters. -/
def unescape : Nat → List Char → Except Flaw (List Char)
  | 0, _ => .ok []
  | _, [] => .ok []
  | fuel + 1, '\\' :: c :: rest =>
    if c == '\n' then unescape fuel rest
    else
      match namedEscape? c with
      | some e => (unescape fuel rest).map (e :: ·)
      | none =>
        match codeEscape? c with
        | some (width, spelling) =>
          let digits := rest.take width
          match Text.hexNumber? digits with
          | some n =>
            if digits.length < width then .error (.escape ("truncated " ++ spelling ++ " escape"))
            else (unescape fuel (rest.drop width)).map (Char.ofNat n :: ·)
          | none => .error (.escape ("truncated " ++ spelling ++ " escape"))
        | none => (unescape fuel rest).map ('\\' :: c :: ·)
  | fuel + 1, c :: rest => (unescape fuel rest).map (c :: ·)

def doubleMarks : List String := ["//", "**", "==", "!=", ">=", "<="]

def singleMarks : List Char :=
  ['+', '-', '/', '*', '%', '~', '[', ']', '(', ')', '\x7b', '\x7d', '=', '>', '<', '.', ':', '|', ',', ';']

def closerOf? : Char → Option Char
  | '(' => some ')'
  | '[' => some ']'
  | '\x7b' => some '\x7d'
  | _ => none

def isCloser (c : Char) : Bool := c == ')' || c == ']' || c == '\x7d'

def isDigit (c : Char) : Bool := '0' ≤ c && c ≤ '9'

def numberOf (digits : List Char) : Nat := digits.foldl (fun n c => 10 * n + (c.toNat - 0x30)) 0

/-- The state inside a tag after one token: the token, if it shows, the brackets still open, the rest. -/
inductive Scan where
  | token (t : Option Token) (brackets : List Char) (rest : List Char)
  | fault (f : Flaw)

def scanMark (brackets : List Char) (position : Nat) (c : Char) (rest : List Char) : Scan :=
  if !singleMarks.contains c then .fault (.character c position)
  else if isCloser c then
    match brackets with
    | [] => .fault (.stray c)
    | b :: more => if b == c then .token (some (.mark c.toString)) more rest else .fault (.crossed c b)
  else
    match closerOf? c with
    | some closer => .token (some (.mark c.toString)) (closer :: brackets) rest
    | none => .token (some (.mark c.toString)) brackets rest

def scanToken (brackets : List Char) (position : Nat) (c : Char) (rest : List Char) : Scan :=
  if Text.isBlank c then .token none brackets (rest.dropWhile Text.isBlank)
  else if isDigit c then
    .token (some (.integer (numberOf (c :: rest.takeWhile isDigit)))) brackets (rest.dropWhile isDigit)
  else if Text.isIdentifierRest c then
    if Text.isIdentifierStart c then
      .token (some (.name (String.ofList (c :: rest.takeWhile Text.isIdentifierRest)))) brackets
        (rest.dropWhile Text.isIdentifierRest)
    else .fault .identifier
  else if c == '\'' || c == '"' then
    match literalBody c rest with
    | none => .fault (.character c position)
    | some (body, after) =>
      match unescape (body.length + 1) body with
      | .ok text => .token (some (.text (String.ofList text))) brackets after
      | .error f => .fault f
  else
    match rest with
    | d :: after =>
      if doubleMarks.contains (String.ofList [c, d]) then .token (some (.mark (String.ofList [c, d]))) brackets after
      else scanMark brackets position c rest
    | [] => scanMark brackets position c rest

/-! ## The whole text -/

/-- Where the lexer stands: in the text, or in a tag with the brackets that are open there. -/
inductive Place where
  | outside (atLineStart : Bool)
  | inside (kind : TagKind) (brackets : List Char)

/-- Reads tokens; `length` is the length of the whole text, `fuel` bounds the steps. -/
def lexFrom (length : Nat) : Nat → Place → List Char → List Token
  | 0, _, _ => []
  | _, _, [] => []
  | fuel + 1, .outside atLineStart, cs =>
    match splitTag cs with
    | (text, none) => [.data (String.ofList text)]
    | (text, some (kind, rest)) =>
      let (sign, rest) := sign? rest
      let before := dataBefore atLineStart kind sign text
      match kind with
      | .print => before ++ .printBegin :: lexFrom length fuel (.inside .print []) rest
      | .block => before ++ .blockBegin :: lexFrom length fuel (.inside .block []) rest
      | .comment =>
        match commentEnd? rest with
        | some (atLineStart, rest) => before ++ lexFrom length fuel (.outside atLineStart) rest
        | none => if rest.isEmpty then before else before ++ [.fault .commentEnd]
  | fuel + 1, .inside kind brackets, c :: rest =>
    match if brackets.isEmpty then tagEnd? kind (c :: rest) else none with
    | some (t, atLineStart, rest) => t :: lexFrom length fuel (.outside atLineStart) rest
    | none =>
      match scanToken brackets (length - (c :: rest).length) c rest with
      | .fault f => [.fault f]
      | .token (some t) brackets rest => t :: lexFrom length fuel (.inside kind brackets) rest
      | .token none brackets rest => lexFrom length fuel (.inside kind brackets) rest

/-- Line ends become line feeds, and one at the very end goes. -/
def normalized (source : List Char) : List Char :=
  let text := Text.unifyLineEnds source
  if text.getLast? == some '\n' then text.dropLast else text

def lex (source : String) : List Token :=
  let text := normalized source.toList
  lexFrom text.length (2 * text.length + 2) (.outside true) text

end Typewright.Template
