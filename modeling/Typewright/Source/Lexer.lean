import Typewright.Source.Token
import Typewright.Text.Hex
import Typewright.Text.Identifier

/-!
Reading tokens from text. The longest mark wins, but a closing angle bracket is always a mark of its own, so that it can end
a list of types; the grammar puts shifts together again from marks that touch.

Blanks, comments and the directives that fill a line are trivia, and go to the token after them (`lexFrom`). Those at the
very end have no such token and are dropped. A directive that chooses between parts of the source is a token, since both
parts are read (`directiveAt`): conditions are not evaluated.

Literals are one token each, whatever is in them: plain, verbatim and raw texts, characters, numbers with their suffixes
(`anyText`, `number`). So is an interpolated text: its holes are passed over with the brackets, quotes and nested texts in
them matched (`interpolated`, `hole`).

There are no tokens at all where a text, a comment or a character has no end, or where something starts no token.
-/

namespace Typewright.Source

/-- A piece that was read, and the rest. -/
abbrev Cut := List Char × List Char

def Cut.prepend (cs : List Char) (c : Cut) : Cut := (cs ++ c.1, c.2)

def isSpace (c : Char) : Bool :=
  c == ' ' || ('\t' ≤ c && c ≤ '\r') || c == '\u00a0' || c == '\ufeff' || c == '\u3000'

/-! ## Comments -/

def isLineEnd (c : Char) : Bool := c == '\n' || c == '\r'

def blockComment : List Char → Option Cut
  | '*' :: '/' :: rest => some (['*', '/'], rest)
  | c :: rest => (blockComment rest).map (Cut.prepend [c])
  | [] => none

/-! ## Directives -/

def lineDirectives : List String :=
  ["region", "endregion", "line", "pragma", "nullable", "error", "warning", "define", "undef"]

def isDirectiveBlank (c : Char) : Bool := c == ' ' || c == '\t'

def directiveWord (rest : List Char) : String :=
  String.ofList ((rest.dropWhile isDirectiveBlank).takeWhile Char.isAlpha)

/-- The condition of a directive, up to the end of the line or a comment there. -/
def condition : List Char → Cut
  | [] => ([], [])
  | '/' :: '/' :: rest => ([], '/' :: '/' :: rest)
  | c :: rest => if isLineEnd c then ([], c :: rest) else (condition rest).prepend [c]

/-! ## Words and numbers -/

/-- The length of a character written by its code point, at the head of a text. -/
def codeEscapeLength : List Char → Nat
  | '\\' :: 'u' :: rest => if (rest.take 4).length = 4 && (Text.hexNumber? (rest.take 4)).isSome then 6 else 0
  | '\\' :: 'U' :: rest => if (rest.take 8).length = 8 && (Text.hexNumber? (rest.take 8)).isSome then 10 else 0
  | _ => 0

def wordRest : Nat → List Char → Cut
  | 0, cs => ([], cs)
  | _, [] => ([], [])
  | fuel + 1, c :: rest =>
    if Text.isIdentifierRest c then (wordRest fuel rest).prepend [c]
    else
      match codeEscapeLength (c :: rest) with
      | 0 => ([], c :: rest)
      | n => (wordRest fuel ((c :: rest).drop n)).prepend ((c :: rest).take n)

def startsWord : List Char → Bool
  | [] => false
  | c :: rest => Text.isIdentifierStart c || codeEscapeLength (c :: rest) != 0

def isDigitOrLine (c : Char) : Bool := c.isDigit || c == '_'

def isHexOrLine (c : Char) : Bool := (Text.hexValue? c).isSome || c == '_'

def isNumberSuffix (c : Char) : Bool := ['u', 'U', 'l', 'L', 'f', 'F', 'd', 'D', 'm', 'M'].contains c

def cutWhile (p : Char → Bool) (cs : List Char) : Cut := (cs.takeWhile p, cs.dropWhile p)

def fraction : List Char → Cut
  | '.' :: d :: rest => if d.isDigit then (cutWhile isDigitOrLine rest).prepend ['.', d] else ([], '.' :: d :: rest)
  | cs => ([], cs)

def exponent : List Char → Cut
  | e :: rest =>
    if e == 'e' || e == 'E' then
      match rest with
      | s :: d :: more =>
        if (s == '+' || s == '-') && d.isDigit then (cutWhile isDigitOrLine more).prepend [e, s, d]
        else if s.isDigit then (cutWhile isDigitOrLine (d :: more)).prepend [e, s]
        else ([], e :: rest)
      | [s] => if s.isDigit then ([e, s], []) else ([], e :: rest)
      | [] => ([], e :: rest)
    else ([], e :: rest)
  | [] => ([], [])

def number (cs : List Char) : Cut :=
  match cs with
  | '0' :: x :: rest =>
    if x == 'x' || x == 'X' || x == 'b' || x == 'B' then
      let digits := cutWhile isHexOrLine rest
      (cutWhile isNumberSuffix digits.2).prepend ('0' :: x :: digits.1)
    else decimal cs
  | _ => decimal cs
where
  decimal (cs : List Char) : Cut :=
    let whole := cutWhile isDigitOrLine cs
    let part := fraction whole.2
    let power := exponent part.2
    (cutWhile isNumberSuffix power.2).prepend (whole.1 ++ part.1 ++ power.1)

/-! ## Texts -/

def plainText : List Char → Option Cut
  | '"' :: rest => some (['"'], rest)
  | '\\' :: c :: rest => (plainText rest).map (Cut.prepend ['\\', c])
  | c :: rest => if c == '\n' then none else (plainText rest).map (Cut.prepend [c])
  | [] => none

/-- A text that may span lines, after its quote; a quote inside is written twice. -/
def verbatimText : List Char → Option Cut
  | '"' :: '"' :: rest => (verbatimText rest).map (Cut.prepend ['"', '"'])
  | '"' :: rest => some (['"'], rest)
  | c :: rest => (verbatimText rest).map (Cut.prepend [c])
  | [] => none

/-- A raw text after its quotes: it ends at a run of at least as many. `run` counts those just passed. -/
def rawText (quotes : Nat) : Nat → List Char → Option Cut
  | run, '"' :: rest => (rawText quotes (run + 1) rest).map (Cut.prepend ['"'])
  | run, c :: rest =>
    if quotes ≤ run then some ([], c :: rest) else (rawText quotes 0 rest).map (Cut.prepend [c])
  | run, [] => if quotes ≤ run then some ([], []) else none

def characterText : List Char → Option Cut
  | '\\' :: c :: rest =>
    let more := rest.takeWhile fun d => (Text.hexValue? d).isSome
    match rest.dropWhile fun d => (Text.hexValue? d).isSome with
    | '\'' :: after => some ('\\' :: c :: more ++ ['\''], after)
    | _ => none
  | c :: '\'' :: rest => if c == '\'' || c == '\n' then none else some ([c, '\''], rest)
  | _ => none

/-- The marks that make a text raw or interpolated, and the quotes they stand before. -/
def quoteRun (cs : List Char) : Nat := (cs.takeWhile (· == '"')).length

mutual

def anyText : Nat → List Char → Option Cut
  | 0, _ => none
  | fuel + 1, cs =>
    match cs with
    | '@' :: '"' :: rest => (verbatimText rest).map (Cut.prepend ['@', '"'])
    | '@' :: '$' :: '"' :: rest => (interpolated fuel true rest).map (Cut.prepend ['@', '$', '"'])
    | '$' :: '@' :: '"' :: rest => (interpolated fuel true rest).map (Cut.prepend ['$', '@', '"'])
    | _ =>
      let dollars := cs.takeWhile (· == '$')
      let rest := cs.dropWhile (· == '$')
      let quotes := quoteRun rest
      if quotes = 0 then none
      else if 3 ≤ quotes then
        (rawText quotes 0 (rest.drop quotes)).map (Cut.prepend (dollars ++ rest.take quotes))
      else if dollars.isEmpty then (plainText (rest.drop 1)).map (Cut.prepend ['"'])
      else if dollars.length = 1 then (interpolated fuel false (rest.drop 1)).map (Cut.prepend (dollars ++ ['"']))
      else none

def interpolated : Nat → Bool → List Char → Option Cut
  | 0, _, _ => none
  | fuel + 1, verbatim, cs =>
    match cs with
    | [] => none
    | '"' :: rest =>
      match verbatim, rest with
      | true, '"' :: more => (interpolated fuel verbatim more).map (Cut.prepend ['"', '"'])
      | _, _ => some (['"'], rest)
    | '\x7b' :: '\x7b' :: rest => (interpolated fuel verbatim rest).map (Cut.prepend ['\x7b', '\x7b'])
    | '\x7b' :: rest =>
      match hole fuel 0 false rest with
      | some (text, after) => (interpolated fuel verbatim after).map (Cut.prepend ('\x7b' :: text))
      | none => none
    | '\x7d' :: '\x7d' :: rest => (interpolated fuel verbatim rest).map (Cut.prepend ['\x7d', '\x7d'])
    | c :: rest =>
      if c == '\x7d' then none
      else if verbatim then (interpolated fuel verbatim rest).map (Cut.prepend [c])
      else if c == '\n' then none
      else if c == '\\' then
        match rest with
        | d :: more => (interpolated fuel verbatim more).map (Cut.prepend ['\\', d])
        | [] => none
      else (interpolated fuel verbatim rest).map (Cut.prepend [c])

/-- A hole up to its end: `depth` brackets are open, and `filled` tells whether anything stands in it. -/
def hole : Nat → Nat → Bool → List Char → Option Cut
  | 0, _, _, _ => none
  | fuel + 1, depth, filled, cs =>
    match anyText fuel cs with
    | some (text, rest) => (hole fuel depth true rest).map (Cut.prepend text)
    | none =>
      match cs with
      | [] => none
      | '\'' :: rest =>
        match characterText rest with
        | some (text, after) => (hole fuel depth true after).map (Cut.prepend ('\'' :: text))
        | none => none
      | ':' :: ':' :: rest => (hole fuel depth true rest).map (Cut.prepend [':', ':'])
      | c :: rest =>
        if c == '(' || c == '[' || c == '\x7b' then (hole fuel (depth + 1) true rest).map (Cut.prepend [c])
        else if c == ')' || c == ']' || c == '\x7d' then
          match depth with
          | 0 => if c == '\x7d' && filled then some ([c], rest) else none
          | d + 1 => (hole fuel d true rest).map (Cut.prepend [c])
        else if c == ':' && depth = 0 then
          match rest.dropWhile (· != '\x7d') with
          | stop :: after => if filled then some (c :: rest.takeWhile (· != '\x7d') ++ [stop], after) else none
          | [] => none
        else (hole fuel depth (filled || !isSpace c) rest).map (Cut.prepend [c])

end

/-! ## Marks -/

/-- The marks of more than one character, the longest first. -/
def longMarks : List String :=
  ["<<=", "??=", "=>", "==", "!=", "<=", ">=", "&&", "||", "??", "::", "->", "++", "--", "+=", "-=", "*=", "/=", "%=",
    "&=", "|=", "^=", "<<", ".."]

def shortMarks : List Char :=
  ['\x7b', '\x7d', '(', ')', '[', ']', '.', ',', ':', ';', '+', '-', '*', '/', '%', '&', '|', '^', '!', '~', '=', '<',
    '>', '?']

def markAt (cs : List Char) : Option Cut :=
  match longMarks.find? fun m => m.toList.isPrefixOf cs with
  | some m => some (m.toList, cs.drop m.length)
  | none =>
    match cs with
    | c :: rest => if shortMarks.contains c then some ([c], rest) else none
    | [] => none

/-! ## Tokens -/

def encodingMark : List Char → Cut
  | 'u' :: '8' :: rest => (['u', '8'], rest)
  | 'U' :: '8' :: rest => (['U', '8'], rest)
  | cs => ([], cs)

def withEncoding (c : Cut) : Cut := (encodingMark c.2).prepend c.1

/-- The token at the head of the source: its kind, its text, the rest. -/
def tokenAt (cs : List Char) : Option (TokenKind × Cut) :=
  match cs with
  | [] => none
  | c :: rest =>
    if startsWord cs then some (.word, wordRest (cs.length + 1) cs)
    else if c == '@' && startsWord rest then some (.word, (wordRest (rest.length + 1) rest).prepend ['@'])
    else if c.isDigit || (c == '.' && (rest.head?.any Char.isDigit)) then some (.number, number cs)
    else if c == '"' || c == '$' || c == '@' then (anyText (cs.length + 1) cs).map fun t => (.literal, withEncoding t)
    else if c == '\'' then (characterText rest).map fun t => (.literal, t.prepend ['\''])
    else (markAt cs).map fun m => (.mark, m)

/-- What a directive is: a line of its own, or a choice between parts. -/
inductive DirectiveCut where
  | line (c : Cut)
  | choice (name : String) (c : Cut)

def directiveAt (rest : List Char) : Option DirectiveCut :=
  let word := directiveWord rest
  let spaces := rest.takeWhile isDirectiveBlank
  let after := (rest.dropWhile isDirectiveBlank).dropWhile Char.isAlpha
  let start := '#' :: spaces ++ word.toList
  if lineDirectives.contains word then
    match after.dropWhile (· != '\n') with
    | stop :: more => some (.line (start ++ after.takeWhile (· != '\n') ++ [stop], more))
    | [] => none
  else if word == "if" || word == "elif" then
    let test := condition after
    if test.1.all isSpace then none else some (.choice word (test.prepend start))
  else if word == "else" || word == "endif" then some (.choice word (start, after))
  else none

/-- Reads tokens, with the trivia met since the last one. `fuel` bounds the steps. -/
def lexFrom : Nat → List Trivia → List Char → Option (List Token)
  | 0, _, _ => none
  | _, _, [] => some []
  | fuel + 1, lead, c :: rest =>
    if isSpace c then
      let blanks := cutWhile isSpace rest
      lexFrom fuel (lead ++ [.blank (String.ofList (c :: blanks.1))]) blanks.2
    else
      match c, rest with
      | '/', '/' :: _ =>
        let comment := cutWhile (!isLineEnd ·) rest
        lexFrom fuel (lead ++ [.note (String.ofList (c :: comment.1))]) comment.2
      | '/', '*' :: body =>
        match blockComment body with
        | some (text, after) => lexFrom fuel (lead ++ [.note (String.ofList ('/' :: '*' :: text))]) after
        | none => none
      | '#', _ =>
        match directiveAt rest with
        | some (.line (text, after)) => lexFrom fuel (lead ++ [.note (String.ofList text)]) after
        | some (.choice name (text, after)) =>
          (lexFrom fuel [] after).map (⟨lead, .directive name, String.ofList text⟩ :: ·)
        | none => none
      | _, _ =>
        match tokenAt (c :: rest) with
        | some (kind, text, after) => (lexFrom fuel [] after).map (⟨lead, kind, String.ofList text⟩ :: ·)
        | none => none

def lex (source : String) : Option (List Token) := lexFrom (source.length + 1) [] source.toList

end Typewright.Source
