import Typewright.Json.Basic
import Typewright.Template.Token

/-!
Templates as trees of nodes, and the reader that builds them from tokens: text, printed expressions, branches with any
number of tests, and loops, each with a part for the other case. Expressions are names, literals, negations and filters with
arguments.

A block tag opens a branch or a loop, and the tags that may end it are known while its body is read, so that a tag out of
place can be told from one that is unknown (`Open`); the message for either names the tags that were looked for and the
innermost block that is open.

A filter that is not known is a flaw of the template as a whole, found after reading and before rendering
(`Expr.unknownFilter?`). Only where it stands in a branch is it left to the rendering, which may never come to it
(`Node.unknownFilter?`).

The readers are given steps, since expressions hold expressions and bodies hold blocks. How many these are depends on the
number of tokens.
-/

namespace Typewright.Template

inductive Expr where
  | name (n : String)
  | literal (v : Json)
  | negation (e : Expr)
  | filter (e : Expr) (name : String) (args : List Expr)

inductive Node where
  | text (s : String)
  | output (e : Expr)
  | branch (test : Expr) (body otherwise : List Node)
  | loop (name : String) (items : Expr) (body otherwise : List Node)

abbrev Rest := List Token

/-- Goes on to the next token; a fault is met as soon as it is the next one. -/
def advance : Rest → Except Flaw Rest
  | _ :: .fault f :: _ => .error f
  | _ :: rest => .ok rest
  | [] => .ok []

def wantedFlaw (wanted : String) : Rest → Flaw
  | t :: _ => .expected wanted t.label
  | [] => .ended wanted

def expect (t : Token) (rest : Rest) : Except Flaw Rest :=
  if rest.head? == some t then advance rest else .error (wantedFlaw t.label rest)

def headLabel : Rest → String
  | t :: _ => t.label
  | [] => "end of template"

/-- The value a reserved name stands for. -/
def constant? (n : String) : Option Json :=
  if n == "true" || n == "True" then some (.bool true)
  else if n == "false" || n == "False" then some (.bool false)
  else if n == "none" || n == "None" then some .null
  else none

/-- The text literals that stand side by side. -/
def literals : Nat → Rest → Except Flaw (String × Rest)
  | 0, rest => .ok ("", rest)
  | fuel + 1, .text s :: rest =>
    match advance (.text s :: rest) with
    | .error f => .error f
    | .ok rest => (literals fuel rest).map fun r => (s ++ r.1, r.2)
  | _, rest => .ok ("", rest)

def readPrimary (rest : Rest) : Except Flaw (Expr × Rest) :=
  match rest with
  | .name n :: _ =>
    let e := match constant? n with
      | some v => Expr.literal v
      | none => .name n
    (advance rest).map (e, ·)
  | .text _ :: _ => (literals rest.length rest).map fun r => (.literal (.text r.1), r.2)
  | .integer n :: _ => (advance rest).map (.literal (.int n), ·)
  | _ => .error (.unexpected (headLabel rest))

def readFilterName : Rest → Except Flaw (String × Rest)
  | .name n :: rest => (advance (.name n :: rest)).map (n, ·)
  | rest => .error (wantedFlaw "name" rest)

mutual

def readExpr : Nat → Rest → Except Flaw (Expr × Rest)
  | 0, rest => .error (.unexpected (headLabel rest))
  | fuel + 1, rest =>
    if rest.head? == some (.name "not") then
      match advance rest with
      | .error f => .error f
      | .ok rest => (readExpr fuel rest).map fun r => (.negation r.1, r.2)
    else
      match readPrimary rest with
      | .error f => .error f
      | .ok (e, rest) => readFilters fuel e rest

def readFilters : Nat → Expr → Rest → Except Flaw (Expr × Rest)
  | 0, e, rest => .ok (e, rest)
  | fuel + 1, e, rest =>
    if rest.head? != some (.mark "|") then .ok (e, rest)
    else
      match advance rest with
      | .error f => .error f
      | .ok rest =>
        match readFilterName rest with
        | .error f => .error f
        | .ok (name, rest) =>
          if rest.head? != some (.mark "(") then readFilters fuel (.filter e name []) rest
          else
            match advance rest with
            | .error f => .error f
            | .ok rest =>
              match readArguments fuel rest with
              | .error f => .error f
              | .ok (args, rest) => readFilters fuel (.filter e name args) rest

def readArguments : Nat → Rest → Except Flaw (List Expr × Rest)
  | 0, rest => .error (.unexpected (headLabel rest))
  | fuel + 1, rest =>
    if rest.head? == some (.mark ")") then (advance rest).map ([], ·)
    else
      match readExpr fuel rest with
      | .error f => .error f
      | .ok (e, rest) =>
        if rest.head? == some (.mark ")") then (advance rest).map ([e], ·)
        else
          match expect (.mark ",") rest with
          | .error f => .error f
          | .ok rest => (readArguments fuel rest).map fun r => (e :: r.1, r.2)

end

/-- The expression of a tag; the end of the tag is no expression. -/
def readTagExpr (rest : Rest) : Except Flaw (Expr × Rest) :=
  match rest with
  | .printEnd :: _ | .blockEnd :: _ => .error (.noExpression (headLabel rest))
  | _ => readExpr (4 * rest.length + 4) rest

def readTarget (rest : Rest) : Except Flaw (String × Rest) :=
  match readPrimary rest with
  | .error f => .error f
  | .ok (.name n, rest) => .ok (n, rest)
  | .ok (_, _) => .error .target

def endOpening (rest : Rest) : Except Flaw Rest :=
  if rest.head? == some (.mark ":") then
    match advance rest with
    | .error f => .error f
    | .ok rest => expect .blockEnd rest
  else expect .blockEnd rest

/-- The blocks that are open: the tags each looks for, and their names, innermost first. -/
structure Open where
  ends : List (List String)
  tags : List String

namespace Open

def enter (o : Open) (tag : String) : Open := { o with tags := tag :: o.tags }

def lookFor (o : Open) (ends : List String) : Open := { o with ends := ends :: o.ends }

def unknown (o : Open) (name : String) : Flaw :=
  .unknownTag name (o.ends.any (·.contains name)) (o.ends.head?.getD []) o.tags.head?

end Open

def atEnd (ends : List String) : Rest → Bool
  | .name n :: _ => ends.contains n
  | _ => false

def tagName? : Rest → Option String
  | .name n :: _ => some n
  | _ => none

mutual

/-- Nodes up to a tag of `ends`, or up to the end of the template. -/
def readNodes : Nat → Open → List String → Rest → Except Flaw (List Node × Rest)
  | 0, _, _, rest => .ok ([], rest)
  | fuel + 1, o, ends, rest =>
    match rest with
    | .data s :: _ =>
      match advance rest with
      | .error f => .error f
      | .ok rest => (readNodes fuel o ends rest).map fun r => (.text s :: r.1, r.2)
    | .printBegin :: _ =>
      match advance rest with
      | .error f => .error f
      | .ok rest =>
        match readTagExpr rest with
        | .error f => .error f
        | .ok (e, rest) =>
          match expect .printEnd rest with
          | .error f => .error f
          | .ok rest => (readNodes fuel o ends rest).map fun r => (.output e :: r.1, r.2)
    | .blockBegin :: _ =>
      match advance rest with
      | .error f => .error f
      | .ok rest =>
        if atEnd ends rest then .ok ([], rest)
        else
          match readBlock fuel o rest with
          | .error f => .error f
          | .ok (node, rest) =>
            match expect .blockEnd rest with
            | .error f => .error f
            | .ok rest => (readNodes fuel o ends rest).map fun r => (node :: r.1, r.2)
    | _ => .ok ([], rest)

def readBlock : Nat → Open → Rest → Except Flaw (Node × Rest)
  | 0, _, _ => .error .tagName
  | fuel + 1, o, rest =>
    match tagName? rest with
    | none => .error .tagName
    | some "if" =>
      match advance rest with
      | .error f => .error f
      | .ok rest => readBranch fuel (o.enter "if") rest
    | some "for" =>
      match advance rest with
      | .error f => .error f
      | .ok rest => readLoop fuel (o.enter "for") rest
    | some name => .error (o.unknown name)

/-- The body of a block, up to one of `ends`, which must come. -/
def readBody : Nat → Open → List String → Rest → Except Flaw (List Node × Rest)
  | 0, _, _, _ => .error .tagName
  | fuel + 1, o, ends, rest =>
    match endOpening rest with
    | .error f => .error f
    | .ok rest =>
      match readNodes fuel (o.lookFor ends) ends rest with
      | .error f => .error f
      | .ok (_, []) => .error (.unclosed ends o.tags.head?)
      | .ok (nodes, rest) => .ok (nodes, rest)

def readBranch : Nat → Open → Rest → Except Flaw (Node × Rest)
  | 0, _, _ => .error .tagName
  | fuel + 1, o, rest =>
    match readTagExpr rest with
    | .error f => .error f
    | .ok (test, rest) =>
      match readBody fuel o ["elif", "else", "endif"] rest with
      | .error f => .error f
      | .ok (body, rest) =>
        match advance rest with
        | .error f => .error f
        | .ok after =>
          match tagName? rest with
          | some "elif" => (readBranch fuel o after).map fun r => (.branch test body [r.1], r.2)
          | some "else" =>
            match readBody fuel o ["endif"] after with
            | .error f => .error f
            | .ok (otherwise, rest) => (advance rest).map fun rest => (.branch test body otherwise, rest)
          | _ => .ok (.branch test body [], after)

def readLoop : Nat → Open → Rest → Except Flaw (Node × Rest)
  | 0, _, _ => .error .tagName
  | fuel + 1, o, rest =>
    match readTarget rest with
    | .error f => .error f
    | .ok (name, rest) =>
      match expect (.name "in") rest with
      | .error f => .error f
      | .ok rest =>
        match readTagExpr rest with
        | .error f => .error f
        | .ok (items, rest) =>
          match readBody fuel o ["endfor", "else"] rest with
          | .error f => .error f
          | .ok (body, rest) =>
            match advance rest with
            | .error f => .error f
            | .ok after =>
              match tagName? rest with
              | some "else" =>
                match readBody fuel o ["endfor"] after with
                | .error f => .error f
                | .ok (otherwise, rest) => (advance rest).map fun rest => (.loop name items body otherwise, rest)
              | _ => .ok (.loop name items body [], after)

end

/-! ## Filters -/

def filterNames : List String := ["join", "upper", "lower"]

mutual

def Expr.unknownFilter? : Expr → Option String
  | .name _ | .literal _ => none
  | .negation e => e.unknownFilter?
  | .filter e name args =>
    if filterNames.contains name then e.unknownFilter? <|> unknownFilters? args else some name

def unknownFilters? : List Expr → Option String
  | [] => none
  | e :: rest => e.unknownFilter? <|> unknownFilters? rest

end

mutual

/-- The first unknown filter that makes a node no template. In a branch, and in the expression of a loop that stands
directly in one, a filter may be unknown: it is only met when it is used. -/
def Node.unknownFilter? (lenient : Bool) : Node → Option String
  | .text _ => none
  | .output e => if lenient then none else e.unknownFilter?
  | .branch _ body otherwise => nodesUnknownFilter? true body <|> nodesUnknownFilter? true otherwise
  | .loop _ items body otherwise =>
    (if lenient then none else items.unknownFilter?)
      <|> nodesUnknownFilter? false body <|> nodesUnknownFilter? false otherwise

def nodesUnknownFilter? (lenient : Bool) : List Node → Option String
  | [] => none
  | n :: rest => n.unknownFilter? lenient <|> nodesUnknownFilter? lenient rest

end

def read (source : String) : Except Flaw (List Node) :=
  match lex source with
  | .fault f :: _ => .error f
  | tokens =>
    match readNodes (4 * tokens.length + 4) ⟨[], []⟩ [] tokens with
    | .error f => .error f
    | .ok (nodes, _) =>
      match nodesUnknownFilter? false nodes with
      | some name => .error (.filter name)
      | none => .ok nodes

end Typewright.Template
