import Typewright.Source.Token

/-!
Rules of a grammar with ordered choice, and the trees they build. A rule either matches a beginning of the tokens, and then
yields trees and the rest, or it does not match; `first` takes the first alternative that matches, and `many` goes on as
long as it can. What was tried in vain leaves nothing behind.

Trees are made where a rule says so (`node`), under a kind; tokens are leaves. `headed` is for declarations, whose
attributes and modifiers are read before it is known what they belong to: the continuation that matches gives the kind of
the whole, and the beginning is read only once.

Rules are data. A rule refers to others by symbols, and a grammar is a rule for each symbol, so what is true of all of them
can be checked rule by rule and then carried over to every run (`Proofs.TreeShapes`, `Proofs.EnoughSteps`).

A run is given steps, since references can go around. Steps that run out are told apart from a mismatch (`Outcome.starved`),
so that more of them never change an answer that was found (`Rule.run_of_le`).
-/

namespace Typewright.Source

inductive Kind where
  | name
  | type
  | parameters
  | parameter
  | attributes
  | attributeNode
  | arguments
  | argument
  | bases
  | base
  | body
  | blockNamespace
  | fileNamespace
  | classType
  | structType
  | interfaceType
  | recordType
  | method
  | property
  | other
  | directive
  | branch
  deriving DecidableEq

inductive Tree where
  | leaf (t : Token)
  | node (kind : Kind) (children : List Tree)

inductive Symbol where
  | type
  | typeArguments
  | qualifiedName
  | attributeList
  | parameter
  | parameterList
  | argumentList
  | expression
  | operand
  | pattern
  | initializer
  | block
  | statement
  | functionBody
  | accessors
  | member
  | memberBranch
  | topItem
  | topBranch
  deriving DecidableEq

inductive Rule where
  | token (p : Pattern)
  | seq (parts : List Rule)
  | first (choices : List Rule)
  | many (r : Rule)
  | ahead (r : Rule)
  | never (r : Rule)
  | node (kind : Kind) (r : Rule)
  /-- One beginning, then the first continuation that matches; its kind is the kind of the whole. -/
  | headed (head : Rule) (tails : List (Kind × Rule))
  | ref (s : Symbol)

namespace Rule

def word (s : String) : Rule := .token (.word s)

def mark (s : String) : Rule := .token (.mark s)

def name : Rule := .token .name

def words (ws : List String) : Rule := .first (ws.map word)

def marks (ms : List String) : Rule := .first (ms.map mark)

def opt (r : Rule) : Rule := .first [r, .seq []]

def several (r : Rule) : Rule := .seq [r, .many r]

def commas (r : Rule) : Rule := .seq [r, .many (.seq [mark ",", r])]

def optCommas (r : Rule) : Rule := opt (commas r)

/-- Any number, with commas between and perhaps one at the end. -/
def looseCommas (r : Rule) : Rule := .seq [optCommas r, opt (mark ",")]

def inParens (r : Rule) : Rule := .seq [mark "(", r, mark ")"]

def inSquares (r : Rule) : Rule := .seq [mark "[", r, mark "]"]

def inBraces (r : Rule) : Rule := .seq [mark "\x7b", r, mark "\x7d"]

end Rule

inductive Outcome where
  | matched (trees : List Tree) (rest : List Token)
  | mismatch
  | starved

/-- Puts trees before those of an outcome. -/
def Outcome.after (trees : List Tree) : Outcome → Outcome
  | .matched more rest => .matched (trees ++ more) rest
  | o => o

def Outcome.gathered (kind : Kind) (trees : List Tree) : Outcome → Outcome
  | .matched more rest => .matched [.node kind (trees ++ more)] rest
  | o => o

/-- The first continuation that matches, gathered with the trees before it. -/
def pick (attempt : Rule → Outcome) (trees : List Tree) : List (Kind × Rule) → Outcome
  | [] => .mismatch
  | (kind, r) :: more =>
    match attempt r with
    | .mismatch => pick attempt trees more
    | o => o.gathered kind trees

def Rule.run (grammar : Symbol → Rule) : Nat → Rule → List Token → Outcome
  | 0, _, _ => .starved
  | fuel + 1, rule, ts =>
    match rule with
    | .token p =>
      match ts with
      | t :: rest => if p.accepts t then .matched [.leaf t] rest else .mismatch
      | [] => .mismatch
    | .seq [] => .matched [] ts
    | .seq (r :: more) =>
      match run grammar fuel r ts with
      | .matched trees rest => (run grammar fuel (.seq more) rest).after trees
      | o => o
    | .first [] => .mismatch
    | .first (r :: more) =>
      match run grammar fuel r ts with
      | .mismatch => run grammar fuel (.first more) ts
      | o => o
    | .many r =>
      match run grammar fuel r ts with
      | .matched trees rest =>
        if rest.length < ts.length then (run grammar fuel (.many r) rest).after trees else .matched trees rest
      | .mismatch => .matched [] ts
      | .starved => .starved
    | .ahead r =>
      match run grammar fuel r ts with
      | .matched _ _ => .matched [] ts
      | o => o
    | .never r =>
      match run grammar fuel r ts with
      | .matched _ _ => .mismatch
      | .mismatch => .matched [] ts
      | .starved => .starved
    | .node kind r => (run grammar fuel r ts).gathered kind []
    | .headed head tails =>
      match run grammar fuel head ts with
      | .matched trees rest => pick (fun r => run grammar fuel r rest) trees tails
      | o => o
    | .ref s => run grammar fuel (grammar s) ts

/-! ## Trees -/

mutual

def Tree.tokens : Tree → List Token
  | .leaf t => [t]
  | .node _ children => treeTokens children

def treeTokens : List Tree → List Token
  | [] => []
  | t :: rest => t.tokens ++ treeTokens rest

end

namespace Tree

def text (t : Tree) : String := spanText t.tokens

def notes (t : Tree) : List String :=
  ((t.tokens.head?.map Token.lead).getD []).filterMap fun v => if v.isNote then some v.text else none

def kind? : Tree → Option Kind
  | .leaf _ => none
  | .node k _ => some k

def children : Tree → List Tree
  | .leaf _ => []
  | .node _ cs => cs

def childrenOf (t : Tree) (k : Kind) : List Tree := t.children.filter (·.kind? == some k)

/-- The source of the first child of a kind; empty when there is none. -/
def childText (t : Tree) (k : Kind) : String := ((t.childrenOf k).head?.map text).getD ""

end Tree

end Typewright.Source
