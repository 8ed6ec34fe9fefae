import Typewright.Json.Misuse

/-!
An emitter of indented lines. It holds the lines written so far, each with its indentation, and the depth of the next one.
The depth changes only through blocks: a block writes an opening brace at the current depth, runs its body one level deeper
and writes the closing brace back at the outer depth, also when the body is broken off.

The indent and the line ending are values of any kind, as settings may hold them. An indent that is no text is repeated as
its kind allows, or cannot be, which is a fault at the first line that is not blank, whatever its depth (`Json.repeated`); a
line ending is written as it shows. A depth below zero is a fault at the start only (`start`): a line that is given one has
no indentation.

`runActions` carries out a program of actions and tells what can be seen on the way (`Event`): the state after each action,
what was caught, what was rendered. A program ends, or is halted by a message that it raises or by a fault. An attempt
catches a message but no fault (`endAttempt`); a block catches neither and is closed under both, as far as the indent allows
(`endBlock`). That the braces of every program match, and that depth and indentation follow the open blocks at every moment
of it, is proved in `Proofs.WellNested`.
-/

namespace Typewright

structure Emitter where
  indent : Json
  lineEnding : Json
  startingDepth : Nat
  depth : Nat
  lines : List String

namespace Emitter

inductive Fault where
  | negativeDepth (depth : Int)
  | indent (m : Misuse)
  deriving DecidableEq

def Fault.message : Fault → String
  | negativeDepth d => "Indentation depth cannot be negative: " ++ toString d
  | indent m => m.message

def start (indent lineEnding : Json) (depth : Int) : Except Fault Emitter :=
  if depth < 0 then .error (.negativeDepth depth) else .ok ⟨indent, lineEnding, depth.toNat, depth.toNat, []⟩

/-- Appends a line at a depth; a depth below zero has no indentation. -/
def lineAt (e : Emitter) (depth : Int) (text : String) : Except Fault Emitter :=
  match e.indent.repeated depth with
  | .ok i => .ok { e with lines := e.lines ++ [i ++ text] }
  | .error m => .error (.indent m)

def line (e : Emitter) (text : String) : Except Fault Emitter := e.lineAt e.depth text

/-- Appends an empty line; it carries no indentation. -/
def blank (e : Emitter) : Emitter := { e with lines := e.lines ++ [""] }

def openBlock (e : Emitter) : Except Fault Emitter :=
  (e.line "\x7b").map fun e => { e with depth := e.depth + 1 }

def closeBlock (e : Emitter) : Except Fault Emitter :=
  let e := { e with depth := e.depth - 1 }
  e.line "\x7d"

def render (e : Emitter) : String := String.join (e.lines.map (· ++ e.lineEnding.shown))

/-! ## Programs -/

inductive Action where
  | line (text : String) (depth : Option Int)
  | blank
  | lines (texts : List String) (depth : Option Int)
  | block (body : List Action)
  | attempt (body : List Action)
  | raise (message : String)
  | render

/-- What can be seen of a run: the state after an action, a caught message, a rendering. -/
inductive Event where
  | note (depth count : Nat) (last : Option String)
  | caught (message : String)
  | text (s : String)
  deriving DecidableEq

inductive Halt where
  | raised (message : String)
  | fault (f : Fault)
  deriving DecidableEq

structure Run where
  emitter : Emitter
  events : List Event
  halt : Option Halt

def note (e : Emitter) : Event := .note e.depth e.lines.length e.lines.getLast?

/-- A run that ends normally with a note of its state. -/
def noted (e : Emitter) : Run := ⟨e, [e.note], none⟩

def settle (e : Emitter) : Except Fault Emitter → Run
  | .ok e' => e'.noted
  | .error f => ⟨e, [], some (.fault f)⟩

def linesAt (depth : Int) : Emitter → List String → Except Fault Emitter
  | e, [] => .ok e
  | e, text :: rest =>
    match e.lineAt depth text with
    | .ok e' => linesAt depth e' rest
    | .error f => .error f

/-- The end of a block: the outer depth and the closing brace, and a note unless the body was broken off. -/
def endBlock (outer : Nat) (r : Run) : Run :=
  let e := { r.emitter with depth := outer }
  match e.line "\x7d" with
  | .error f => ⟨e, r.events, some (.fault f)⟩
  | .ok e' =>
    match r.halt with
    | some h => ⟨e', r.events, some h⟩
    | none => ⟨e', r.events ++ [e'.note], none⟩

def endAttempt (r : Run) : Run :=
  match r.halt with
  | some (.raised m) => ⟨r.emitter, r.events ++ [.caught m, r.emitter.note], none⟩
  | some (.fault _) => r
  | none => ⟨r.emitter, r.events ++ [r.emitter.note], none⟩

mutual

def runAction (e : Emitter) : Action → Run
  | .line text depth => e.settle (e.lineAt (depth.getD e.depth) text)
  | .blank => e.blank.noted
  | .lines texts depth => e.settle (linesAt (depth.getD e.depth) e texts)
  | .block body =>
    match e.openBlock with
    | .error f => ⟨e, [], some (.fault f)⟩
    | .ok inner =>
      let r := runActions inner body
      endBlock e.depth { r with events := inner.note :: r.events }
  | .attempt body => endAttempt (runActions e body)
  | .raise message => ⟨e, [], some (.raised message)⟩
  | .render => ⟨e, [.text e.render], none⟩

def runActions (e : Emitter) : List Action → Run
  | [] => ⟨e, [], none⟩
  | a :: rest =>
    let first := runAction e a
    match first.halt with
    | some h => ⟨first.emitter, first.events, some h⟩
    | none =>
      let more := runActions first.emitter rest
      { more with events := first.events ++ more.events }

end

end Emitter

end Typewright
