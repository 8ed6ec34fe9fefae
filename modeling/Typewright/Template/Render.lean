import Typewright.Json.Misuse
import Typewright.Template.Node
import Typewright.Text.Case

/-!
Rendering a template under a scope of names. A name that is not in scope is absent: it prints as nothing, is false, and
yields nothing. Null prints as nothing too, but a filter takes it by its text.

Printed values are escaped when asked for (`escaped`); the template's own text never is, and no value is ever read as a
template. A loop renders its body once for each item, with the item under the loop's name over whatever had that name
(`joinTurns`), or its other part when there are none. What a loop goes through is what a value yields, and one that yields
nothing by its kind is a misuse.

There are two faults: such a misuse, and a filter that is not known and was left to the rendering. The first one met ends
the rendering, and no text is given.
-/

namespace Typewright.Template

/-- A value, or none for a name that is not in scope. -/
abbrev Value := Option Json

/-- Values by name; a name given again hides the older one. -/
abbrev Scope := List (String × Json)

inductive RunFault where
  | misuse (m : Misuse)
  | filter (name : String)
  deriving DecidableEq

def RunFault.message : RunFault → String
  | misuse m => m.message
  | filter name => "No filter named " ++ Text.quoted name ++ " found."

namespace Value

def truth : Value → Bool
  | some v => v.truth
  | none => false

def asText : Value → String
  | some v => v.shown
  | none => ""

def printed : Value → String
  | some .null | none => ""
  | some v => v.shown

def items : Value → Except Misuse (List Json)
  | some v => v.items
  | none => .ok []

end Value

/-- The characters that are written by name where output is escaped. -/
def escapeChar (c : Char) : List Char :=
  if c == '&' then "&amp;".toList
  else if c == '<' then "&lt;".toList
  else if c == '>' then "&gt;".toList
  else if c == '\'' then "&#39;".toList
  else if c == '"' then "&#34;".toList
  else [c]

def escaped (s : String) : String := String.ofList (s.toList.flatMap escapeChar)

def applyFilter (name : String) (v : Value) (args : List Value) : Except RunFault Value :=
  if name == "join" then
    match v.items with
    | .ok vs => .ok (some (.text (String.intercalate ((args.head?.map Value.asText).getD "") (vs.map Json.shown))))
    | .error m => .error (.misuse m)
  else if name == "upper" then .ok (some (.text (Text.upper v.asText)))
  else if name == "lower" then .ok (some (.text (Text.lower v.asText)))
  else .error (.filter name)

mutual

def Expr.eval (scope : Scope) : Expr → Except RunFault Value
  | .name n => .ok (List.lookup n scope)
  | .literal v => .ok (some v)
  | .negation e =>
    match e.eval scope with
    | .ok v => .ok (some (.bool !v.truth))
    | .error f => .error f
  | .filter e name args =>
    match e.eval scope with
    | .error f => .error f
    | .ok v =>
      match evalAll scope args with
      | .error f => .error f
      | .ok vs => applyFilter name v vs

def evalAll (scope : Scope) : List Expr → Except RunFault (List Value)
  | [] => .ok []
  | e :: rest =>
    match e.eval scope with
    | .error f => .error f
    | .ok v => (evalAll scope rest).map (v :: ·)

end

def joinTurns (turn : Json → Except RunFault String) : List Json → Except RunFault String
  | [] => .ok ""
  | v :: rest =>
    match turn v with
    | .error f => .error f
    | .ok s => (joinTurns turn rest).map (s ++ ·)

mutual

def Node.render (escape : Bool) (scope : Scope) : Node → Except RunFault String
  | .text s => .ok s
  | .output e =>
    match e.eval scope with
    | .error f => .error f
    | .ok v => .ok (if escape then escaped v.printed else v.printed)
  | .branch test body otherwise =>
    match test.eval scope with
    | .error f => .error f
    | .ok v => if v.truth then renderAll escape scope body else renderAll escape scope otherwise
  | .loop name items body otherwise =>
    match items.eval scope with
    | .error f => .error f
    | .ok v =>
      match v.items with
      | .error m => .error (.misuse m)
      | .ok [] => renderAll escape scope otherwise
      | .ok vs => joinTurns (fun v => renderAll escape ((name, v) :: scope) body) vs

def renderAll (escape : Bool) (scope : Scope) : List Node → Except RunFault String
  | [] => .ok ""
  | n :: rest =>
    match n.render escape scope with
    | .error f => .error f
    | .ok s => (renderAll escape scope rest).map (s ++ ·)

end

end Typewright.Template
