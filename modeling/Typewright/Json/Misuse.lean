import Typewright.Json.Show

/-!
Uses of a value that its kind does not allow, each with its message. Settings, nodes and attributes may hold values of any
kind, and nothing checks them before they are used; so what happens to a value of the wrong kind is decided by the operation
that meets it, and the operations that can end in a misuse are here, once for all their users:
- reading a value as a list of items (`Json.items`), where a text is the list of its characters and an object that of its
  names;
- reading it as the fields of an object (`Json.fields`), where a list of pairs will do, and a text of none;
- repeating it as an indentation (`Json.repeated`), where a number is multiplied and a list is repeated as a list, and
  either is then written;
- joining texts (`joinTexts`), where a missing text is refused by its index.

Other misuses come from their own places: a node that lacks a field, a field that settings do not have, an argument that is
given twice.
-/

namespace Typewright

inductive Misuse where
  | notIterable (kind : String)
  | notPair (index : Nat)
  | pairLength (index length : Nat)
  | unhashable (kind : String)
  | lacks (kind field : String)
  | notMultiplied (kind : String)
  | notJoined (index : Nat) (kind : String)
  | unknownField (name : String)
  | repeatedArgument (function name : String)
  deriving DecidableEq

namespace Misuse

def message : Misuse → String
  | notIterable kind => "'" ++ kind ++ "' object is not iterable"
  | notPair i => "cannot convert dictionary update sequence element #" ++ toString i ++ " to a sequence"
  | pairLength i n =>
    "dictionary update sequence element #" ++ toString i ++ " has length " ++ toString n ++ "; 2 is required"
  | unhashable kind => "unhashable type: '" ++ kind ++ "'"
  | lacks kind field => "'" ++ kind ++ "' object has no attribute '" ++ field ++ "'"
  | notMultiplied kind => "unsupported operand type(s) for *: '" ++ kind ++ "' and 'int'"
  | notJoined i kind => "sequence item " ++ toString i ++ ": expected str instance, " ++ kind ++ " found"
  | unknownField name => "GeneratorConfig.__init__() got an unexpected keyword argument '" ++ name ++ "'"
  | repeatedArgument function name => function ++ "() got multiple values for argument '" ++ name ++ "'"

end Misuse

namespace Json

/-- What a value yields item by item: a list its items, a text its characters, an object its names. -/
def items : Json → Except Misuse (List Json)
  | .list vs => .ok vs
  | .text s => .ok (s.toList.map fun c => .text (String.singleton c))
  | .object fs => .ok (fs.map fun f => .text f.1)
  | v => .error (.notIterable v.kindName)

/-- The name under which a value stands as a key. -/
def keyName : Json → Except Misuse String
  | .list _ => .error (.unhashable "list")
  | .object _ => .error (.unhashable "dict")
  | .null => .ok "null"
  | .bool b => .ok (if b then "true" else "false")
  | v => .ok v.shown

def insertPairs : Object → Nat → List Json → Except Misuse Object
  | o, _, [] => .ok o
  | o, index, v :: rest =>
    match v.items with
    | .error _ => .error (.notPair index)
    | .ok [key, value] =>
      match key.keyName with
      | .ok name => insertPairs (o.insert name value) (index + 1) rest
      | .error e => .error e
    | .ok parts => .error (.pairLength index parts.length)

/-- The fields a value stands for: an object's own, or those of a sequence of pairs. -/
def fields : Json → Except Misuse Object
  | .object fs => .ok fs
  | .list vs => insertPairs [] 0 vs
  | .text s => insertPairs [] 0 (s.toList.map fun c => .text (String.singleton c))
  | v => .error (.notIterable v.kindName)

def repeatText (s : String) (count : Int) : String := String.join (List.replicate count.toNat s)

def repeated : Json → Int → Except Misuse String
  | .text s, k => .ok (repeatText s k)
  | .bool b, k => .ok (toString (if b then k else 0))
  | .int n, k => .ok (toString (n * k))
  | .real x, k => .ok (x.times k).text
  | .list vs, k => .ok (Json.list (List.replicate k.toNat vs).flatten).shown
  | v, _ => .error (.notMultiplied v.kindName)

end Json

/-- The texts set apart by a separator; a missing one is refused at its index. -/
def joinFrom (separator : String) : Nat → List (Option String) → Except Misuse (List String)
  | _, [] => .ok []
  | i, some s :: rest => (joinFrom separator (i + 1) rest).map (s :: ·)
  | i, none :: _ => .error (.notJoined i "NoneType")

def joinTexts (separator : String) (texts : List (Option String)) : Except Misuse String :=
  (joinFrom separator 0 texts).map (String.intercalate separator)

end Typewright
