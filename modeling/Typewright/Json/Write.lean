import Typewright.Decimal.Shortest
import Typewright.Json.Basic
import Typewright.Text.Hex

/-!
Writing JSON text: on one line (`Json.compact`), or with every item and field on a line of its own, two blanks deeper than
what holds it (`Json.pretty`). An empty list or object stays on its line.

Only quotes, backslashes and control characters are escaped, a control character by its letter if it has one; everything
else stands as it is, outside ASCII too. Reals are written by their shortest decimal, and those that are no numbers by the
words that are read back as such (`writtenReal`). That written values are read back is in `Proofs.JsonText`.
-/

namespace Typewright.Json

def writtenChar (c : Char) : List Char :=
  if c == '"' || c == '\\' then ['\\', c]
  else if c == '\n' then ['\\', 'n']
  else if c == '\r' then ['\\', 'r']
  else if c == '\t' then ['\\', 't']
  else if c == '\x08' then ['\\', 'b']
  else if c == '\x0c' then ['\\', 'f']
  else if c.toNat < 0x20 then '\\' :: 'u' :: Text.hexDigits 4 c.toNat
  else [c]

def writtenText (s : String) : String := String.ofList ('"' :: s.toList.flatMap writtenChar ++ ['"'])

def writtenReal : Decimal.Binary64 → String
  | .nan => "NaN"
  | .infinite s => if s then "-Infinity" else "Infinity"
  | x => x.text

def freshLine (depth : Nat) : String := String.ofList ('\n' :: List.replicate (2 * depth) ' ')

mutual

/-- The value on lines of its own, inside something at `depth`. -/
def prettyAt (depth : Nat) : Json → String
  | .null => "null"
  | .bool b => if b then "true" else "false"
  | .int n => toString n
  | .real x => writtenReal x
  | .text s => writtenText s
  | .list [] => "[]"
  | .list (v :: rest) =>
    "[" ++ freshLine (depth + 1) ++ prettyAt (depth + 1) v ++ prettyItems (depth + 1) rest ++ freshLine depth ++ "]"
  | .object [] => "\x7b\x7d"
  | .object ((name, v) :: rest) =>
    "\x7b" ++ freshLine (depth + 1) ++ writtenText name ++ ": " ++ prettyAt (depth + 1) v
      ++ prettyFields (depth + 1) rest ++ freshLine depth ++ "\x7d"

def prettyItems (depth : Nat) : List Json → String
  | [] => ""
  | v :: rest => "," ++ freshLine depth ++ prettyAt depth v ++ prettyItems depth rest

def prettyFields (depth : Nat) : List (String × Json) → String
  | [] => ""
  | (name, v) :: rest =>
    "," ++ freshLine depth ++ writtenText name ++ ": " ++ prettyAt depth v ++ prettyFields depth rest

end

def pretty (v : Json) : String := prettyAt 0 v

mutual

def compact : Json → String
  | .null => "null"
  | .bool b => if b then "true" else "false"
  | .int n => toString n
  | .real x => writtenReal x
  | .text s => writtenText s
  | .list items => "[" ++ String.intercalate "," (compactItems items) ++ "]"
  | .object fields => "\x7b" ++ String.intercalate "," (compactFields fields) ++ "\x7d"

def compactItems : List Json → List String
  | [] => []
  | v :: rest => compact v :: compactItems rest

def compactFields : List (String × Json) → List String
  | [] => []
  | (name, v) :: rest => (writtenText name ++ ":" ++ compact v) :: compactFields rest

end

end Typewright.Json
