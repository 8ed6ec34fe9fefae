import Typewright.Decimal.Shortest
import Typewright.Json.Basic
import Typewright.Text.Quoted

/-!
Values as they read in messages and in generated text, where they are shown and not stored: `None`, `True`, `False`, numbers
in decimal, lists in brackets and objects in braces with everything inside quoted (`Json.quoted`). Only a text that is the
whole value stands as it is (`Json.shown`).
-/

namespace Typewright.Json

def commaSeparated : List String → String
  | [] => ""
  | [s] => s
  | s :: rest => s ++ ", " ++ commaSeparated rest

mutual

/-- The value with its texts quoted. -/
def quoted : Json → String
  | .null => "None"
  | .bool b => if b then "True" else "False"
  | .int n => toString n
  | .real x => x.text
  | .text s => Text.quoted s
  | .list items => "[" ++ commaSeparated (quotedItems items) ++ "]"
  | .object fields => "\x7b" ++ commaSeparated (quotedFields fields) ++ "\x7d"

def quotedItems : List Json → List String
  | [] => []
  | v :: rest => quoted v :: quotedItems rest

def quotedFields : List (String × Json) → List String
  | [] => []
  | (name, v) :: rest => (Text.quoted name ++ ": " ++ quoted v) :: quotedFields rest

end

def shown : Json → String
  | .text s => s
  | v => quoted v

end Typewright.Json
