import Typewright.Decimal.Binary64

/-!
JSON values. An object keeps its fields in the order in which their names first came; writing a name again changes the value
in its place (`Object.insert`), and merging two objects writes the fields of the second into the first (`Object.merge`). So
the order of the fields of merged objects is that of the first object, then that of the new names of the second. What
merging does to a single field is in `Proofs.Objects`.

Whole numbers and reals are kept apart, as they are when they are read and written. A value counts as true or false by its
kind (`Json.truth`), and has a name for its kind, which messages use (`Json.kindName`).
-/

namespace Typewright

inductive Json where
  | null
  | bool (b : Bool)
  | int (n : Int)
  | real (x : Decimal.Binary64)
  | text (s : String)
  | list (items : List Json)
  | object (fields : List (String × Json))

abbrev Object := List (String × Json)

namespace Object

def find? (o : Object) (name : String) : Option Json := List.lookup name o

def names (o : Object) : List String := o.map (·.1)

def has (o : Object) (name : String) : Bool := (o.find? name).isSome

/-- Writes a field: in its place if the name is known, else at the end. -/
def insert : Object → String → Json → Object
  | [], name, v => [(name, v)]
  | (n, old) :: rest, name, v => if n == name then (n, v) :: rest else (n, old) :: insert rest name v

/-- The fields of `second` written into `first`, in order. -/
def merge (first second : Object) : Object := second.foldl (fun o f => insert o f.1 f.2) first

def filterNames (o : Object) (p : String → Bool) : Object := o.filter fun f => p f.1

theorem find?_insert_same (o : Object) (name : String) (v : Json) : find? (insert o name v) name = some v := by
  induction o with
  | nil => simp [insert, find?]
  | cons f rest ih =>
    obtain ⟨n, old⟩ := f
    by_cases h : n = name
    · simp [insert, find?, h]
    · have h' : (name == n) = false := by simpa using fun e => h e.symm
      simpa [insert, find?, h, List.lookup_cons, h'] using ih

theorem find?_insert_other (o : Object) (name other : String) (v : Json) (h : other ≠ name) :
    find? (insert o name v) other = find? o other := by
  induction o with
  | nil =>
    have h' : (other == name) = false := by simpa using h
    simp [insert, find?, List.lookup_cons, h']
  | cons f rest ih =>
    obtain ⟨n, old⟩ := f
    by_cases hn : n = name
    · have h' : (other == n) = false := by subst hn; simpa using h
      simp [insert, find?, hn, List.lookup_cons, show (other == name) = false by simpa using h]
    · have ih' : List.lookup other (insert rest name v) = List.lookup other rest := ih
      simp [insert, find?, hn, List.lookup_cons, ih']

end Object

namespace Json

def kindName : Json → String
  | .null => "NoneType"
  | .bool _ => "bool"
  | .int _ => "int"
  | .real _ => "float"
  | .text _ => "str"
  | .list _ => "list"
  | .object _ => "dict"

/-- Null, false, zero and everything empty count as false. -/
def truth : Json → Bool
  | .null => false
  | .bool b => b
  | .int n => n != 0
  | .real x => !x.isZero
  | .text s => !s.isEmpty
  | .list items => !items.isEmpty
  | .object fields => !fields.isEmpty

def ofOption : Option String → Json
  | some s => .text s
  | none => .null

end Json

end Typewright
