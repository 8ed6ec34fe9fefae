import Typewright.Json.Misuse

/-!
Settings of a generator: the indent, the line ending, the comment at the head of a file, and custom entries. Each is a value
of any kind, since nothing checks it when settings are made; what a use makes of a value that is no text is up to the use.

Settings come from objects, and there are two ways from an object to settings.
- `ofFields` takes the four fields by name and refuses any other one.
- `ofObject` takes the four fields and puts every other one into the custom entries, over an entry of that name which the
  object's own `custom` field may hold.

Objects are merged before they become settings, the later over the earlier: the defaults of a language, the fields of a
file, the overrides (`resolve`). A language that is not known has no defaults of its own, but settings fill in what is
missing, so it has those of C# all the same. Overrides for given settings start from the object of these settings
(`overridden`); without overrides they stay as they are.

Results: which source of a field wins is in `Proofs.Precedence`, overriding twice in `Proofs.Overrides`.
-/

namespace Typewright

structure Settings where
  indent : Json := .text "\t"
  lineEnding : Json := .text "\n"
  comment : Json := .text "// Auto-generated code"
  custom : Json := .object []

namespace Settings

def fieldNames : List String := ["indent", "line_ending", "auto_generation_comment", "custom"]

def isFieldName (name : String) : Bool := fieldNames.contains name

def toObject (s : Settings) : Object :=
  [("indent", s.indent), ("line_ending", s.lineEnding), ("auto_generation_comment", s.comment), ("custom", s.custom)]

/-- Settings with the fields an object has, the others by default. -/
def ofKnown (o : Object) : Settings where
  indent := (o.find? "indent").getD ({} : Settings).indent
  lineEnding := (o.find? "line_ending").getD ({} : Settings).lineEnding
  comment := (o.find? "auto_generation_comment").getD ({} : Settings).comment
  custom := (o.find? "custom").getD ({} : Settings).custom

def ofFields (o : Object) : Except Misuse Settings :=
  match o.names.find? fun n => !isFieldName n with
  | some n => .error (.unknownField n)
  | none => .ok (ofKnown o)

/-- Settings from any object: what is no field goes into the custom entries. -/
def ofObject (o : Object) : Except Misuse Settings :=
  let extras := o.filterNames fun n => !isFieldName n
  let known := ofKnown o
  if extras.isEmpty then .ok known
  else known.custom.fields.map fun entries => { known with custom := .object (entries.merge extras) }

/-- The defaults of a language; none for one that is not known. -/
def defaults (language : String) : Object :=
  if language == "csharp" then
    [("indent", .text "\t"), ("line_ending", .text "\n"), ("auto_generation_comment", .text "// Auto-generated code")]
  else []

def languages : List String := ["csharp"]

/-- Writes `overrides` over an object, when it is not empty. -/
def override (o : Object) (overrides : Json) : Except Misuse Object :=
  if overrides.truth then overrides.fields.map o.merge else .ok o

/-- Settings of a language, under the fields of a file and then under overrides. -/
def resolve (language : String) (file : Object) (overrides : Json) : Except Misuse Settings :=
  match override ((defaults language).merge file) overrides with
  | .ok o => ofObject o
  | .error m => .error m

/-- Settings with overrides written over them; without overrides they stay as they are. -/
def overridden (base : Option Settings) (overrides : Object) : Except Misuse Settings :=
  if overrides.isEmpty then .ok (base.getD {})
  else resolve "csharp" [] (.object (((base.map toObject).getD []).merge overrides))

end Settings

end Typewright
