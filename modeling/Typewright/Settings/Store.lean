import Typewright.Files.Tree
import Typewright.Json.Read
import Typewright.Json.Write
import Typewright.Settings.Basic
import Typewright.Text.Blank

/-!
Settings in files, and the warnings about them. Loading takes a JSON object as overrides of the defaults; saving writes
settings as one flat object whose custom entries stand beside the fields (`flat`). A custom entry with the name of a field
is written over it, and one that is called `custom` is read back as the entries themselves; which settings come back is in
`Proofs.SettingsFile`.

A file is refused in a fixed order: it is not there, it has another suffix, it cannot be read, it is no UTF-8, it is no
JSON, it is no object (`readFile`). Each has its message, most of them with the path in normal form. Whether a file is there
is asked before anything else, and a name that is too long is no answer to that question but a fault of its own (`isThere`).
Saving makes the text first, so settings that cannot be written leave the files as they were (`save`).

Warnings look at three fields in turn (`warnings`). An indent or a comment that counts as false has none, and one that is no
text is a misuse. Of a line ending any other value than the usual two is just unusual, but for a list or an object, which is
a misuse. What a warning does not find is in `Proofs.Undisturbed`.
-/

namespace Typewright.Settings

open Files

inductive Fault where
  | notFound (path : String)
  | notJson (path : String)
  | invalid (path : String) (fault : String)
  | unreadable (path : String) (r : Refusal)
  | notObject (path : String)
  | unsaved (path : String) (r : Refusal)
  | refused (path : String) (r : Refusal)
  | undecodable (f : Text.Utf8Fault)
  | nulInPath
  | misuse (m : Misuse)

def Fault.message : Fault → String
  | notFound path => "Configuration file not found: " ++ path
  | notJson path => "Configuration file must be JSON: " ++ path
  | invalid path fault => "Invalid JSON in configuration file " ++ path ++ ": " ++ fault
  | unreadable path r => "Failed to load configuration file " ++ path ++ ": " ++ r.message path
  | notObject path => "Configuration file must contain a JSON object: " ++ path
  | unsaved path r => "Failed to save configuration to " ++ path ++ ": " ++ r.message path
  | refused path r => r.message path
  | undecodable f => f.message
  | nulInPath => "embedded null byte"
  | misuse m => m.message

/-- Something stands at the path. A name that is too long is no answer. -/
def isThere (files : Tree) (path : Path) : Except Fault Bool :=
  if path.text.toList.contains '\x00' then .ok false
  else
    match files.look path with
    | .ok _ => .ok true
    | .error .nameTooLong => .error (.refused path.text .nameTooLong)
    | .error _ => .ok false

def readContent (path : Path) (c : Content) : Except Fault Object :=
  match c.read with
  | .error f => .error (.undecodable f)
  | .ok source =>
    match Json.read source.toList with
    | .error f => .error (.invalid path.text (f.message source.toList))
    | .ok (.object o) => .ok o
    | .ok _ => .error (.notObject path.text)

/-- The object in the file at a path: the file must be there, then have the suffix, then be readable. -/
def readFile (files : Tree) (path : Path) : Except Fault Object :=
  match isThere files path with
  | .error f => .error f
  | .ok false => .error (.notFound path.text)
  | .ok true =>
    if !path.isJson then .error (.notJson path.text)
    else
      match files.look path with
      | .error r => .error (.unreadable path.text r)
      | .ok .directory => .error (.unreadable path.text .isDirectory)
      | .ok (.file c _) => readContent path c

def load (files : Tree) (language : String) (overrides : Json) (file : Option String) : Except Fault Settings :=
  let fromFile : Except Fault Object := match file with
    | some path => if path.isEmpty then .ok [] else readFile files (.ofString path)
    | none => .ok []
  match fromFile with
  | .error f => .error f
  | .ok o => (resolve language o overrides).mapError .misuse

/-- The flat object that stands for settings in a file. -/
def flat (s : Settings) : Except Misuse Object :=
  s.custom.fields.map (Object.merge (s.toObject.filterNames (· != "custom")))

def fileText (s : Settings) : Except Misuse String := s.flat.map fun o => (Json.object o).pretty

def save (files : Tree) (s : Settings) (path : String) : Except Fault Tree :=
  match s.fileText with
  | .error m => .error (.misuse m)
  | .ok text =>
    let p := Path.ofString path
    if p.text.toList.contains '\x00' then .error .nulInPath
    else
      match files.write p (.text text) with
      | .ok files => .ok files
      | .error r => .error (.unsaved p.text r)

/-! ## Warnings -/

/-- A warning when the indent holds anything but white space. -/
def indentWarning (s : Settings) : Except Misuse (List String) :=
  if !s.indent.truth then .ok []
  else
    match s.indent with
    | .text i => .ok (if Text.allBlank i then [] else ["Indent should be whitespace only: " ++ Text.quoted i])
    | v => .error (.lacks v.kindName "strip")

/-- A warning when the line ending is neither of the usual two. -/
def lineEndingWarning (s : Settings) : Except Misuse (List String) :=
  match s.lineEnding with
  | .text e => .ok (if e == "\n" || e == "\r\n" then [] else ["Unusual line ending: " ++ Text.quoted e])
  | .list _ => .error (.unhashable "list")
  | .object _ => .error (.unhashable "dict")
  | v => .ok ["Unusual line ending: " ++ v.quoted]

/-- A warning when the comment at the head of a file is not a line comment. -/
def commentWarning (s : Settings) : Except Misuse (List String) :=
  if !s.comment.truth then .ok []
  else
    match s.comment with
    | .text c =>
      .ok (if "//".toList.isPrefixOf c.toList then []
        else ["Auto-generation comment is not a line comment: " ++ Text.quoted c])
    | v => .error (.lacks v.kindName "startswith")

def warnings (s : Settings) : Except Misuse (List String) := do
  let indent ← s.indentWarning
  let ending ← s.lineEndingWarning
  let comment ← s.commentWarning
  return indent ++ ending ++ comment

end Typewright.Settings
