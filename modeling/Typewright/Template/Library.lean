import Typewright.Files.Tree
import Typewright.Template.Render
import Typewright.Text.Split

/-!
A library of templates by name: those added to memory, and those in a directory of files. Memory is looked into first. A
name is a path below the directory; one that goes up is not found there (`nameParts?`).

A template that was loaded stays in use as long as what it was loaded from has not changed: the file, by its stamp, or the
text in memory (`isFresh`). So a template loaded from a file hides one added to memory later, until the file is written or
taken away (`Proofs.Shadowing`). A load that fails is not kept, and everything that loads keeps what it loaded, asking
whether there is a template as well (`contains`).

What is kept is kept for good: there is no limit to the number of templates, and none is dropped to make room.

Values are escaped by the ending of a template's name (`escapes`), never in a template that is given as a text
(`renderString`). Every fault has the name of the template before it in its message.
-/

namespace Typewright.Template

open Files

inductive Origin where
  | memory (text : String)
  | file (stamp : Nat)
  deriving DecidableEq

structure Loaded where
  origin : Origin
  nodes : List Node

/-- Templates in memory, the directory that is searched, and what was loaded, by name. -/
structure Library where
  memory : List (String × String)
  directory : Option Path
  cache : List (String × Loaded)

inductive Fault where
  | notFound (name : String)
  | undecodable (f : Text.Utf8Fault)
  | flaw (f : Flaw)
  | run (f : RunFault)
  deriving DecidableEq

def Fault.cause : Fault → String
  | notFound name => name
  | undecodable f => f.message
  | flaw f => f.message
  | run f => f.message

def Fault.message (name : String) (f : Fault) : String := "Failed to render template " ++ name ++ ": " ++ f.cause

def Fault.stringMessage (f : Fault) : String := "Failed to render template string: " ++ f.cause

namespace Library

/-- A library over a directory, which is searched only if it is there. -/
def start (files : Tree) (directory : Option String) : Library where
  memory := []
  directory := directory.bind fun d =>
    match files.look (.ofString d) with
    | .ok _ => some (.ofString d)
    | .error _ => none
  cache := []

/-- Adds a template to memory, in place of one of that name. -/
def add (l : Library) (name text : String) : Library :=
  { l with memory := (name, text) :: l.memory.filter (fun m => m.1 != name) }

/-- The parts of a name below the directory; going up is refused. -/
def nameParts? (name : String) : Option (List String) :=
  let parts := Text.pathParts name
  if parts.contains ".." then none else some parts

def file? (l : Library) (files : Tree) (name : String) : Option (Content × Nat) :=
  match l.directory, nameParts? name with
  | some directory, some parts =>
    match files.look { directory with parts := directory.parts ++ parts } with
    | .ok (.file c stamp) => some (c, stamp)
    | _ => none
  | _, _ => none

/-- Nothing has changed where a template was loaded from. -/
def isFresh (l : Library) (files : Tree) (name : String) : Origin → Bool
  | .memory text => List.lookup name l.memory == some text
  | .file stamp => (l.file? files name).any (·.2 == stamp)

def find (l : Library) (files : Tree) (name : String) : Except Fault Loaded :=
  match List.lookup name l.memory with
  | some text => ((read text).map (Loaded.mk (.memory text))).mapError .flaw
  | none =>
    match l.file? files name with
    | none => .error (.notFound name)
    | some (content, stamp) =>
      match content.read with
      | .error f => .error (.undecodable f)
      | .ok text => ((read text).map (Loaded.mk (.file stamp))).mapError .flaw

def cached? (l : Library) (files : Tree) (name : String) : Option Loaded :=
  (List.lookup name l.cache).filter fun t => l.isFresh files name t.origin

/-- The template of a name, and the library that keeps it. -/
def load (l : Library) (files : Tree) (name : String) : Library × Except Fault Loaded :=
  match l.cached? files name with
  | some t => (l, .ok t)
  | none =>
    match l.find files name with
    | .error f => (l, .error f)
    | .ok t => ({ l with cache := (name, t) :: l.cache.filter (fun c => c.1 != name) }, .ok t)

/-- A template can be loaded. One that is there but cannot be read is a fault. -/
def contains (l : Library) (files : Tree) (name : String) : Library × Except Fault Bool :=
  match l.load files name with
  | (l, .ok _) => (l, .ok true)
  | (l, .error (.notFound _)) => (l, .ok false)
  | (l, .error f) => (l, .error f)

def escapes (name : String) : Bool :=
  let lowered := (Text.lower name).toList
  ".html".toList.isSuffixOf lowered || ".xml".toList.isSuffixOf lowered

def render (l : Library) (files : Tree) (name : String) (scope : Scope) : Library × Except Fault String :=
  match l.load files name with
  | (l, .error f) => (l, .error f)
  | (l, .ok t) => (l, (renderAll (escapes name) scope t.nodes).mapError .run)

end Library

def renderString (source : String) (scope : Scope) : Except Fault String :=
  match read source with
  | .error f => .error (.flaw f)
  | .ok nodes => (renderAll false scope nodes).mapError .run

end Typewright.Template
