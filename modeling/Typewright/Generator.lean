import Typewright.Declaration.Writer
import Typewright.Settings.Basic
import Typewright.Template.Library

/-!
Generators: settings, and a library of templates that is built when it is first needed and can be dropped. A dropped library
is built anew, from the directory of the generator and the templates it was given at the start (`currentLibrary`); templates
that were added in between are gone with it. Every use hands back the generator with the library as it is then, since what
has been loaded stays loaded (`keep`).

The C# generator finds its three member templates in a directory of its own (`csharp`), and writes declarations by their
script (`generate`). `create` makes one from settings and overrides.

The base is meant to be extended: whoever writes a generator for another language brings a language, an extension, templates
and a way to write something. `plain` stands for such a generator, the smallest one over the base. Its templates are in
memory only, and what it writes is one template as one line at a depth (`generateLine`). It is there so that what the base
does, from the check of the depth to the life of the library, can be run without C# in it. `sampleBlock` stands likewise for
code that takes an emitter from a generator and writes a block with it: the text depends on the generator's settings alone.

What a declaration is written as is `Declaration.render`, by a generator of its own. That it does not depend on what the
generator wrote before is proved in `Proofs.Independence`.
-/

namespace Typewright

open Files

structure Generator where
  language : String
  extension : String
  settings : Settings
  files : Tree
  directory : Option String
  builtin : List (String × String)
  library : Option Template.Library

namespace Generator

def memberDirectory : String := "templates"

def memberTemplates : List (String × String) :=
  [(Declaration.Script.constantTemplate,
      "\x7b\x7b access \x7d\x7d const \x7b\x7b type \x7d\x7d \x7b\x7b name \x7d\x7d = \x7b\x7b value \x7d\x7d;\n"),
    (Declaration.Script.propertyTemplate,
      "\x7b\x7b access \x7d\x7d \x7b\x7b type \x7d\x7d \x7b\x7b name \x7d\x7d "
        ++ "\x7b% if is_expression_bodied %\x7d=> \x7b\x7b expression \x7d\x7d;"
        ++ "\x7b% else %\x7d\x7b get; set; \x7d\x7b% endif %\x7d\n"),
    (Declaration.Script.methodTemplate,
      "\x7b\x7b signature \x7d\x7d(\x7b\x7b parameters | join(\", \") \x7d\x7d)"
        ++ "\x7b% if base_arguments %\x7d : base(\x7b\x7b base_arguments | join(\",\") \x7d\x7d)\x7b% endif %\x7d"
        ++ "\x7b% if is_interface %\x7d;\x7b% endif %\x7d\n")]

def memberFiles : Tree :=
  memberTemplates.foldl (fun t m => t.place ⟨false, [memberDirectory, m.1]⟩ (.text m.2)) Tree.empty

/-- A fresh library: the directory, and the templates that are given. -/
def freshLibrary (files : Tree) (directory : Option String) (builtin : List (String × String)) : Template.Library :=
  builtin.foldl (fun l t => l.add t.1 t.2) (Template.Library.start files directory)

def csharp (settings : Settings) : Generator where
  language := "csharp"
  extension := ".cs"
  settings
  files := memberFiles
  directory := some memberDirectory
  builtin := []
  library := some (freshLibrary memberFiles (some memberDirectory) [])

/-- A generator of C# under overrides. The settings have an argument of their own, so no override can bear its name. -/
def create (settings : Option Settings) (overrides : Object) : Except Misuse Generator :=
  if overrides.has "config" then .error (.repeatedArgument "create_csharp_generator" "config")
  else (Settings.overridden settings overrides).map csharp

/-- The smallest generator over the base, standing for those of other languages: its templates are in memory only. -/
def plain (settings : Settings) (builtin : List (String × String)) : Generator where
  language := "plain"
  extension := ".txt"
  settings
  files := Tree.empty
  directory := none
  builtin
  library := some (freshLibrary Tree.empty none builtin)

def currentLibrary (g : Generator) : Template.Library := g.library.getD (freshLibrary g.files g.directory g.builtin)

def keep (g : Generator) (l : Template.Library) : Generator := { g with library := some l }

def dropLibrary (g : Generator) : Generator := { g with library := none }

def addTemplate (g : Generator) (name text : String) : Generator := g.keep (g.currentLibrary.add name text)

def renderTemplate (g : Generator) (name : String) (scope : Template.Scope) :
    Generator × Except Template.Fault String :=
  let (l, r) := g.currentLibrary.render g.files name scope
  (g.keep l, r)

def hasTemplate (g : Generator) (name : String) : Generator × Except Template.Fault Bool :=
  let (l, r) := g.currentLibrary.contains g.files name
  (g.keep l, r)

def emitter (g : Generator) (depth : Int) : Except Emitter.Fault Emitter :=
  Emitter.start g.settings.indent g.settings.lineEnding depth

/-- Writes a declaration. The library is only built when the steps reach a template. -/
def generate (g : Generator) (d : Declaration) (depth : Int) : Generator × Written :=
  let w := d.write g.files g.currentLibrary g.settings depth
  (g.keep w.library, w)

/-- What such a generator writes: a template, rendered as one line. The depth is checked first. -/
def generateLine (g : Generator) (name : String) (depth : Int) : Generator × Except WriteFault String :=
  match g.emitter depth with
  | .error f => (g, .error (.emitter f))
  | .ok e =>
    match g.renderTemplate name [] with
    | (g, .error f) => (g, .error (.template name f))
    | (g, .ok text) =>
      match e.line text with
      | .error f => (g, .error (.emitter f))
      | .ok e => (g, .ok e.render)

/-- What code with an emitter of this generator writes: a block that holds one line. -/
def sampleBlock (g : Generator) (depth : Int) : Except Emitter.Fault String := do
  let e ← g.emitter depth
  let e ← e.openBlock
  let e ← e.line "x"
  let e ← e.closeBlock
  return e.render

end Generator

/-- Writes a declaration as C#, with a generator of its own. -/
def Declaration.render (d : Declaration) (depth : Int) (settings : Settings) : Written :=
  ((Generator.csharp settings).generate d depth).2

end Typewright
