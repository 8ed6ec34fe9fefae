import Typewright.Proofs.Freshness
import Typewright.Proofs.Independence

/-!
The member templates on a generator in use.

A generator may have been used for anything before: declarations were written, templates were rendered or asked for, the
library was dropped (`Use`). Short of adding a template, all of it leaves the generator finding its three member templates
where they are (`InUse`), now and after its library is dropped once more. One use keeps that (`InUse.use`), so any number
does (`InUse.uses`).

At any such time the templates build the lines one would build by hand from the values. A value of a line is a `Scalar`:
nothing, a truth value, a whole number or a text. It stands in its line as it is in plain writing; what a text looks like
does not matter, since only the template is ever read for tags, and what is printed is not escaped under these names.

Proved: `members_are_plain_text`, for all values, signatures, lists of parameters and arguments for the base constructor. A
call of that constructor is written exactly if there are arguments for it, where no list is as good as an empty one; the
header of a method ends with a semicolon in an interface.
-/

namespace Typewright

open Template Template.Library Declaration.Script

/-! ## Values -/

inductive Scalar where
  | missing
  | text (s : String)
  | int (n : Int)
  | bool (b : Bool)

namespace Scalar

def json : Scalar → Json
  | missing => .null
  | text s => .text s
  | int n => .int n
  | bool b => .bool b

/-- The value in plain writing; a missing one is nothing. -/
def plain : Scalar → String
  | missing => ""
  | text s => s
  | int n => toString n
  | bool true => "True"
  | bool false => "False"

theorem printed_json (v : Scalar) : printed v.json = v.plain := by
  cases v with
  | missing => rfl
  | text s => rfl
  | int n => rfl
  | bool b => cases b <;> rfl

end Scalar

/-- A list of arguments as it is handed to a template. -/
theorem argumentList_pieces (arguments : Option (List Piece)) :
    argumentList (arguments.map (·.map .ofOption)) =
      match arguments with
      | some pieces => .list (pieces.map .ofOption)
      | none => .null := by
  cases arguments <;> rfl

namespace Generator

/-! ## Uses -/

/-- A use of a generator that adds no template. -/
inductive Use where
  | generate (d : Declaration) (depth : Int)
  | template (name : String) (scope : Scope)
  | contains (name : String)
  | dropLibrary

def use (g : Generator) : Use → Generator
  | .generate d depth => (g.generate d depth).1
  | .template name scope => (g.renderTemplate name scope).1
  | .contains name => (g.hasTemplate name).1
  | .dropLibrary => g.dropLibrary

/-- A generator of C# that finds its member templates, now and after its library is dropped. -/
structure InUse (c : Settings) (g : Generator) : Prop extends Used c g where
  directory : g.directory = some memberDirectory
  builtin : g.builtin = []

theorem inUse_fresh (c : Settings) : InUse c (csharp c) := ⟨used_fresh c, rfl, rfl⟩

theorem InUse.keep {c : Settings} {g : Generator} (h : InUse c g) {l : Library} (hl : Stocked l) : InUse c (g.keep l) :=
  ⟨⟨h.settings, h.files, hl⟩, h.directory, h.builtin⟩

theorem InUse.use {c : Settings} {g : Generator} (h : InUse c g) (u : Use) : InUse c (g.use u) := by
  cases u with
  | generate d depth => exact ⟨(h.toUsed.generate d depth).2, h.directory, h.builtin⟩
  | template name scope =>
    have hl : Stocked (g.currentLibrary.render g.files name scope).1 := by
      rw [h.files]
      exact (render_member h.stocked name scope).2
    exact h.keep hl
  | contains name =>
    have hl : Stocked (g.currentLibrary.contains g.files name).1 := by
      rw [h.files, contains_eq]
      exact (load_stocked h.stocked name).2
    exact h.keep hl
  | dropLibrary =>
    refine ⟨⟨h.settings, h.files, ?_⟩, h.directory, h.builtin⟩
    show Stocked (freshLibrary g.files g.directory g.builtin)
    rw [h.files, h.directory, h.builtin]
    exact stocked_fresh

theorem InUse.uses {c : Settings} {g : Generator} (h : InUse c g) (us : List Use) : InUse c (us.foldl Generator.use g) := by
  induction us generalizing g with
  | nil => exact h
  | cons u rest ih => exact ih (h.use u)

/-- Rendering on a generator is rendering by its library. -/
theorem InUse.renderTemplate {c : Settings} {g : Generator} (h : InUse c g) (name : String) (scope : Scope) :
    (g.renderTemplate name scope).2 = (g.currentLibrary.render memberFiles name scope).2 := by
  rw [Generator.renderTemplate, h.files]

/-! ## The lines -/

/-- Whatever a generator was used for before, its member templates build plain text of the values they are given: the line of a
    constant, that of a property with an expression or with accessors, and the header of a method, with a call of the base
    constructor if there are arguments for it and a semicolon in an interface. -/
theorem members_are_plain_text (c : Settings) (us : List Use) (a t n v : Scalar) (expressionBodied : Bool)
    (signature : String) (parameters : List String) (arguments : Option (List Piece)) (isInterface : Bool) :
    let g := us.foldl use (csharp c)
    (g.renderTemplate constantTemplate
        [("access", a.json), ("type", t.json), ("name", n.json), ("value", v.json)]).2 =
      .ok (a.plain ++ " const " ++ t.plain ++ " " ++ n.plain ++ " = " ++ v.plain ++ ";") ∧
    (g.renderTemplate propertyTemplate
        [("access", a.json), ("type", t.json), ("name", n.json), ("is_expression_bodied", .bool expressionBodied),
          ("expression", v.json)]).2 =
      .ok (a.plain ++ " " ++ t.plain ++ " " ++ n.plain ++ " "
        ++ if expressionBodied then "=> " ++ v.plain ++ ";" else "\x7b get; set; \x7d") ∧
    (g.renderTemplate methodTemplate
        [("signature", .text signature), ("parameters", .list (parameters.map .text)),
          ("base_arguments",
            match arguments with
            | some pieces => .list (pieces.map .ofOption)
            | none => .null),
          ("is_interface", .bool isInterface)]).2 =
      .ok (signature ++ "(" ++ String.intercalate ", " parameters ++ ")"
        ++ (if arguments.getD [] = [] then ""
          else " : base(" ++ String.intercalate "," ((arguments.getD []).map Piece.shown) ++ ")")
        ++ if isInterface then ";" else "") := by
  intro g
  have hg : InUse c g := (inUse_fresh c).uses us
  refine ⟨?_, ?_, ?_⟩
  · rw [hg.renderTemplate, (render_constant hg.stocked _ _ _ _).1]
    simp only [constantLine, Scalar.printed_json]
  · rw [hg.renderTemplate, (render_property hg.stocked _ _ _ _ _).1]
    simp only [propertyLine, Scalar.printed_json]
  · have hcall : baseCall ((arguments.map (·.map Json.ofOption)).getD []) =
        if arguments.getD [] = [] then ""
        else " : base(" ++ String.intercalate "," ((arguments.getD []).map Piece.shown) ++ ")" := by
      rcases arguments with _ | _ | ⟨x, xs⟩
      · rfl
      · rfl
      · show baseCall ((x :: xs).map Json.ofOption) = _
        rw [baseCall, shown_pieces]
        rfl
    rw [hg.renderTemplate, ← argumentList_pieces, (render_method hg.stocked _ _ _ _).1, methodLine, hcall]

/-- A name that looks like a tag, no type, and an expression that another template would escape. -/
example :
    ((csharp {}).renderTemplate propertyTemplate
      [("access", .text "public"), ("type", .null), ("name", .text "\x7b\x7b x \x7d\x7d"),
        ("is_expression_bodied", .bool true), ("expression", .text "a < b\n")]).2.toOption =
      some "public  \x7b\x7b x \x7d\x7d => a < b\n;" := by
  decide +kernel

end Generator

end Typewright
