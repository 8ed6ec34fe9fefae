import Typewright.Generator
import Typewright.Proofs.Basic

/-!
The member templates of C# as string building.

The lines of constants, properties and method headers come out of three templates, which are files of the generator.
Rendering one goes through all of the template engine: the library searches and loads, the text is cut into tokens, read as
nodes, and rendered under the values of a member. Here that is settled once and for all.

A library of these templates is `Stocked` when it searches their directory only and every template it keeps is the one a
fresh search would find. It starts so (`stocked_fresh`) and loading keeps it so (`load_stocked`). In a stocked library the
three names are found, and are read as known nodes (`read_constant`, `read_property`, `read_method`), since nothing in the
texts of the templates depends on the member. From there rendering is evaluated with the values left open.

Rendering a member never fails, whatever was loaded before, and gives a closed text (`render_constant`, `render_property`,
`render_method`). In it a value stands as a print tag writes it (`printed`): null is nothing, a text is itself, other values
are in writing. Lists of parameters and arguments are joined by the `join` filter, which takes null by its text.
-/

namespace Typewright.Template.Library

open Files Declaration.Script

/-! ## Loading -/

/-- The library searches the member templates only, and keeps none that a fresh search would not find. -/
structure Stocked (l : Library) : Prop where
  memory : l.memory = []
  directory : l.directory = some (.ofString Generator.memberDirectory)
  cache : ∀ name t, List.lookup name l.cache = some t → l.find Generator.memberFiles name = .ok t

/-- A search does not look at what is kept. -/
theorem find_keeping (l : Library) (c : List (String × Loaded)) (files : Tree) (name : String) :
    find { l with cache := c } files name = l.find files name := rfl

theorem stocked_fresh : Stocked (Generator.freshLibrary Generator.memberFiles (some Generator.memberDirectory) []) where
  memory := rfl
  directory := by decide +kernel
  cache := by intro name t h; cases h

/-- Loading from a stocked library gives what a fresh search gives. -/
theorem load_stocked {l : Library} (h : Stocked l) (name : String) :
    (l.load Generator.memberFiles name).2 = l.find Generator.memberFiles name ∧
      Stocked (l.load Generator.memberFiles name).1 := by
  unfold load
  cases hc : l.cached? Generator.memberFiles name with
  | some t =>
    obtain ⟨ht, -⟩ := Option.filter_eq_some_iff.mp hc
    exact ⟨(h.cache name t ht).symm, h⟩
  | none =>
    cases hf : l.find Generator.memberFiles name with
    | error f => exact ⟨rfl, h⟩
    | ok t =>
      refine ⟨rfl, h.memory, h.directory, ?_⟩
      intro other t' ht
      rw [find_keeping]
      rw [lookup_replaced] at ht
      split at ht
      · rename_i ho
        subst ho
        cases ht
        exact hf
      · exact h.cache other t' ht

/-! ## The member templates as nodes -/

def memberSource (name : String) : String := (List.lookup name Generator.memberTemplates).getD ""

def constantNodes : List Node :=
  [.output (.name "access"), .text " const ", .output (.name "type"), .text " ", .output (.name "name"), .text " = ",
    .output (.name "value"), .text ";"]

def propertyNodes : List Node :=
  [.output (.name "access"), .text " ", .output (.name "type"), .text " ", .output (.name "name"), .text " ",
    .branch (.name "is_expression_bodied") [.text "=> ", .output (.name "expression"), .text ";"]
      [.text "\x7b get; set; \x7d"]]

def methodNodes : List Node :=
  [.output (.name "signature"), .text "(",
    .output (.filter (.name "parameters") "join" [.literal (.text ", ")]), .text ")",
    .branch (.name "base_arguments")
      [.text " : base(", .output (.filter (.name "base_arguments") "join" [.literal (.text ",")]), .text ")"] [],
    .branch (.name "is_interface") [.text ";"] []]

theorem names_differ : (propertyTemplate == constantTemplate) = false ∧ (methodTemplate == constantTemplate) = false ∧
    (methodTemplate == propertyTemplate) = false := by
  simp [constantTemplate, propertyTemplate, methodTemplate]

theorem lex_member :
    lex (memberSource constantTemplate) =
      [.printBegin, .name "access", .printEnd, .data " const ", .printBegin, .name "type", .printEnd, .data " ",
        .printBegin, .name "name", .printEnd, .data " = ", .printBegin, .name "value", .printEnd, .data ";"] ∧
    lex (memberSource propertyTemplate) =
      [.printBegin, .name "access", .printEnd, .data " ", .printBegin, .name "type", .printEnd, .data " ",
        .printBegin, .name "name", .printEnd, .data " ", .blockBegin, .name "if", .name "is_expression_bodied", .blockEnd,
        .data "=> ", .printBegin, .name "expression", .printEnd, .data ";", .blockBegin, .name "else", .blockEnd,
        .data "\x7b get; set; \x7d", .blockBegin, .name "endif", .blockEnd] ∧
    lex (memberSource methodTemplate) =
      [.printBegin, .name "signature", .printEnd, .data "(", .printBegin, .name "parameters", .mark "|", .name "join",
        .mark "(", .text ", ", .mark ")", .printEnd, .data ")", .blockBegin, .name "if", .name "base_arguments", .blockEnd,
        .data " : base(", .printBegin, .name "base_arguments", .mark "|", .name "join", .mark "(", .text ",", .mark ")",
        .printEnd, .data ")", .blockBegin, .name "endif", .blockEnd, .blockBegin, .name "if", .name "is_interface",
        .blockEnd, .data ";", .blockBegin, .name "endif", .blockEnd] := by
  obtain ⟨hp, hm, hm'⟩ := names_differ
  simp only [lex, memberSource, Generator.memberTemplates, List.lookup_cons, hp, hm, hm', beq_self_eq_true,
    Option.getD_some, String.toList_append]
  -- by rewriting: to evaluate a text is to decode it octet by octet
  repeat rw [show String.toList _ = _ from String.toList_ofList]
  decide +kernel

theorem read_constant : read (memberSource constantTemplate) = .ok constantNodes := by
  rw [read, lex_member.1]
  rfl

theorem read_property : read (memberSource propertyTemplate) = .ok propertyNodes := by
  rw [read, lex_member.2.1]
  rfl

theorem read_method : read (memberSource methodTemplate) = .ok methodNodes := by
  rw [read, lex_member.2.2]
  rfl

/-- The file of a member template, with its stamp. -/
theorem file_member {l : Library} (h : Stocked l) :
    l.file? Generator.memberFiles constantTemplate = some (.text (memberSource constantTemplate), 1) ∧
      l.file? Generator.memberFiles propertyTemplate = some (.text (memberSource propertyTemplate), 2) ∧
      l.file? Generator.memberFiles methodTemplate = some (.text (memberSource methodTemplate), 3) := by
  simp only [file?, h.directory]
  decide +kernel

/-- The member templates have no line end that reading changes. -/
theorem read_source (name : String) : Content.read (.text (memberSource name)) = .ok (memberSource name) := by
  have all : ∀ m ∈ Generator.memberTemplates, '\r' ∉ m.2.toList := by
    simp only [Generator.memberTemplates, List.forall_mem_cons, String.toList_append, List.mem_append]
    repeat rw [show String.toList _ = _ from String.toList_ofList]
    decide
  have hsource : '\r' ∉ (memberSource name).toList := by
    rw [memberSource]
    cases hl : List.lookup name Generator.memberTemplates with
    | none => simp
    | some text =>
      obtain ⟨before, after, hm, -⟩ := List.lookup_eq_some_iff.mp hl
      exact all (name, text) (by simp [hm])
  rw [Content.read, Text.unifyLineEnds_eq_self _ hsource, String.ofList_toList]

theorem find_constant {l : Library} (h : Stocked l) :
    l.find Generator.memberFiles constantTemplate = .ok ⟨.file 1, constantNodes⟩ := by
  rw [find, h.memory, (file_member h).1, List.lookup_nil]
  simp only [read_source constantTemplate, read_constant]
  rfl

theorem find_property {l : Library} (h : Stocked l) :
    l.find Generator.memberFiles propertyTemplate = .ok ⟨.file 2, propertyNodes⟩ := by
  rw [find, h.memory, (file_member h).2.1, List.lookup_nil]
  simp only [read_source propertyTemplate, read_property]
  rfl

theorem find_method {l : Library} (h : Stocked l) :
    l.find Generator.memberFiles methodTemplate = .ok ⟨.file 3, methodNodes⟩ := by
  rw [find, h.memory, (file_member h).2.2, List.lookup_nil]
  simp only [read_source methodTemplate, read_method]
  rfl

theorem escapes_member : escapes constantTemplate = false ∧ escapes propertyTemplate = false ∧
    escapes methodTemplate = false := by
  decide +kernel

/-! ## Rendering -/

/-- A value as a print tag writes it. -/
def printed (v : Json) : String := Value.printed (some v)

def constantLine (access type name value : Json) : String :=
  printed access ++ " const " ++ printed type ++ " " ++ printed name ++ " = " ++ printed value ++ ";"

def propertyLine (access type name : Json) (isExpressionBodied : Bool) (expression : Json) : String :=
  printed access ++ " " ++ printed type ++ " " ++ printed name ++ " "
    ++ if isExpressionBodied then "=> " ++ printed expression ++ ";" else "\x7b get; set; \x7d"

/-- The call of the base constructor in a header; nothing without arguments. -/
def baseCall (arguments : List Json) : String :=
  if arguments.isEmpty then "" else " : base(" ++ String.intercalate "," (arguments.map Json.shown) ++ ")"

def methodLine (signature : String) (parameters : List String) (arguments : List Json) (isInterface : Bool) : String :=
  signature ++ "(" ++ String.intercalate ", " parameters ++ ")" ++ baseCall arguments ++ if isInterface then ";" else ""

/-- Rendering from a stocked library takes the template that a fresh search finds. -/
theorem render_stocked {l : Library} (h : Stocked l) (name : String) (scope : Scope) {t : Loaded}
    (hf : l.find Generator.memberFiles name = .ok t) :
    (l.render Generator.memberFiles name scope).2 = (renderAll (escapes name) scope t.nodes).mapError .run ∧
      Stocked (l.render Generator.memberFiles name scope).1 := by
  obtain ⟨h2, h1⟩ := load_stocked h name
  rw [hf] at h2
  unfold render
  cases hl : l.load Generator.memberFiles name with
  | mk l' r =>
    rw [hl] at h1 h2
    simp only at h1 h2
    subst h2
    exact ⟨rfl, h1⟩

theorem mapError_ok {ε ε' α : Type} (f : ε → ε') (a : α) : (Except.ok a).mapError f = .ok a := rfl

theorem render_constant {l : Library} (h : Stocked l) (a t n v : Json) :
    (l.render Generator.memberFiles constantTemplate [("access", a), ("type", t), ("name", n), ("value", v)]).2 =
        .ok (constantLine a t n v) ∧
      Stocked (l.render Generator.memberFiles constantTemplate
        [("access", a), ("type", t), ("name", n), ("value", v)]).1 := by
  obtain ⟨h2, h1⟩ := render_stocked h constantTemplate [("access", a), ("type", t), ("name", n), ("value", v)]
    (find_constant h)
  refine ⟨?_, h1⟩
  rw [h2, escapes_member.1]
  simp [constantNodes, renderAll, Node.render, Expr.eval, List.lookup_cons, Except.map, mapError_ok, constantLine,
    printed, String.append_assoc]

theorem render_property {l : Library} (h : Stocked l) (a t n : Json) (b : Bool) (v : Json) :
    (l.render Generator.memberFiles propertyTemplate [("access", a), ("type", t), ("name", n),
        ("is_expression_bodied", .bool b), ("expression", v)]).2 = .ok (propertyLine a t n b v) ∧
      Stocked (l.render Generator.memberFiles propertyTemplate [("access", a), ("type", t), ("name", n),
        ("is_expression_bodied", .bool b), ("expression", v)]).1 := by
  obtain ⟨h2, h1⟩ := render_stocked h propertyTemplate [("access", a), ("type", t), ("name", n),
    ("is_expression_bodied", .bool b), ("expression", v)] (find_property h)
  refine ⟨?_, h1⟩
  rw [h2, escapes_member.2.1]
  cases b <;>
    simp [propertyNodes, renderAll, Node.render, Expr.eval, List.lookup_cons, Except.map, mapError_ok, propertyLine,
      printed, Value.truth, Json.truth, String.append_assoc]

/-- No arguments for the base constructor: none are given, or an empty list. -/
def argumentList : Option (List Json) → Json
  | some arguments => .list arguments
  | none => .null

theorem shown_pieces (ps : List Piece) : (ps.map Json.ofOption).map Json.shown = ps.map Piece.shown := by
  rw [List.map_map]
  apply List.map_congr_left
  intro p _
  cases p <;> rfl

theorem render_method {l : Library} (h : Stocked l) (s : String) (ps : List String) (as : Option (List Json)) (b : Bool) :
    (l.render Generator.memberFiles methodTemplate [("signature", .text s), ("parameters", .list (ps.map .text)),
        ("base_arguments", argumentList as), ("is_interface", .bool b)]).2 = .ok (methodLine s ps (as.getD []) b) ∧
      Stocked (l.render Generator.memberFiles methodTemplate [("signature", .text s), ("parameters", .list (ps.map .text)),
        ("base_arguments", argumentList as), ("is_interface", .bool b)]).1 := by
  obtain ⟨h2, h1⟩ := render_stocked h methodTemplate [("signature", .text s), ("parameters", .list (ps.map .text)),
    ("base_arguments", argumentList as), ("is_interface", .bool b)] (find_method h)
  refine ⟨?_, h1⟩
  rw [h2, escapes_member.2.2]
  have hp : (ps.map Json.text).map Json.shown = ps := by
    rw [List.map_map]
    exact List.map_id ps
  rcases as with _ | _ | ⟨x, xs⟩ <;> cases b <;>
    simp [methodNodes, renderAll, Node.render, Expr.eval, evalAll, applyFilter, List.lookup_cons, Except.map,
      mapError_ok, methodLine, baseCall, argumentList, Value.truth, Json.truth, Value.items, Json.items, Value.asText,
      Value.printed, Json.shown, hp, String.append_assoc]

end Typewright.Template.Library
