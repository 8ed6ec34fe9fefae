import Typewright.Proofs.Declared
import Typewright.Proofs.SpelledFile
import Typewright.Proofs.TypeLines

/-!
The text of what extraction makes of a type.

Extraction fills in every collection that writing asks for: keywords, attributes and imports of the class, keywords,
parameters and body of every method. So a declaration that was extracted is always written (`declared_complete`,
`declared_texts`), and its lines can be told from the type as it stood in the source, without the declaration between them
(`TypeNode.lines`):
- the comment, the imports and the namespace, when it has one of its own;
- the attributes, and a header that says `class`, whatever the kind of the type was (`headerText`);
- one line for each property, in order;
- after a blank line one method for each method, in order: its attributes, its signature and an empty block.

Members are mixed in a source and sorted in the text; those that are neither a method nor a property have no line.

Quotes are taken from the arguments of attributes before they are joined, and the joined text is quoted once. So those that
are left in a line are the two around the arguments, unless the name of the attribute has some (`quotes_bareText`).

Proved: `extracted_is_written`, for every type that fits and stands in a namespace, at every depth and under all settings of
texts; `gauge_is_written` is a case with mixed members and quotes inside an argument.
-/

namespace Typewright

open Syntax Declaration Declaration.Script Template.Library

/-! ## Attributes -/

namespace Attribute

def bareText (a : Attribute) : String :=
  match a.arguments.getD [] with
  | [] => "[" ++ a.name.shown ++ "]"
  | arguments =>
    "[" ++ a.name.shown ++ "(\"" ++ String.intercalate "," (arguments.map fun x => Text.stripQuotes x.shown) ++ "\")]"

theorem written_unquoted {a : Attribute} (h : a.HasTexts) : a.unquoted.written = a.bareText := by
  obtain ⟨name, arguments⟩ := a
  cases arguments with
  | none => rfl
  | some xs =>
    cases xs with
    | nil => rfl
    | cons x xs =>
      have hshown : ((x :: xs).map fun x => x.map Text.stripQuotes).map Piece.shown =
          (x :: xs).map fun x => Text.stripQuotes x.shown := by
        rw [List.map_map]
        refine List.map_congr_left fun y hy => ?_
        obtain ⟨s, rfl⟩ := Option.ne_none_iff_exists'.mp (h y hy)
        rfl
      unfold written bareText unquoted
      simp only [Option.map_some, Option.getD_some, List.map_cons] at hshown ⊢
      rw [hshown, String.append_assoc]
      rfl

theorem count_joined_stripped (arguments : List Piece) :
    (String.intercalate "," (arguments.map fun x => Text.stripQuotes x.shown)).toList.count '"' = 0 := by
  have hsep : "," = String.singleton ',' := rfl
  rw [List.count_eq_zero, hsep, intercalate_chars]
  intro h
  rcases mem_joined h with h | ⟨w, hw, h⟩
  · cases h
  · obtain ⟨x, -, rfl⟩ := List.mem_map.mp hw
    exact Text.stripQuotes_no_quote _ h

/-- Whatever quotes the arguments hold, the text has none, or the two around them. -/
theorem quotes_bareText {a : Attribute} (h : '"' ∉ a.name.shown.toList) :
    a.bareText.toList.count '"' = if a.arguments.getD [] = [] then 0 else 2 := by
  have hname := List.count_eq_zero.mpr h
  unfold bareText
  cases ha : a.arguments.getD [] with
  | nil =>
    simp only [String.toList_append, List.count_append, hname, if_true]
    decide
  | cons x xs =>
    simp only [String.toList_append, List.count_append, hname, count_joined_stripped, reduceCtorEq, if_false]
    decide

end Attribute

/-! ## Members -/

theorem spaced_cons (p q : Piece) (ps : List Piece) : spaced (p :: q :: ps) = p.shown ++ " " ++ spaced (q :: ps) := by
  rw [spaced, spaced, List.map_cons, List.map_cons, String.intercalate_cons_cons]

theorem spaced_singleton (p : Piece) : spaced [p] = p.shown := by rw [spaced, List.map_singleton, String.intercalate_singleton]

namespace Syntax

def AttributeLists.lines (r : Nat) (lists : AttributeLists) : List Entry :=
  (lists.getD []).flatten.map fun a => .deep r a.bareText

theorem AttributeLists.lines_unquoted {lists : AttributeLists} (h : lists.HaveTexts) (r : Nat) :
    attributeLines r (some lists.unquoted) = lists.lines r := by
  rw [attributeLines, Option.getD_some, AttributeLists.unquoted, List.map_map]
  exact List.map_congr_left fun a ha => congrArg (Entry.deep r) (Attribute.written_unquoted (h a ha))

namespace Node

def propertyLines : Node → List Entry
  | .propertyNode identifier type (some "property") =>
    [.deep 2 ("public " ++ type.getD "" ++ " " ++ identifier.getD "" ++ " \x7b get; set; \x7d")]
  | _ => []

def methodLines : Node → List Entry
  | .methodNode identifier returnType ps lists (some "method") =>
    lists.lines 2 ++
      [.deep 2
          ("public " ++ returnType.shown ++ (if (identifier.getD "").isEmpty then "" else " " ++ identifier.shown) ++ "("
            ++ String.intercalate ", " ((ps.getD []).map fun p => p.type.shown ++ " " ++ p.identifier.shown) ++ ")"),
        .deep 2 "\x7b", .deep 2 "\x7d", .blank]
  | _ => []

def attributes : Node → List Attribute
  | .methodNode _ _ _ lists (some "method") => (lists.getD []).flatten
  | _ => []

theorem Fits.attributes {n : Node} (h : n.Fits) : ∀ a ∈ n.attributes, a.HasTexts := by
  cases h with
  | method identifier returnType ps hl => exact hl
  | property identifier type => simp [Node.attributes]
  | other hk hm hp =>
    unfold Node.attributes
    split
    · cases hk
      exact absurd rfl hm
    · simp

theorem method?_some {n : Node} {m : Method} (h : n.method? = some m) :
    ¬ m.Incomplete false ∧ m.attributes.getD [] = n.attributes.map Attribute.unquoted := by
  unfold method? at h
  split at h
  · cases h
    exact ⟨by simp [Method.Incomplete], rfl⟩
  · cases h

theorem propertyLines_eq (n : Node) : n.propertyLines = n.property?.toList.map fun p => .deep 2 (propertyText p) := by
  have hprinted : ∀ x : Piece, printed (.ofOption x) = x.getD "" := fun x => by cases x <;> rfl
  unfold propertyLines
  split
  · simp only [property?, Option.toList_some, List.map_cons, List.map_nil, propertyText, propertyLine, hprinted,
      Bool.false_eq_true,
      if_false, String.append_assoc]
    rfl
  · rename_i hother
    have hnone : n.property? = none := by
      unfold property?
      split
      · exact absurd rfl (hother _ _)
      · rfl
    rw [hnone]
    rfl

theorem methodText_eq (identifier returnType : Piece) (ps : List Syntax.Parameter) (as : List Attribute) :
    methodText false
        { name := identifier, returnType, keywords := some [some "public"],
          parameters := some (ps.map fun p => { name := p.identifier, type := p.type }), body := some [],
          attributes := some as } =
      "public " ++ returnType.shown ++ (if (identifier.getD "").isEmpty then "" else " " ++ identifier.shown) ++ "("
        ++ String.intercalate ", " (ps.map fun p => p.type.shown ++ " " ++ p.identifier.shown) ++ ")" := by
  have hps : (ps.map fun p => { name := p.identifier, type := p.type : Typewright.Parameter }).map parameterText =
      ps.map fun p => p.type.shown ++ " " ++ p.identifier.shown := by
    rw [List.map_map]
    refine List.map_congr_left fun p _ => ?_
    simp [parameterText]
  have hcall : baseCall [] = "" := rfl
  have hpublic : Piece.shown (some "public") ++ " " = "public " := by decide +kernel
  unfold methodText methodLine signature Method.isConstructor
  simp only [Option.getD_some, Option.getD_none, List.map_nil, hps, hcall, List.singleton_append, spaced_cons, hpublic,
    Bool.false_eq_true, if_false, String.append_empty]
  split
  · rw [spaced_singleton, String.append_empty]
  · simp only [spaced_cons, spaced_singleton, String.append_assoc]

theorem methodLines_eq {n : Node} (h : ∀ a ∈ n.attributes, a.HasTexts) :
    n.methodLines = n.method?.toList.flatMap (Script.methodLines false 2) := by
  unfold methodLines
  split
  · simp only [method?, Option.toList_some, List.flatMap_cons, List.flatMap_nil, List.append_nil]
    rw [Script.methodLines, methodText_eq, AttributeLists.lines_unquoted h, List.append_assoc]
    rfl
  · rename_i hother
    have hnone : n.method? = none := by
      unfold method?
      split
      · exact absurd rfl (hother _ _ _ _)
      · rfl
    rw [hnone]
    rfl

end Node

/-! ## Types -/

namespace TypeNode

/-- The header of what a type becomes: a class, whatever its kind. -/
def headerText (t : TypeNode) : String :=
  "public class " ++ t.identifier.shown
    ++ match t.baseList with
      | none => ""
      | some bases => " : " ++ String.intercalate "," (bases.map Piece.shown)

def openingLines (comment : String) (imports : List Piece) (scope : Piece) (t : TypeNode) : List Entry :=
  .flush comment :: .blank :: (imports ++ [scope]).map (fun i => .flush ("using " ++ i.shown ++ ";"))
    ++ [.blank, .flush "namespace ", .deep 0 "\x7b"] ++ t.attributeLists.lines 1 ++ [.deep 1 t.headerText, .deep 1 "\x7b"]

def methodSection (t : TypeNode) : List Entry :=
  match (t.members.getD []).flatMap Node.methodLines with
  | [] => []
  | lines => .blank :: lines

/-- The lines of what a type in a namespace becomes: the properties first, then the methods. -/
def lines (comment : String) (imports : List Piece) (scope : Piece) (t : TypeNode) : List Entry :=
  t.openingLines comment imports scope ++ (t.members.getD []).flatMap Node.propertyLines ++ t.methodSection
    ++ [.deep 1 "\x7d", .deep 0 "\x7d"]

def allAttributes (t : TypeNode) : List Attribute :=
  (t.attributeLists.getD []).flatten ++ (t.members.getD []).flatMap Node.attributes

variable {t : TypeNode}

theorem Fits.membersFit (h : t.Fits) : ∀ n ∈ t.members.getD [], n.Fits := by
  obtain ⟨ms, hms, hfit⟩ := h.members
  rw [hms]
  exact hfit

theorem headline_declared (imports : List Piece) (scope : Piece) : headline (t.declared imports scope) = t.headerText := by
  have hwords : Piece.shown (some "public") ++ " " ++ (Piece.shown (some "class") ++ " ") = "public class " := by decide +kernel
  have hcolon : " " ++ (Piece.shown (some ":") ++ " ") = " : " := by decide +kernel
  unfold headline headerText declared kindWord
  cases t.baseList with
  | none =>
    simp only [Option.getD_some, List.singleton_append, Option.map_none, Bool.false_eq_true, if_false, spaced_cons,
      spaced_singleton, ← hwords, String.append_assoc, String.append_empty]
  | some bases =>
    simp only [Option.getD_some, List.singleton_append, Option.map_some, Bool.false_eq_true, if_false, spaced_cons,
      spaced_singleton, ← hwords, ← hcolon, String.append_assoc]
    rfl

theorem propertyLines_declared (imports : List Piece) (scope : Piece) :
    propertyLines 2 (t.declared imports scope).properties = (t.members.getD []).flatMap Node.propertyLines := by
  rw [declared, propertyLines, Option.getD_some, List.filterMap_eq_flatMap_toList, List.map_flatMap]
  exact List.flatMap_congr fun n _ => (Node.propertyLines_eq n).symm

theorem methodSection_declared (h : t.Fits) (imports : List Piece) (scope : Piece) :
    Script.methodSection false 2 (t.declared imports scope).methods = t.methodSection := by
  have hlines : (t.members.getD []).flatMap Node.methodLines =
      ((t.members.getD []).filterMap Node.method?).flatMap (Script.methodLines false 2) := by
    rw [List.filterMap_eq_flatMap_toList, List.flatMap_assoc]
    exact List.flatMap_congr fun n hn => Node.methodLines_eq (h.membersFit n hn).attributes
  rw [methodSection, hlines, declared, Script.methodSection, Option.getD_some]
  cases (t.members.getD []).filterMap Node.method? with
  | nil => rfl
  | cons m ms =>
    have hne : (m :: ms).flatMap (Script.methodLines false 2) ≠ [] := by simp [Script.methodLines]
    show .blank :: (m :: ms).flatMap (Script.methodLines false 2) = _
    cases hl : (m :: ms).flatMap (Script.methodLines false 2) with
    | nil => exact absurd hl hne
    | cons l ls => rfl

theorem declared_complete (imports : List Piece) (scope : Piece) :
    (t.declared imports scope).Everywhere fun d => ¬ d.Incomplete := by
  refine everywhere_iff.mpr ⟨?_, by simp [declared, nestedIn]⟩
  rintro (h | h | h | ⟨m, hm, h⟩)
  · cases h
  · cases h
  · cases h
  · obtain ⟨n, -, hn⟩ := List.mem_filterMap.mp hm
    exact (Node.method?_some hn).1 h

theorem declared_texts (h : t.Fits) (imports : List Piece) (scope : Piece) : (t.declared imports scope).TextArguments := by
  refine everywhere_iff.mpr ⟨fun a ha => ?_, by simp [declared, nestedIn]⟩
  rcases List.mem_append.mp ha with ha | ha
  · exact h.attributes.unquoted a ha
  · obtain ⟨m, hm, ha⟩ := List.mem_flatMap.mp ha
    obtain ⟨n, hn, hnm⟩ := List.mem_filterMap.mp hm
    rw [(Node.method?_some hnm).2] at ha
    obtain ⟨b, hb, rfl⟩ := List.mem_map.mp ha
    exact ((h.membersFit n hn).attributes b hb).unquoted

theorem scriptLines_declared (h : t.Fits) (comment : String) (imports : List Piece) (scope : Piece) :
    scriptLines comment (t.declared imports scope) = t.lines comment imports scope := by
  have hnested : (t.declared imports scope).nestedIn = [] := rfl
  have hattributes : attributeLines 1 (t.declared imports scope).attributes = t.attributeLists.lines 1 :=
    AttributeLists.lines_unquoted h.attributes 1
  have hconstants : constantLines 2 (t.declared imports scope).constants = [] := rfl
  have hhead : headLines comment (t.declared imports scope) =
      .flush comment :: .blank :: (imports ++ [scope]).map (fun i => .flush ("using " ++ i.shown ++ ";"))
        ++ [.blank, .flush "namespace "] := by
    have hname : "namespace " ++ Piece.shown (some "") = "namespace " := String.append_empty
    rw [headLines, declared, hname, Option.getD_some]
    cases imports with
    | nil => rfl
    | cons i imports => simp only [List.cons_append, List.append_assoc, List.nil_append]
  rw [scriptLines, if_neg (by simp [declared]), typeLines_eq (declared_texts h imports scope), hnested,
    List.flatMap_nil, linesAround,
    hattributes, hconstants, headline_declared, propertyLines_declared, hhead]
  simp only [lines, openingLines, ← methodSection_declared h imports scope, List.append_assoc, List.cons_append, List.nil_append,
    List.append_nil]
  rfl

/-- A type that stands in a namespace is extracted, and what it becomes is written: a class with these lines. No quotes are left
in the line of an attribute but the two around its arguments. -/
theorem extracted_is_written (h : t.Fits) {scope : Piece} (hp : t.parent = some (.scope scope (some "namespace")))
    (imports : List Piece) (k : Nat) {s : Settings} {indent ending comment : String} (hi : s.indent = .text indent)
    (he : s.lineEnding = .text ending) (hc : s.comment = .text comment) :
    ∃ d, (t.extract imports).outcome = .ok d ∧
      (d.render k s).outcome = .ok (layoutText indent ending k (t.lines comment imports scope)) ∧
      ∀ a ∈ t.allAttributes, '"' ∉ a.name.shown.toList →
        a.bareText.toList.count '"' = if a.arguments.getD [] = [] then 0 else 2 := by
  have hn : t.namespace? = some scope := by rw [namespace?, hp]; rfl
  refine ⟨t.declared imports scope, ?_, ?_, fun a _ ha => Attribute.quotes_bareText ha⟩
  · rw [extract_outcome h, hn]
  · rw [outcome_complete (declared_texts h imports scope) (declared_complete imports scope) k s indent hi, he, hc,
      scriptLines_declared h]
    rfl

def gauge : TypeNode where
  identifier := some "IGauge"
  kind := some "interface"
  attributeLists := some [[{ name := some "Unit", arguments := some [some "\"bar\"", some "\"b\"a"] }], [{ name := some "Old" }]]
  baseList := some [some "IPart"]
  members := some
    [.methodNode (some "Read") (some "int") (some [⟨some "at", some "long"⟩])
    (some [[{ name := some "Hot", arguments := some [] }]])
        (some "method"),
      .propertyNode (some "Limit") (some "int") (some "property"), .member (some "Scale") (some "other")]
  parent := some (.scope (some "Plant") (some "namespace"))

theorem gauge_fits : gauge.Fits where
  bases := by simp [gauge]
  attributes := by simp [gauge, AttributeLists.HaveTexts, Attribute.HasTexts]
  members := by
    refine ⟨_, rfl, ?_⟩
    simp only [List.forall_mem_cons, List.not_mem_nil, false_implies, implies_true, and_true]
    exact ⟨.method _ _ _ (by simp [AttributeLists.HaveTexts, Attribute.HasTexts]), .property _ _,
      .other rfl (by simp) (by simp)⟩

/-- The property comes before the method, and of four quotes two are left. -/
theorem gauge_is_written :
    gauge.Fits ∧ gauge.parent = some (.scope (some "Plant") (some "namespace")) ∧
      ∃ d, (gauge.extract [some "System"]).outcome = .ok d ∧
        (d.render (1 : Nat) {}).outcome = .ok (String.join
          ["// Auto-generated code\n\nusing System;\nusing Plant;\n\nnamespace \n\t\x7b\n", "\t\t[Unit(\"bar,ba\")]\n\t\t[Old]\n",
            "\t\tpublic class IGauge : IPart\n\t\t\x7b\n", "\t\t\tpublic int Limit \x7b get; set; \x7d\n", "\n\t\t\t[Hot]\n",
            "\t\t\tpublic int Read(long at)\n\t\t\t\x7b\n\t\t\t\x7d\n\n", "\t\t\x7d\n\t\x7d\n"]) := by
  have hparent : gauge.parent = some (.scope (some "Plant") (some "namespace")) := rfl
  obtain ⟨d, hextract, hrender, -⟩ := extracted_is_written gauge_fits hparent [some "System"] 1 (s := {}) rfl rfl rfl
  refine ⟨gauge_fits, hparent, d, hextract, hrender.trans (congrArg Except.ok ?_)⟩
  decide +kernel

end TypeNode

end Syntax

end Typewright
