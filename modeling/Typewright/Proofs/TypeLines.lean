import Typewright.Proofs.Requirements

/-!
The lines of a declaration, part by part. A script is steps, and its layout is what these come to when all of them are
carried out. Here that layout is put together from the fields of the declaration, so that what is said about a text can be
said about lists of attributes, members and nested declarations instead of about steps.

A script that lacks nothing has the layout these equations give.
- `layout_type`: attributes, header and brace, then each nested declaration between two blank lines, the constants, the
  properties, the methods, and the closing brace. It holds at every depth, by induction over the nesting.
- `layout_script`: around a nested declaration nothing but a blank line before it; around any other one the head of a file
  and a block.
- `outcome_lines`, `outcome_complete`: what such a declaration is written as, under an indent of any kind and under one that
  is a text.

Each part has its own lines (`attributeLines`, `constantLines`, `propertyLines`, `methodSection`), and the blank lines
between parts are there exactly if the part has members. The depth is the same before and after a nested declaration
(`level_innerSteps`), which is why the parts do not depend on each other.
-/

namespace Typewright

def Attribute.written (a : Attribute) : String :=
  match a.arguments.getD [] with
  | [] => "[" ++ a.name.shown ++ "]"
  | arguments => "[" ++ a.name.shown ++ "(\"" ++ String.intercalate "," (arguments.map Piece.shown) ++ "\")" ++ "]"

theorem Attribute.text_written {a : Attribute} (h : a.HasTexts) : a.text = .ok a.written := by
  unfold HasTexts at h
  unfold Attribute.text Attribute.written
  cases ha : a.arguments.getD [] with
  | nil => rfl
  | cons x rest =>
    rw [ha] at h
    simp only [joinTexts, joinFrom_texts "," 0 h, Except.map]

namespace Steps

theorem layout_map {α : Type} {xs : List α} {f : α → Step} {g : α → Entry} {comment : String} {r : Nat}
    (hd : ∀ x, (f x).depth r = r) (he : ∀ x ∈ xs, (f x).entries comment r = [g x]) :
    layout comment r (xs.map f) = xs.map g := by
  induction xs with
  | nil => rfl
  | cons x rest ih =>
    rw [List.map_cons, layout, hd, he x (by simp), ih fun y hy => he y (by simp [hy])]
    rfl

theorem layout_flatMap {α : Type} {xs : List α} {f : α → List Step} (h : ∀ x ∈ xs, Level (f x)) (comment : String)
    (r : Nat) : layout comment r (xs.flatMap f) = xs.flatMap fun x => layout comment r (f x) := by
  induction xs with
  | nil => rfl
  | cons x rest ih =>
    rw [List.flatMap_cons, List.flatMap_cons, layout_append, (h x (by simp) r).2, ih fun y hy => h y (by simp [hy])]

end Steps

namespace Declaration.Script

open Steps

/-! ## Members -/

def attributeLines (r : Nat) (as : Option (List Attribute)) : List Entry := (as.getD []).map fun a => .deep r a.written

def constantLines (r : Nat) (cs : Option (List Constant)) : List Entry := (cs.getD []).map fun c => .deep r (constantText c)

def propertyLines (r : Nat) (ps : Option (List Property)) : List Entry := (ps.getD []).map fun p => .deep r (propertyText p)

def bodyLines (isInterface : Bool) (r : Nat) (m : Method) : List Entry :=
  if isInterface then []
  else .deep r "\x7b" :: (m.body.getD []).map (fun l => .deep (r + 1) l.shown) ++ [.deep r "\x7d"]

def methodLines (isInterface : Bool) (r : Nat) (m : Method) : List Entry :=
  attributeLines r m.attributes ++ .deep r (methodText isInterface m) :: bodyLines isInterface r m ++ [.blank]

def methodSection (isInterface : Bool) (r : Nat) (ms : Option (List Method)) : List Entry :=
  match ms.getD [] with
  | [] => []
  | ms => .blank :: ms.flatMap (methodLines isInterface r)

variable {comment : String} {r : Nat}

theorem layout_attributes {as : Option (List Attribute)} (h : ∀ a ∈ as.getD [], a.HasTexts) :
    layout comment r (attributes as) = attributeLines r as := by
  refine layout_map (fun _ => rfl) fun a ha => ?_
  rw [Step.entries, Attribute.text_written (h a ha)]
  rfl

theorem layout_member {template : String} {scope : Object} {text : String} (h : memberText template scope = .ok text) :
    (Step.member template scope).entries comment r = [.deep r text] := by
  rw [Step.entries, h]
  rfl

theorem layout_constants (cs : Option (List Constant)) : layout comment r (constants cs) = constantLines r cs :=
  layout_map (fun _ => rfl) fun c _ => layout_member (memberText_constant c)

theorem layout_properties (ps : Option (List Property)) : layout comment r (properties ps) = propertyLines r ps :=
  layout_map (fun _ => rfl) fun p _ => layout_member (memberText_property p)

theorem layout_body (i : Bool) (m : Method) : layout comment r (body i m) = bodyLines i r m := by
  cases i with
  | true => rfl
  | false =>
    have hl : layout comment (r + 1) ((m.body.getD []).map fun l => Step.line l.shown) =
        (m.body.getD []).map fun l => Entry.deep (r + 1) l.shown := layout_map (fun _ => rfl) fun _ _ => rfl
    have hd : depthAfter (r + 1) ((m.body.getD []).map fun l => Step.line l.shown) = r + 1 :=
      (Level.map _ (by simp) (r + 1)).2
    simp only [body, bodyLines, Bool.false_eq_true, if_false, List.cons_append, layout, Step.entries, Step.depth,
      layout_append, hl, hd, List.nil_append, List.append_nil, Nat.add_sub_cancel]

theorem layout_require (present : Bool) (field owner : String) (rest : List Step) :
    layout comment r (.require present field owner :: rest) = layout comment r rest := rfl

theorem layout_method {i : Bool} {m : Method} (h : ∀ a ∈ m.attributes.getD [], a.HasTexts) :
    layout comment r (method i m) = methodLines i r m := by
  have ha : layout comment r (attributes m.attributes ++ .member methodTemplate (methodScope i m) :: body i m) =
      attributeLines r m.attributes ++ .deep r (methodText i m) :: bodyLines i r m := by
    have hd : depthAfter r (attributes m.attributes) = r := (Level.map _ (by simp) r).2
    rw [layout_append, hd, layout_attributes h, layout, layout_member (memberText_method i m), ← layout_body i m]
    rfl
  rw [method, methodLines, layout_append, List.cons_append, List.cons_append, layout_require, layout_require, ha]
  rfl

theorem layout_methods {i : Bool} {ms : Option (List Method)}
    (h : ∀ m ∈ ms.getD [], ∀ a ∈ m.attributes.getD [], a.HasTexts) :
    layout comment r (methods i ms) = methodSection i r ms := by
  unfold methods methodSection
  cases hm : ms.getD [] with
  | nil => rfl
  | cons m rest =>
    rw [hm] at h
    have hf : layout comment r ((m :: rest).flatMap (method i)) = (m :: rest).flatMap (methodLines i r) := by
      rw [layout_flatMap fun m _ => level_method i m]
      exact List.flatMap_congr fun m hm => layout_method (h m hm)
    exact congrArg (Entry.blank :: ·) hf

/-! ## Types -/

def linesAround (r : Nat) (d : Declaration) (inner : List Entry) : List Entry :=
  attributeLines r d.attributes ++ .deep r (headline d) :: .deep r "\x7b" :: inner ++ constantLines (r + 1) d.constants
    ++ propertyLines (r + 1) d.properties ++ methodSection d.isInterface (r + 1) d.methods ++ [.deep r "\x7d"]

def typeLines (r : Nat) (d : Declaration) : List Entry := layout "" r (type d)

theorem level_nested (d : Declaration) : Level (nested d) :=
  (level_requirements d).append (Level.cons (by simp) (by simp) (level_type d))

theorem level_innerSteps (d : Declaration) : Level (innerSteps d) := by
  refine Level.append ?_ (Level.cons (by simp) (by simp) Level.nil)
  exact Level.cons (by simp) (by simp) (level_nested d)

theorem layout_nested (d : Declaration) : layout comment r (nested d) = .blank :: layout comment r (type d) := rfl

theorem layout_innerSteps (d : Declaration) :
    layout comment r (innerSteps d) = .blank :: layout comment r (type d) ++ [.blank] := by
  rw [innerSteps, layout_append]
  rfl

theorem layout_typeAround {d : Declaration} (h : ∀ a ∈ d.allAttributes, a.HasTexts) {inner : List Step} (hi : Level inner) :
    layout comment r (typeAround d inner) = linesAround r d (layout comment (r + 1) inner) := by
  have ha : layout comment r (attributes d.attributes) = attributeLines r d.attributes :=
    layout_attributes fun a ha => h a (by simp [allAttributes, ha])
  have hm : layout comment (r + 1) (methods d.isInterface d.methods) = methodSection d.isInterface (r + 1) d.methods :=
    layout_methods fun m hm a ha => h a (List.mem_append_right _ (List.mem_flatMap.mpr ⟨m, hm, ha⟩))
  have da : depthAfter r (attributes d.attributes) = r := (Level.map _ (by simp) r).2
  have dc : depthAfter (r + 1) (constants d.constants) = r + 1 := (Level.map _ (by simp) (r + 1)).2
  have dp : depthAfter (r + 1) (properties d.properties) = r + 1 := (Level.map _ (by simp) (r + 1)).2
  have dm : depthAfter (r + 1) (methods d.isInterface d.methods) = r + 1 := (level_methods _ _ (r + 1)).2
  simp only [typeAround, linesAround, List.cons_append, List.append_assoc, layout, layout_append, Step.entries, Step.depth,
    da, (hi (r + 1)).2, dc, dp, dm, ha, hm, layout_constants, layout_properties, List.nil_append, Nat.add_sub_cancel]

/-- The lines do not depend on the comment at the head of a file. -/
theorem layout_type {d : Declaration} (h : d.TextArguments) : layout comment r (type d) = typeLines r d := by
  induction d using nested_induction generalizing r with
  | h d ih =>
    obtain ⟨hd, hn⟩ := everywhere_iff.mp h
    have hl : Level (d.nestedIn.flatMap innerSteps) := Level.flatMap fun c _ => level_innerSteps c
    rw [typeLines, type_eq, layout_typeAround hd hl, layout_typeAround hd hl]
    congr 1
    rw [layout_flatMap fun c _ => level_innerSteps c, layout_flatMap fun c _ => level_innerSteps c]
    refine List.flatMap_congr fun c hc => ?_
    rw [layout_innerSteps, layout_innerSteps, ih c hc (hn c hc)]
    rfl

theorem typeLines_eq {d : Declaration} (h : d.TextArguments) (r : Nat) :
    typeLines r d = linesAround r d (d.nestedIn.flatMap fun c => .blank :: typeLines (r + 1) c ++ [.blank]) := by
  obtain ⟨hd, hn⟩ := everywhere_iff.mp h
  have hl : Level (d.nestedIn.flatMap innerSteps) := Level.flatMap fun c _ => level_innerSteps c
  rw [typeLines, type_eq, layout_typeAround hd hl, layout_flatMap fun c _ => level_innerSteps c]
  congr 1
  exact List.flatMap_congr fun c _ => layout_innerSteps c

/-! ## Files -/

def headLines (comment : String) (d : Declaration) : List Entry :=
  .flush comment :: .blank
    :: (match d.imports.getD [] with
      | [] => []
      | imports => imports.map (fun i => .flush ("using " ++ i.shown ++ ";")) ++ [.blank])
    ++ [.flush ("namespace " ++ d.namespace.shown)]

theorem layout_fileHeader (d : Declaration) : layout comment r (fileHeader d) = headLines comment d := by
  unfold fileHeader headLines
  cases d.imports.getD [] with
  | nil => rfl
  | cons i rest =>
    have hl : layout comment r ((i :: rest).map fun i => Step.header ("using " ++ i.shown ++ ";")) =
        (i :: rest).map fun i => Entry.flush ("using " ++ i.shown ++ ";") := layout_map (fun _ => rfl) fun _ _ => rfl
    simp only [List.cons_append, layout, layout_append, hl, Step.entries, Step.depth, List.nil_append]

/-- The lines of a declaration in a file of its own, or inside something else. -/
def scriptLines (comment : String) (d : Declaration) : List Entry :=
  if d.isNested then .blank :: typeLines 0 d
  else headLines comment d ++ .deep 0 "\x7b" :: typeLines 1 d ++ [.deep 0 "\x7d"]

theorem layout_script {d : Declaration} (h : d.TextArguments) : layout comment 0 d.script = scriptLines comment d := by
  unfold Declaration.script scriptLines
  split
  · rw [layout_nested, layout_type h]
  · have hd : depthAfter 0 (requirements d ++ fileHeader d) = 0 :=
      ((level_requirements d).append (level_fileHeader d) 0).2
    have ht : depthAfter 0 (requirements d ++ fileHeader d ++ .openBlock :: type d) = 1 := by
      rw [depthAfter_append, hd]
      exact (level_type d 1).2
    have hr : layout comment 0 (requirements d) = [] := rfl
    simp only [freestanding, layout_append, hd, ht, hr, List.nil_append, layout_fileHeader, layout, List.cons_append,
      Step.entries, Step.depth, layout_type h]

end Declaration.Script

namespace Declaration

/-- A declaration that lacks nothing is written, with these lines. -/
theorem outcome_lines {d : Declaration} (ht : d.TextArguments) (hc : d.Everywhere fun c => ¬ c.Incomplete) (k : Nat)
    {s : Settings} {i : Int → String} (hi : s.indent.Repeats i) :
    (d.render k s).outcome = .ok (layoutTextBy i s.lineEnding.shown k (Script.scriptLines s.comment.shown d)) := by
  rw [outcome_repeats d k hi, Steps.fault_eq_head, faults_script d ht, (lacks_eq_nil d).mpr hc, Script.layout_script ht]
  rfl

theorem outcome_complete {d : Declaration} (ht : d.TextArguments) (hc : d.Everywhere fun c => ¬ c.Incomplete)
    (k : Nat) (s : Settings) (u : String) (hu : s.indent = .text u) :
    (d.render k s).outcome = .ok (layoutText u s.lineEnding.shown k (Script.scriptLines s.comment.shown d)) := by
  have hi : s.indent.Repeats (Json.repeatText u) := hu ▸ Json.repeats_text u
  rw [outcome_lines ht hc k hi, layoutTextBy_text]

end Declaration

end Typewright
