import Mathlib.Data.List.Basic
import Typewright.Proofs.Visibility

/-!
Writing fails exactly on a required collection that is missing.

`lacks` lists those of a declaration in the order in which they are met: its own imports, keywords and attributes, then all
of the nested declarations one after the other, then the methods, each by keywords, parameters and body. A method in an
interface needs no body. The faults of the script are these, one for one (`Declaration.faults_script`), by the recursion of
the script; so the first of them is the one reported, and there is none if the list is empty.

What is incomplete is said without the order as well (`Declaration.Incomplete`): a declaration lacks imports, keywords or
attributes, or has a method that lacks something. A declaration has lacks exactly if it or one within it is incomplete
(`lacks_ne_nil`).

A collection that is not required may as well be empty: `filled` puts empty ones in place of all that are missing, at every
level, and nothing changes (`filled_outcome`).

Other faults are kept apart. An argument of an attribute that is no text cannot be joined, so it is assumed that there are
none (`TextArguments`); and an indent that cannot be repeated is another matter, so it is assumed to be a text.

Proved: `refused_iff_incomplete`. Writing is refused for something missing exactly when a declaration within is incomplete,
there is a text exactly when none is, and the message names the first lack. `nested_lack_comes_first` is a declaration with
two lacks at different levels.
-/

namespace Typewright

open Template Template.Library

/-! ## What is missing -/

/-- A required collection that is missing: its field and how messages name its owner. -/
structure Lack where
  field : String
  owner : String
  deriving DecidableEq

def Lack.fault (l : Lack) : WriteFault := .missing l.field l.owner

def lackOf {α : Type} (c : Option α) (field owner : String) : List Lack := if c.isSome then [] else [⟨field, owner⟩]

theorem lackOf_eq_nil {α : Type} {c : Option α} {field owner : String} : lackOf c field owner = [] ↔ c ≠ none := by
  cases c <;> simp [lackOf]

/-- What a method lacks; a method of an interface needs no body. -/
def Method.lacks (isInterface : Bool) (m : Method) : List Lack :=
  lackOf m.keywords "keywords" m.label ++ lackOf m.parameters "parameters" m.label
    ++ if isInterface then [] else lackOf m.body "body" m.label

namespace Declaration

def ownLacks (d : Declaration) : List Lack :=
  lackOf d.imports "imports" d.name.shown ++ lackOf d.keywords "keywords" d.name.shown
    ++ lackOf d.attributes "attributes" d.name.shown

def methodLacks (d : Declaration) : List Lack := (d.methods.getD []).flatMap (Method.lacks d.isInterface)

mutual

/-- All that a declaration lacks, in the order in which it is met. -/
def lacks : Declaration → List Lack
  | ⟨name, «namespace», imports, keywords, attributes, implementations, properties, constants, methods, innerClasses,
      isInterface, isNested⟩ =>
    let d : Declaration := ⟨name, «namespace», imports, keywords, attributes, implementations, properties, constants,
      methods, innerClasses, isInterface, isNested⟩
    d.ownLacks ++ lacksOption innerClasses ++ d.methodLacks

def lacksOption : Option (List Declaration) → List Lack
  | none => []
  | some ds => lacksAll ds

def lacksAll : List Declaration → List Lack
  | [] => []
  | d :: rest => lacks d ++ lacksAll rest

end

theorem lacksAll_eq (ds : List Declaration) : lacksAll ds = ds.flatMap lacks := by
  induction ds with
  | nil => simp [lacksAll]
  | cons d rest ih => simp [lacksAll, ih]

theorem lacks_eq (d : Declaration) : d.lacks = d.ownLacks ++ d.nestedIn.flatMap lacks ++ d.methodLacks := by
  obtain ⟨_, _, _, _, _, _, _, _, _, innerClasses, _, _⟩ := d
  cases innerClasses with
  | none => simp [lacks, lacksOption, nestedIn]
  | some ds => simp [lacks, lacksOption, lacksAll_eq, nestedIn]

end Declaration

/-! ## Which declarations lack something -/

def Method.Incomplete (isInterface : Bool) (m : Method) : Prop :=
  m.keywords = none ∨ m.parameters = none ∨ isInterface = false ∧ m.body = none

def Declaration.Incomplete (d : Declaration) : Prop :=
  d.imports = none ∨ d.keywords = none ∨ d.attributes = none ∨ ∃ m ∈ d.methods.getD [], m.Incomplete d.isInterface

theorem Method.lacks_eq_nil {i : Bool} {m : Method} : m.lacks i = [] ↔ ¬ m.Incomplete i := by
  cases i <;> simp [Method.lacks, Method.Incomplete, lackOf_eq_nil]

namespace Declaration

theorem ownLacks_methodLacks_eq_nil {d : Declaration} : d.ownLacks = [] ∧ d.methodLacks = [] ↔ ¬ d.Incomplete := by
  simp only [ownLacks, methodLacks, List.append_eq_nil_iff, lackOf_eq_nil, List.flatMap_eq_nil_iff, Method.lacks_eq_nil,
    Incomplete, not_or, not_exists, not_and, ne_eq, and_assoc]

theorem lacks_eq_nil (d : Declaration) : d.lacks = [] ↔ d.Everywhere fun c => ¬ c.Incomplete := by
  induction d using nested_induction with
  | h d ih =>
    rw [lacks_eq, everywhere_iff, ← ownLacks_methodLacks_eq_nil]
    simp only [List.append_eq_nil_iff, List.flatMap_eq_nil_iff]
    constructor
    · rintro ⟨⟨ho, hn⟩, hm⟩
      exact ⟨⟨ho, hm⟩, fun c hc => (ih c hc).mp (hn c hc)⟩
    · rintro ⟨⟨ho, hm⟩, hn⟩
      exact ⟨⟨ho, fun c hc => (ih c hc).mpr (hn c hc)⟩, hm⟩

end Declaration

/-! ## The faults of a script -/

def Attribute.HasTexts (a : Attribute) : Prop := ∀ x ∈ a.arguments.getD [], x ≠ none

def Declaration.allAttributes (d : Declaration) : List Attribute :=
  d.attributes.getD [] ++ (d.methods.getD []).flatMap fun m => m.attributes.getD []

def Declaration.TextArguments (d : Declaration) : Prop := d.Everywhere fun c => ∀ a ∈ c.allAttributes, a.HasTexts

theorem joinFrom_texts (separator : String) (i : Nat) {xs : List Piece} (h : ∀ x ∈ xs, x ≠ none) :
    joinFrom separator i xs = .ok (xs.map Piece.shown) := by
  induction xs generalizing i with
  | nil => rfl
  | cons x rest ih =>
    cases x with
    | none => exact absurd rfl (h none (by simp))
    | some s =>
      rw [joinFrom, ih (i + 1) fun y hy => h y (by simp [hy])]
      rfl

theorem Attribute.text_ok {a : Attribute} (h : a.HasTexts) : ∃ s, a.text = .ok s := by
  unfold Attribute.text
  split
  · exact ⟨_, rfl⟩
  · rw [joinTexts, joinFrom_texts "," 0 h]
    exact ⟨_, rfl⟩

namespace Steps

def faults (steps : List Step) : List WriteFault := steps.filterMap Step.fault?

theorem fault_eq_head (steps : List Step) : fault? steps = (faults steps).head? := by
  rw [fault?, faults, List.head?_filterMap]

@[simp] theorem faults_append (a b : List Step) : faults (a ++ b) = faults a ++ faults b := List.filterMap_append

@[simp] theorem faults_cons (s : Step) (rest : List Step) : faults (s :: rest) = s.fault?.toList ++ faults rest := by
  simp only [faults, List.filterMap_cons]
  cases s.fault? <;> rfl

@[simp] theorem faults_nil : faults [] = [] := rfl

theorem faults_flatMap {α : Type} (xs : List α) (f : α → List Step) :
    faults (xs.flatMap f) = xs.flatMap fun x => faults (f x) := by
  induction xs with
  | nil => rfl
  | cons x rest ih => simp [ih]

theorem faults_map_none {α : Type} {xs : List α} {f : α → Step} (h : ∀ x ∈ xs, (f x).fault? = none) :
    faults (xs.map f) = [] := by
  induction xs with
  | nil => rfl
  | cons x rest ih => simp [h x (by simp), ih fun y hy => h y (by simp [hy])]

theorem fault_blank : Step.blank.fault? = none := rfl

theorem fault_note (r : Log.Record) : (Step.note r).fault? = none := rfl

theorem fault_line (text : String) : (Step.line text).fault? = none := rfl

theorem fault_brace : Step.openBlock.fault? = none ∧ Step.closeBlock.fault? = none := ⟨rfl, rfl⟩

theorem fault_require {α : Type} (c : Option α) (field owner : String) :
    (Step.require c.isSome field owner).fault?.toList = (lackOf c field owner).map Lack.fault := by
  cases c <;> rfl

end Steps

namespace Declaration.Script

open Steps

theorem faults_attributes {as : Option (List Attribute)} (h : ∀ a ∈ as.getD [], a.HasTexts) :
    faults (attributes as) = [] := by
  apply faults_map_none
  intro a ha
  obtain ⟨s, hs⟩ := Attribute.text_ok (h a ha)
  simp [Step.fault?, hs]

theorem fault_member {template : String} {scope : Object} {text : String} (h : memberText template scope = .ok text) :
    (Step.member template scope).fault? = none := by
  rw [Step.fault?, h]

theorem faults_body (i : Bool) (m : Method) :
    faults (body i m) = (if i then [] else lackOf m.body "body" m.label).map Lack.fault := by
  cases i with
  | true => rfl
  | false =>
    have hl : faults ((m.body.getD []).map fun l => Step.line l.shown) = [] := faults_map_none fun _ _ => rfl
    simp [body, fault_require, hl, fault_brace]

theorem faults_method {i : Bool} {m : Method} (h : ∀ a ∈ m.attributes.getD [], a.HasTexts) :
    faults (method i m) = (m.lacks i).map Lack.fault := by
  simp [method, Method.lacks, fault_require, faults_attributes h, faults_body, fault_member (memberText_method i m),
    fault_blank]

theorem faults_methods {i : Bool} {ms : Option (List Method)}
    (h : ∀ m ∈ ms.getD [], ∀ a ∈ m.attributes.getD [], a.HasTexts) :
    faults (methods i ms) = ((ms.getD []).flatMap (Method.lacks i)).map Lack.fault := by
  have hf : faults ((ms.getD []).flatMap (method i)) = ((ms.getD []).flatMap (Method.lacks i)).map Lack.fault := by
    rw [faults_flatMap, List.map_flatMap]
    exact List.flatMap_congr fun m hm => faults_method (h m hm)
  unfold methods
  split
  · rename_i e
    simp [e]
  · simpa [fault_blank] using hf

theorem faults_requirements (d : Declaration) : faults (requirements d) = d.ownLacks.map Lack.fault := by
  simp [requirements, fault_require, ownLacks]

theorem faults_typeAround {d : Declaration} (h : ∀ a ∈ d.allAttributes, a.HasTexts) (inner : List Step) :
    faults (typeAround d inner) = faults inner ++ d.methodLacks.map Lack.fault := by
  have ha : faults (attributes d.attributes) = [] := faults_attributes fun a ha => h a (by simp [allAttributes, ha])
  have hm := @faults_methods d.isInterface d.methods fun m hm a ha =>
    h a (List.mem_append_right _ (List.mem_flatMap.mpr ⟨m, hm, ha⟩))
  have hc : faults (constants d.constants) = [] := faults_map_none fun c _ => fault_member (memberText_constant c)
  have hp : faults (properties d.properties) = [] := faults_map_none fun p _ => fault_member (memberText_property p)
  simp [typeAround, ha, hm, hc, hp, methodLacks, fault_brace, fault_line]

theorem faults_type (d : Declaration) (h : d.TextArguments) :
    d.ownLacks.map Lack.fault ++ faults (type d) = d.lacks.map Lack.fault := by
  induction d using nested_induction with
  | h d ih =>
    obtain ⟨hd, hn⟩ := everywhere_iff.mp h
    have hi : faults (d.nestedIn.flatMap innerSteps) = (d.nestedIn.flatMap lacks).map Lack.fault := by
      rw [faults_flatMap, List.map_flatMap]
      apply List.flatMap_congr
      intro c hc
      rw [← ih c hc (hn c hc)]
      simp [innerSteps, nested, faults_requirements, fault_blank, fault_note]
    rw [type_eq, faults_typeAround hd, hi, lacks_eq]
    simp

theorem faults_fileHeader (d : Declaration) : faults (fileHeader d) = [] := by
  simp only [fileHeader, faults_append, faults_cons, faults_nil, Step.fault?, Option.toList_none, List.nil_append,
    List.append_nil]
  split
  · rfl
  · rw [faults_append, faults_map_none fun _ _ => rfl]
    rfl

end Declaration.Script

/-- The faults of a script are what its declaration lacks, in order. -/
theorem Declaration.faults_script (d : Declaration) (h : d.TextArguments) :
    Steps.faults d.script = d.lacks.map Lack.fault := by
  have hh := Script.faults_fileHeader d
  rw [← Script.faults_type d h, script]
  split
  · simp [Script.nested, Script.faults_requirements, Steps.fault_blank]
  · simp [Script.freestanding, Script.faults_requirements, hh, Steps.fault_brace]

/-! ## Collections that may be missing -/

def Attribute.filled (a : Attribute) : Attribute := { a with arguments := some (a.arguments.getD []) }

def Method.filled (m : Method) : Method :=
  { m with
    attributes := some ((m.attributes.getD []).map Attribute.filled)
    baseArguments := some (m.baseArguments.getD []) }

namespace Declaration

mutual

/-- The declaration with an empty collection wherever one is missing that is not required. -/
def filled : Declaration → Declaration
  | ⟨name, «namespace», imports, keywords, attributes, implementations, properties, constants, methods, innerClasses,
      isInterface, isNested⟩ =>
    ⟨name, «namespace», imports, keywords, attributes.map (·.map Attribute.filled), implementations,
      some (properties.getD []), some (constants.getD []), some ((methods.getD []).map Method.filled),
      some (filledOption innerClasses), isInterface, isNested⟩

def filledOption : Option (List Declaration) → List Declaration
  | none => []
  | some ds => filledAll ds

def filledAll : List Declaration → List Declaration
  | [] => []
  | d :: rest => filled d :: filledAll rest

end

theorem filledAll_eq (ds : List Declaration) : filledAll ds = ds.map filled := by
  induction ds with
  | nil => simp [filledAll]
  | cons d rest ih => simp [filledAll, ih]

theorem filled_eq (d : Declaration) :
    d.filled = { d with
      attributes := d.attributes.map (·.map Attribute.filled)
      properties := some (d.properties.getD [])
      constants := some (d.constants.getD [])
      methods := some ((d.methods.getD []).map Method.filled)
      innerClasses := some (d.nestedIn.map filled) } := by
  obtain ⟨_, _, _, _, _, _, _, _, _, innerClasses, _, _⟩ := d
  cases innerClasses with
  | none => simp [filled, filledOption, nestedIn]
  | some ds => simp [filled, filledOption, filledAll_eq, nestedIn]

end Declaration

theorem Attribute.filled_alike (a : Attribute) : a.filled.Alike a := ⟨rfl, rfl⟩

theorem Method.filled_alike (i : Bool) (m : Method) : m.filled.Alike i m :=
  ⟨rfl, rfl, rfl, rfl, fun _ => rfl,
    List.forall₂_map_left_iff.mpr (List.forall₂_same.mpr fun a _ => a.filled_alike), rfl⟩

namespace Declaration

theorem filled_alike (inside : Bool) (d : Declaration) : Alike inside d.filled d := by
  induction d using nested_induction generalizing inside with
  | h d ih =>
    have hattributes : Option.Rel (List.Forall₂ Attribute.Alike) (d.attributes.map (·.map Attribute.filled)) d.attributes := by
      cases d.attributes with
      | none => exact .none
      | some as => exact .some (List.forall₂_map_left_iff.mpr (List.forall₂_same.mpr fun a _ => a.filled_alike))
    have hproperties : List.Forall₂ Property.Alike (d.properties.getD []) (d.properties.getD []) :=
      List.forall₂_same.mpr fun p _ => ⟨rfl, rfl, rfl, rfl, fun _ => rfl⟩
    have hmethods : List.Forall₂ (Method.Alike d.isInterface) ((d.methods.getD []).map Method.filled) (d.methods.getD []) :=
      List.forall₂_map_left_iff.mpr (List.forall₂_same.mpr fun m _ => m.filled_alike d.isInterface)
    have hnested : List.Forall₂ (Alike true) (d.nestedIn.map filled) d.nestedIn :=
      List.forall₂_map_left_iff.mpr (List.forall₂_same.mpr fun c hc => ih c hc true)
    rw [filled_eq]
    exact .intro ⟨rfl, rfl, hattributes, rfl, hproperties, rfl, hmethods, rfl⟩
      ⟨rfl, fun _ => rfl, fun _ _ => ⟨rfl, rfl⟩⟩ hnested

theorem filled_outcome (d : Declaration) (k : Nat) (s : Settings) (u : String) (hu : s.indent = .text u) :
    (d.filled.render k s).outcome = (d.render k s).outcome := outcome_of_same (d.filled_alike false).same_script k s u hu

/-! ## The outcome -/

/-- Writing ends with the first lack, or with a text. -/
theorem outcome_lacks (d : Declaration) (k : Nat) (s : Settings) (u : String) (hu : s.indent = .text u)
    (ht : d.TextArguments) :
    (∃ first rest, d.lacks = first :: rest ∧ (d.render k s).outcome = .error first.fault) ∨
      d.lacks = [] ∧ ∃ text, (d.render k s).outcome = .ok text := by
  rw [render_outcome d k s u hu, Steps.fault_eq_head, faults_script d ht]
  cases d.lacks with
  | nil => exact .inr ⟨rfl, _, rfl⟩
  | cons first rest => exact .inl ⟨first, rest, rfl, rfl⟩

theorem lacks_ne_nil (d : Declaration) : d.lacks ≠ [] ↔ ∃ c : Declaration, c.Within d ∧ c.Incomplete := by
  rw [ne_eq, lacks_eq_nil, Everywhere]
  simp only [not_forall, not_not, exists_prop]

/-- Writing is refused exactly when a required collection is missing somewhere, and then for the first one missing; else
    there is a text. Collections that are not required may as well be empty. -/
theorem refused_iff_incomplete (d : Declaration) (k : Nat) (s : Settings) (u : String) (hu : s.indent = .text u)
    (ht : d.TextArguments) :
    ((∃ field owner, (d.render k s).outcome = .error (.missing field owner)) ↔ ∃ c : Declaration, c.Within d ∧ c.Incomplete) ∧
      ((∃ text, (d.render k s).outcome = .ok text) ↔ ¬ ∃ c : Declaration, c.Within d ∧ c.Incomplete) ∧
      (∀ f, (d.render k s).outcome = .error f → ∃ first rest, d.lacks = first :: rest ∧
        f = .missing first.field first.owner ∧
        f.message = "'" ++ first.owner ++ "' has no " ++ first.field ++ " (None is not allowed)") ∧
      (d.filled.render k s).outcome = (d.render k s).outcome := by
  rw [← lacks_ne_nil]
  refine ⟨?_, ?_, ?_, filled_outcome d k s u hu⟩
  · rcases outcome_lacks d k s u hu ht with ⟨first, rest, hl, ho⟩ | ⟨hl, text, ho⟩
    · simp only [hl, ho]
      exact ⟨fun _ => by simp, fun _ => ⟨_, _, rfl⟩⟩
    · simp [hl, ho]
  · rcases outcome_lacks d k s u hu ht with ⟨first, rest, hl, ho⟩ | ⟨hl, text, ho⟩
    · simp [hl, ho]
    · simp [hl, ho]
  · intro f hf
    rcases outcome_lacks d k s u hu ht with ⟨first, rest, hl, ho⟩ | ⟨hl, text, ho⟩
    · rw [ho, Except.error.injEq] at hf
      subst hf
      exact ⟨first, rest, hl, rfl, rfl⟩
    · rw [ho] at hf
      cases hf

/-- A method without a body, and a nested declaration without keywords. -/
def lackingTwice : Declaration where
  name := some "Outer"
  methods := some [{ name := some "Run", returnType := some "void", body := none }]
  innerClasses := some [{ name := some "Inner", keywords := none }]

/-- What is nested is met before the methods around it. -/
theorem nested_lack_comes_first :
    lackingTwice.TextArguments ∧ (lackingTwice.render 2 {}).outcome = .error (.missing "keywords" "Inner") := by
  have ht : lackingTwice.TextArguments := by
    refine everywhere_iff.mpr ⟨by simp [lackingTwice, allAttributes], fun c hc => ?_⟩
    obtain rfl : c = { name := some "Inner", keywords := none } := by simpa [lackingTwice, nestedIn] using hc
    exact everywhere_iff.mpr ⟨by simp [allAttributes], by simp [nestedIn]⟩
  obtain ⟨hi, -, hf, -⟩ := refused_iff_incomplete lackingTwice 2 {} "\t" rfl ht
  obtain ⟨field, owner, ho⟩ := hi.mpr ⟨{ name := some "Inner", keywords := none },
    .nested (by simp [nestedIn, lackingTwice]) (.self _), .inr (.inl rfl)⟩
  obtain ⟨first, rest, hl, he, -⟩ := hf _ ho
  have hfirst : first = ⟨"keywords", "Inner"⟩ := (List.cons.inj hl).1.symm
  refine ⟨ht, ?_⟩
  rw [he, hfirst] at ho
  exact ho

end Declaration

end Typewright
