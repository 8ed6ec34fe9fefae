import Mathlib.Data.List.Forall2
import Typewright.Proofs.Layout

/-!
What a text does not show. Declarations are `Alike` when they differ only in fields that writing must not look at: whether
an optional collection is missing or empty, the bodies of an interface, an expression that a property does not use, and the
namespace, the imports and the nesting mark of a declaration that stands inside another one.

A collection that is required is another matter, since without it there is nothing but a fault: whether it is there must
agree (`SamePlace.imported`), and so must everything else that a fault or its message depends on. That is why the relation
is about fields and not about texts, and why it takes declarations that lack something as well.

The scripts of such declarations come to the same step by step (`Alike.same_script`), by induction over the nesting, whether
they are carried out to the end or broken off. So nothing of the outcome depends on those fields, nor on the custom entries
of the settings.

Proved:
- `hidden_fields_have_no_influence`: they end alike, in the same text or with the same fault and message, at every depth and
  under settings that differ in custom entries only.
- `hidden_fields_of_a_canvas`: an interface in a namespace, with a body in a method and a nested declaration with an unused
  expression, of which nothing shows.
-/

namespace Typewright

open Template.Library

/-! ## Declarations that look alike -/

/-- The same attribute: no list of arguments is as good as an empty one. -/
structure Attribute.Alike (a b : Attribute) : Prop where
  name : a.name = b.name
  arguments : a.arguments.getD [] = b.arguments.getD []

/-- The same property, but for an expression that is not used. -/
structure Property.Alike (p q : Property) : Prop where
  name : p.name = q.name
  type : p.type = q.type
  access : p.access = q.access
  isExpressionBodied : p.isExpressionBodied = q.isExpressionBodied
  expression : p.isExpressionBodied = true → p.expression = q.expression

/-- The same method, but for the body of one in an interface. -/
structure Method.Alike (isInterface : Bool) (m n : Method) : Prop where
  name : m.name = n.name
  returnType : m.returnType = n.returnType
  keywords : m.keywords = n.keywords
  parameters : m.parameters = n.parameters
  body : isInterface = false → m.body = n.body
  attributes : List.Forall₂ Attribute.Alike (m.attributes.getD []) (n.attributes.getD [])
  baseArguments : m.baseArguments.getD [] = n.baseArguments.getD []

namespace Declaration

structure SameType (d e : Declaration) : Prop where
  name : d.name = e.name
  keywords : d.keywords = e.keywords
  attributes : Option.Rel (List.Forall₂ Attribute.Alike) d.attributes e.attributes
  implementations : d.implementations = e.implementations
  properties : List.Forall₂ Property.Alike (d.properties.getD []) (e.properties.getD [])
  constants : d.constants.getD [] = e.constants.getD []
  methods : List.Forall₂ (Method.Alike d.isInterface) (d.methods.getD []) (e.methods.getD [])
  isInterface : d.isInterface = e.isInterface

/-- The same place. Imports must be there in both or in neither; what they are, the namespace and the nesting mark count only
    for a declaration in a file of its own. -/
structure SamePlace (inside : Bool) (d e : Declaration) : Prop where
  imported : d.imports.isSome = e.imports.isSome
  isNested : inside = false → d.isNested = e.isNested
  header : inside = false → d.isNested = false → d.namespace = e.namespace ∧ d.imports = e.imports

/-- Declarations that differ only in what does not show, where `inside` says whether they stand in another one. -/
inductive Alike : Bool → Declaration → Declaration → Prop
  | intro {inside : Bool} {d e : Declaration} : SameType d e → SamePlace inside d e →
      List.Forall₂ (Alike true) d.nestedIn e.nestedIn → Alike inside d e

end Declaration

/-! ## Their scripts -/

namespace Steps.Same

theorem map₂ {α : Type} {R : α → α → Prop} {f : α → Step} {xs ys : List α} (h : List.Forall₂ R xs ys)
    (hf : ∀ x y, R x y → (f x).Same (f y)) : Same (xs.map f) (ys.map f) := by
  induction h with
  | nil => exact .nil
  | cons hxy _ ih => exact .cons (hf _ _ hxy) ih

theorem flatMap₂ {α : Type} {R : α → α → Prop} {f : α → List Step} {xs ys : List α} (h : List.Forall₂ R xs ys)
    (hf : ∀ x ∈ xs, ∀ y, R x y → Same (f x) (f y)) : Same (xs.flatMap f) (ys.flatMap f) := by
  induction h with
  | nil => exact .nil
  | cons hxy _ ih =>
    rw [List.flatMap_cons, List.flatMap_cons]
    exact (hf _ (by simp) _ hxy).append (ih fun x hx => hf x (by simp [hx]))

end Steps.Same

namespace Declaration.Script

open Steps

theorem same_attributes {as bs : Option (List Attribute)} (h : List.Forall₂ Attribute.Alike (as.getD []) (bs.getD [])) :
    Same (attributes as) (attributes bs) := by
  refine Same.map₂ h fun a b hab => ?_
  have ht : a.text = b.text := by rw [Attribute.text, Attribute.text, hab.name, hab.arguments]
  simp [Step.Same, Step.fault?, Step.entries, Step.depth, ht]

theorem same_properties {ps qs : Option (List Property)} (h : List.Forall₂ Property.Alike (ps.getD []) (qs.getD [])) :
    Same (properties ps) (properties qs) := by
  refine Same.map₂ h fun p q hpq => ?_
  apply Step.Same.member
  rw [memberText_property, memberText_property, propertyText, propertyText, hpq.name, hpq.type, hpq.access,
    ← hpq.isExpressionBodied]
  cases hb : p.isExpressionBodied with
  | true => rw [hpq.expression hb]
  | false => rfl

theorem same_method {i : Bool} {m n : Method} (h : m.Alike i n) : Same (method i m) (method i n) := by
  have hconstructor : m.isConstructor = n.isConstructor := by rw [Method.isConstructor, Method.isConstructor, h.name]
  have hlabel : m.label = n.label := by rw [Method.label, Method.label, hconstructor, h.name, h.returnType]
  have hheader : Step.Same (.member methodTemplate (methodScope i m)) (.member methodTemplate (methodScope i n)) := by
    apply Step.Same.member
    rw [memberText_method, memberText_method, methodText, methodText, signature, signature, hconstructor, h.name,
      h.returnType, h.keywords, h.parameters, h.baseArguments]
  have hbody : body i m = body i n := by
    cases i with
    | true => rfl
    | false => rw [body, body, h.body rfl, hlabel]
  simp only [method, hlabel, h.keywords, h.parameters, hbody]
  exact .cons (.refl _) (.cons (.refl _) (((same_attributes h.attributes).append (.cons hheader (.refl _))).append (.refl _)))

theorem same_methods {i : Bool} {ms ns : Option (List Method)} (h : List.Forall₂ (Method.Alike i) (ms.getD []) (ns.getD [])) :
    Same (methods i ms) (methods i ns) := by
  unfold methods
  generalize ms.getD [] = xs, ns.getD [] = ys at h ⊢
  cases h with
  | nil => exact .refl _
  | cons hmn hrest => exact .cons (.refl _) (Same.flatMap₂ (.cons hmn hrest) fun m _ n h => same_method h)

theorem same_requirements {inside : Bool} {d e : Declaration} (ht : SameType d e) (hp : SamePlace inside d e) :
    requirements d = requirements e := by
  have ha : d.attributes.isSome = e.attributes.isSome := by
    have := ht.attributes
    generalize d.attributes = as, e.attributes = bs at this ⊢
    cases this <;> rfl
  rw [requirements, requirements, ht.name, hp.imported, ht.keywords, ha]

theorem same_type {inside : Bool} {d e : Declaration} (h : Alike inside d e) : Same (type d) (type e) := by
  induction d using nested_induction generalizing e inside with
  | h d ih =>
    obtain ⟨ht, -, hnested⟩ := h
    have hinner : Same (d.nestedIn.flatMap innerSteps) (e.nestedIn.flatMap innerSteps) := by
      refine Same.flatMap₂ hnested fun c hc c' hcc' => ?_
      have htype := ih c hc hcc'
      obtain ⟨ht', hp', -⟩ := hcc'
      simp only [innerSteps, nested, ht'.name, same_requirements ht' hp']
      exact .cons (.refl _) (((Same.refl _).append (.cons (.refl _) htype)).append (.refl _))
    have hattributes : Same (attributes d.attributes) (attributes e.attributes) := by
      apply same_attributes
      have := ht.attributes
      generalize d.attributes = as, e.attributes = bs at this ⊢
      cases this with
      | some h => exact h
      | none => exact .nil
    have hheadline : headline d = headline e := by
      simp only [headline, kindWord, ht.keywords, ht.isInterface, ht.name, ht.implementations]
    have hconstants : constants d.constants = constants e.constants := by rw [constants, constants, ht.constants]
    have hmethods := same_methods ht.methods
    rw [type_eq, type_eq]
    simp only [typeAround, hheadline, hconstants, ← ht.isInterface]
    exact ((((hattributes.append (.cons (.refl _) (.cons (.refl _) hinner))).append (.refl _)).append
      (same_properties ht.properties)).append hmethods).append (.refl _)

end Declaration.Script

namespace Declaration

/-- Declarations that look alike have scripts that come to the same. -/
theorem Alike.same_script {d e : Declaration} (h : Alike false d e) : Steps.Same d.script e.script := by
  have htype := Script.same_type h
  obtain ⟨ht, hp, -⟩ := h
  have hnested := hp.isNested rfl
  have hrequirements := Script.same_requirements ht hp
  rw [script, script, ← hnested]
  cases hn : d.isNested with
  | true =>
    simp only [if_true, Script.nested, hrequirements]
    exact (Steps.Same.refl _).append (.cons (.refl _) htype)
  | false =>
    obtain ⟨hnamespace, himports⟩ := hp.header rfl hn
    have hheader : Script.fileHeader d = Script.fileHeader e := by
      rw [Script.fileHeader, Script.fileHeader, hnamespace, himports]
    simp only [Bool.false_eq_true, if_false, Script.freestanding, hrequirements, hheader]
    exact ((Steps.Same.refl _).append (.cons (.refl _) htype)).append (.refl _)

/-- Fields that must not show have no influence: declarations that differ in nothing else end alike, in the same text or with
    the same fault and message, at every depth and under settings that differ in custom entries only. -/
theorem hidden_fields_have_no_influence {d e : Declaration} (h : Alike false d e) (k : Int) (s : Settings) (custom : Json) :
    (d.render k s).outcome = (e.render k { s with custom }).outcome := outcome_congr h.same_script k s custom

def canvas (home : String) (body : Option (List Piece)) (size : Json) (marked : Bool) : Declaration where
  name := some "Canvas"
  «namespace» := some home
  imports := some [some home]
  methods := some [{ name := some "Area", returnType := some "int", body }]
  innerClasses := some [{
    name := some "Grid"
    «namespace» := some home
    properties := some [{ name := some "Size", type := some "int", expression := size }]
    isNested := marked }]
  isInterface := true
  isNested := true

/-- The body of an interface, an unused expression, a nested declaration's mark and a namespace that is not written. -/
theorem hidden_fields_of_a_canvas :
    Alike false (canvas "Geometry" none (.int 4) true) (canvas "" (some [some "return 1;"]) .null false) ∧
      ((canvas "Geometry" none (.int 4) true).render 3 {}).outcome =
        ((canvas "" (some [some "return 1;"]) .null false).render 3 { custom := .object [("owner", .text "team")] }).outcome := by
  have h : Alike false (canvas "Geometry" none (.int 4) true) (canvas "" (some [some "return 1;"]) .null false) := by
    refine .intro ⟨rfl, rfl, .some .nil, rfl, .nil, rfl, ?_, rfl⟩ ⟨rfl, fun _ => rfl, by simp [canvas]⟩ ?_
    · exact .cons ⟨rfl, rfl, rfl, rfl, by simp [canvas], .nil, rfl⟩ .nil
    · refine .cons (.intro ⟨rfl, rfl, .some .nil, rfl, ?_, rfl, .nil, rfl⟩ ⟨rfl, by simp, by simp⟩ .nil) .nil
      exact .cons ⟨rfl, rfl, rfl, rfl, by simp⟩ .nil
  exact ⟨h, hidden_fields_have_no_influence h 3 {} _⟩

end Declaration

end Typewright
