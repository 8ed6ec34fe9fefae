import Mathlib.Data.List.ReduceOption
import Typewright.Proofs.TypeLines
import Typewright.Proofs.ValueTexts

/-!
From the texts of a declaration to its lines.

A line is put together from texts of the declaration and words between them. So a property of texts passes from the one to
the other when it is `Inherited`: plain texts have it, and joining, quoting and bracing keep it. Which texts count for a
line is said part by part (`Attribute.texts`, `Method.texts`, `ownTexts`); the lines of a method's body stand for themselves
(`Method.bodyTexts`), so that a proof can treat them on their own.

Each kind of line has its lemma: an attribute (`Inherited.attributeText`), a constant, a property, a method's header with
its parameters and the call of the base constructor, the headline of a type, the lines at the head of a file. They are the
texts of `Layout`, so these lemmas follow its definitions, one for each.

When the braces on lines of their own have the property too, every line of the whole declaration has it
(`Inherited.scriptSteps`), by the recursion of the script: what a step writes (`Step.Writes`), then the steps of a method,
of a type around its nested types, of a file. Balance does not pass in this way, since a single brace is not balanced; that
a text has no line end does.
-/

namespace Typewright

open Template.Library

/-! ## The texts of a declaration -/

def Attribute.texts (a : Attribute) : List String := [a.name].reduceOption ++ (a.arguments.getD []).reduceOption

def Constant.texts (c : Constant) : List String := [c.access, c.type, c.name].reduceOption ++ c.value.texts

def Property.texts (p : Property) : List String := [p.access, p.type, p.name].reduceOption ++ p.expression.texts

def Parameter.texts (p : Parameter) : List String := [p.type, p.name].reduceOption

/-- Every text of a method, the lines of its body left out. -/
def Method.texts (m : Method) : List String :=
  [m.name, m.returnType].reduceOption ++ (m.keywords.getD []).reduceOption
    ++ (m.parameters.getD []).flatMap Parameter.texts ++ (m.attributes.getD []).flatMap Attribute.texts
    ++ (m.baseArguments.getD []).reduceOption

def Method.bodyTexts (m : Method) : List String := (m.body.getD []).reduceOption

namespace Declaration

/-- Every text of a declaration, without bodies and without the declarations nested in it. -/
def ownTexts (d : Declaration) : List String :=
  [d.name, d.namespace, d.implementations].reduceOption ++ (d.imports.getD []).reduceOption
    ++ (d.keywords.getD []).reduceOption ++ (d.attributes.getD []).flatMap Attribute.texts
    ++ (d.properties.getD []).flatMap Property.texts ++ (d.constants.getD []).flatMap Constant.texts
    ++ (d.methods.getD []).flatMap Method.texts

/-- Every text of a declaration has the property, those of the bodies included. -/
def TextsAre (P : String → Prop) (d : Declaration) : Prop :=
  ∀ s ∈ d.ownTexts ++ (d.methods.getD []).flatMap Method.bodyTexts, P s

end Declaration

/-! ## Lines -/

theorem joinFrom_eq {separator : String} {n : Nat} {xs : List Piece} {ys : List String}
    (h : joinFrom separator n xs = .ok ys) : ys = xs.reduceOption := by
  induction xs generalizing n ys with
  | nil => cases h; rfl
  | cons x rest ih =>
    cases x with
    | none => cases h
    | some s =>
      rw [joinFrom] at h
      cases hr : joinFrom separator (n + 1) rest with
      | error m =>
        rw [hr] at h
        cases h
      | ok zs =>
        rw [hr] at h
        cases h
        rw [ih hr, List.reduceOption_cons_of_some]

namespace Inherited

open Declaration Declaration.Script

variable {P : String → Prop} (h : Inherited P)

include h

theorem pieces {ps : List Piece} (hp : ∀ s ∈ ps.reduceOption, P s) : ∀ p ∈ ps, P p.shown := by
  intro p hmem
  cases p with
  | none => exact h.plain (by decide)
  | some s => exact hp s (List.reduceOption_mem_iff.mpr hmem)

/-- Two texts with a plain word between them. -/
theorem between {s t word : String} (hs : P s) (hw : Text.allPlain word = true) (ht : P t) :
    P (s ++ word ++ t) := h.append (h.append hs (h.plain hw)) ht

theorem spaced {ps : List Piece} (hp : ∀ p ∈ ps, P p.shown) : P (spaced ps) :=
  h.intercalate (h.plain (by decide)) (List.forall_mem_map.mpr hp)

theorem attributeText {a : Attribute} (ha : ∀ s ∈ a.texts, P s) {text : String} (ht : a.text = .ok text) : P text := by
  rw [Attribute.texts, List.forall_mem_append] at ha
  have hname : P a.name.shown := h.pieces ha.1 _ (by simp)
  have hopen : P ("[" ++ a.name.shown) := h.append (h.plain (by decide)) hname
  unfold Attribute.text at ht
  split at ht
  · cases ht
    exact h.append hopen (h.plain (by decide))
  · cases hj : joinFrom "," 0 (a.arguments.getD []) with
    | error m => simp [joinTexts, hj, Except.map] at ht
    | ok ys =>
      simp only [joinTexts, hj, Except.map, Except.ok.injEq] at ht
      subst ht
      have hys : P (String.intercalate "," ys) := h.intercalate (h.plain (by decide)) (joinFrom_eq hj ▸ ha.2)
      exact h.append (h.append (h.between hopen (by decide) hys) (h.plain (by decide))) (h.plain (by decide))

theorem printed {v : Json} (hv : ∀ s ∈ v.texts, P s) : P (printed v) := by
  cases v with
  | null => exact h.empty
  | _ => exact h.shown hv

theorem printedPieces {ps : List Piece} (hp : ∀ s ∈ ps.reduceOption, P s) :
    ∀ p ∈ ps, P (Template.Library.printed (.ofOption p)) := by
  intro p hmem
  cases p with
  | none => exact h.empty
  | some s => exact hp s (List.reduceOption_mem_iff.mpr hmem)

theorem constantText {c : Constant} (hc : ∀ s ∈ c.texts, P s) : P (constantText c) := by
  rw [Constant.texts, List.forall_mem_append] at hc
  have hpieces := h.printedPieces hc.1
  have haccess := hpieces c.access (by simp)
  have htype := hpieces c.type (by simp)
  have hname := hpieces c.name (by simp)
  have hvalue := h.printed hc.2
  exact h.append (h.between (h.between (h.between haccess (by decide) htype) (by decide) hname) (by decide) hvalue)
    (h.plain (by decide))

theorem propertyText {p : Property} (hp : ∀ s ∈ p.texts, P s) : P (propertyText p) := by
  rw [Property.texts, List.forall_mem_append] at hp
  have hpieces := h.printedPieces hp.1
  have haccess := hpieces p.access (by simp)
  have htype := hpieces p.type (by simp)
  have hname := hpieces p.name (by simp)
  refine h.between (h.between (h.between haccess (by decide) htype) (by decide) hname) (by decide) ?_
  split
  · exact h.append (h.append (h.plain (by decide)) (h.printed hp.2)) (h.plain (by decide))
  · have haccessors : P " get; set; " := h.plain (by decide)
    exact h.braced haccessors

theorem parameterText {p : Parameter} (hp : ∀ s ∈ p.texts, P s) : P (parameterText p) := by
  have hpieces := h.pieces hp
  have hthis : P (if p.isExtensionReceiver then "this " else "") := by split <;> exact h.plain (by decide)
  exact h.between (h.append hthis (hpieces p.type (by simp))) (by decide) (hpieces p.name (by simp))

theorem baseCall {ps : List Piece} (hp : ∀ s ∈ ps.reduceOption, P s) : P (baseCall (ps.map .ofOption)) := by
  unfold Template.Library.baseCall
  split
  · exact h.empty
  · have hshown : ∀ s ∈ (ps.map Json.ofOption).map Json.shown, P s := by
      rw [shown_pieces, List.forall_mem_map]
      exact h.pieces hp
    exact h.append (h.append (h.plain (by decide)) (h.intercalate (h.plain (by decide)) hshown)) (h.plain (by decide))

theorem methodText {m : Method} (hm : ∀ s ∈ m.texts, P s) (i : Bool) : P (methodText i m) := by
  simp only [Method.texts, List.forall_mem_append] at hm
  obtain ⟨⟨⟨⟨hown, hkeywords⟩, hparameters⟩, -⟩, harguments⟩ := hm
  have hsignature : P (signature m) := by
    apply h.spaced
    rw [List.forall_mem_append, List.forall_mem_cons]
    refine ⟨h.pieces hkeywords, h.pieces hown _ (by simp), ?_⟩
    split
    · simp
    · simpa using h.pieces hown m.name (by simp)
  have hjoined : P (String.intercalate ", " ((m.parameters.getD []).map Declaration.Script.parameterText)) := by
    refine h.intercalate (h.plain (by decide)) (List.forall_mem_map.mpr fun p hp => h.parameterText fun s hs => ?_)
    exact hparameters s (List.mem_flatMap.mpr ⟨p, hp, hs⟩)
  have hend : P (if i then ";" else "") := by split <;> exact h.plain (by decide)
  exact h.append (h.between (h.between hsignature (by decide) hjoined) (by decide) (h.baseCall harguments)) hend

theorem headline {d : Declaration} (hd : ∀ s ∈ d.ownTexts, P s) : P (headline d) := by
  simp only [ownTexts, List.forall_mem_append] at hd
  obtain ⟨⟨⟨⟨⟨⟨hnames, -⟩, hkeywords⟩, -⟩, -⟩, -⟩, -⟩ := hd
  have hpieces := h.pieces hnames
  have hkind : P d.kindWord := by
    unfold kindWord
    split <;> exact h.plain (by decide)
  apply h.spaced
  simp only [List.forall_mem_append, List.forall_mem_cons]
  refine ⟨h.pieces hkeywords, hkind, hpieces d.name (by simp), ?_⟩
  cases hb : d.implementations with
  | none => simp
  | some base =>
    have hbase : P (Piece.shown (some base)) := hpieces (some base) (by simp [hb])
    have hcolon : P (Piece.shown (some ":")) := h.plain (by decide)
    simpa using ⟨hcolon, hbase⟩

end Inherited

/-! ## Steps -/

def Entry.text : Entry → String
  | blank => ""
  | flush text | deep _ text => text

def Step.Writes (P : String → Prop) (comment : String) (s : Step) : Prop := ∀ r, ∀ e ∈ s.entries comment r, P e.text

theorem Steps.layout_texts {P : String → Prop} {comment : String} {steps : List Step}
    (h : ∀ s ∈ steps, s.Writes P comment) (r : Nat) : ∀ e ∈ layout comment r steps, P e.text := by
  induction steps generalizing r with
  | nil => simp [layout]
  | cons s rest ih =>
    rw [List.forall_mem_cons] at h
    exact List.forall_mem_append.mpr ⟨h.1 r, ih h.2 _⟩

namespace Step.Writes

variable {P : String → Prop} {head : String}

theorem line {text : String} (ht : P text) : (Step.line text).Writes P head := by simpa [Step.Writes, Step.entries, Entry.text]

theorem header {text : String} (ht : P text) : (Step.header text).Writes P head := by
  simpa [Step.Writes, Step.entries, Entry.text]

theorem comment (hc : P head) : Step.comment.Writes P head := by simpa [Step.Writes, Step.entries, Entry.text]

theorem blank (he : P "") : Step.blank.Writes P head := by simpa [Step.Writes, Step.entries, Entry.text]

theorem note (r : Log.Record) : (Step.note r).Writes P head := by simp [Step.Writes, Step.entries]

theorem require (present : Bool) (field owner : String) : (Step.require present field owner).Writes P head := by
  simp [Step.Writes, Step.entries]

theorem member {template : String} {scope : Object} {text : String} (h : memberText template scope = .ok text)
    (ht : P text) : (Step.member template scope).Writes P head := by
  simpa [Step.Writes, Step.entries, h, Except.toOption, Entry.text]

theorem openBlock (hb : P "\x7b") : Step.openBlock.Writes P head := by simpa [Step.Writes, Step.entries, Entry.text]

theorem closeBlock (hb : P "\x7d") : Step.closeBlock.Writes P head := by simpa [Step.Writes, Step.entries, Entry.text]

theorem requirements (d : Declaration) : ∀ s ∈ Declaration.Script.requirements d, s.Writes P head := by
  simp only [Declaration.Script.requirements, List.forall_mem_cons]
  exact ⟨require _ _ _, require _ _ _, require _ _ _, by simp⟩

end Step.Writes

namespace Inherited

open Declaration Declaration.Script

variable {P : String → Prop} (h : Inherited P) {head : String}

include h

theorem attributeSteps {as : Option (List Attribute)} (ha : ∀ s ∈ (as.getD []).flatMap Attribute.texts, P s) :
    ∀ s ∈ attributes as, s.Writes P head := by
  refine List.forall_mem_map.mpr fun a hmem => ?_
  cases ht : a.text with
  | error m => simp [Step.Writes, Step.entries, ht, Except.toOption]
  | ok text =>
    have htext := h.attributeText (fun s hs => ha s (List.mem_flatMap.mpr ⟨a, hmem, hs⟩)) ht
    simpa [Step.Writes, Step.entries, ht, Except.toOption, Entry.text]

theorem constantSteps {cs : Option (List Constant)} (hc : ∀ s ∈ (cs.getD []).flatMap Constant.texts, P s) :
    ∀ s ∈ constants cs, s.Writes P head := by
  refine List.forall_mem_map.mpr fun c hmem => .member (memberText_constant c) (h.constantText fun s hs => ?_)
  exact hc s (List.mem_flatMap.mpr ⟨c, hmem, hs⟩)

theorem propertySteps {ps : Option (List Property)} (hp : ∀ s ∈ (ps.getD []).flatMap Property.texts, P s) :
    ∀ s ∈ properties ps, s.Writes P head := by
  refine List.forall_mem_map.mpr fun p hmem => .member (memberText_property p) (h.propertyText fun s hs => ?_)
  exact hp s (List.mem_flatMap.mpr ⟨p, hmem, hs⟩)

/-- The lines of a method up to its body. -/
theorem methodHeadSteps {m : Method} (hm : ∀ s ∈ m.texts, P s) (i : Bool) :
    ∀ s ∈ attributes m.attributes ++ [.member methodTemplate (methodScope i m)], s.Writes P head := by
  rw [List.forall_mem_append, List.forall_mem_singleton]
  refine ⟨h.attributeSteps fun s hs => hm s ?_, .member (memberText_method i m) (h.methodText hm i)⟩
  simp only [Method.texts, List.mem_append]
  tauto

theorem fileHeaderSteps {d : Declaration} (hd : ∀ s ∈ d.ownTexts, P s) (hc : P head) :
    ∀ s ∈ fileHeader d, s.Writes P head := by
  simp only [ownTexts, List.forall_mem_append] at hd
  obtain ⟨⟨⟨⟨⟨⟨hnames, himports⟩, -⟩, -⟩, -⟩, -⟩, -⟩ := hd
  have hspace : P ("namespace " ++ d.namespace.shown) :=
    h.append (h.plain (by decide)) (h.pieces hnames d.namespace (by simp))
  simp only [fileHeader, List.forall_mem_append, List.forall_mem_cons]
  refine ⟨⟨.comment hc, .blank h.empty, ?_⟩, .header hspace, by simp⟩
  split
  · simp
  · rw [List.forall_mem_append, List.forall_mem_map]
    refine ⟨fun p hp => .header ?_, by simpa using .blank h.empty⟩
    exact h.append (h.append (h.plain (by decide)) (h.pieces himports p hp)) (h.plain (by decide))

/-! ## Whole scripts -/

section Scripts

variable (hopen : P "\x7b") (hclose : P "\x7d")

include hopen hclose

theorem bodySteps {m : Method} (hb : ∀ s ∈ m.bodyTexts, P s) (i : Bool) : ∀ s ∈ body i m, s.Writes P head := by
  unfold body
  cases i with
  | true => simp
  | false =>
    simp only [Bool.false_eq_true, if_false, List.forall_mem_append, List.forall_mem_cons, List.forall_mem_map]
    exact ⟨⟨.require _ _ _, .openBlock hopen, fun l hl => .line (h.pieces hb l hl)⟩, .closeBlock hclose, by simp⟩

theorem methodSteps {m : Method} (hm : ∀ s ∈ m.texts, P s) (hb : ∀ s ∈ m.bodyTexts, P s) (i : Bool) :
    ∀ s ∈ method i m, s.Writes P head := by
  have hhead : ∀ s ∈ attributes m.attributes ++ [.member methodTemplate (methodScope i m)], s.Writes P head :=
    h.methodHeadSteps hm i
  simp only [List.forall_mem_append, List.forall_mem_cons] at hhead
  simp only [method, List.forall_mem_append, List.forall_mem_cons]
  exact ⟨⟨⟨.require _ _ _, .require _ _ _, hhead.1⟩, hhead.2.1, h.bodySteps hopen hclose hb i⟩, .blank h.empty, by simp⟩

theorem methodsSteps {ms : Option (List Method)} (hm : ∀ m ∈ ms.getD [], ∀ s ∈ m.texts, P s)
    (hb : ∀ m ∈ ms.getD [], ∀ s ∈ m.bodyTexts, P s) (i : Bool) : ∀ s ∈ methods i ms, s.Writes P head := by
  unfold Script.methods
  split
  · simp
  · refine List.forall_mem_cons.mpr ⟨.blank h.empty, List.forall_mem_flatMap.mpr fun m hmem => ?_⟩
    exact h.methodSteps hopen hclose (hm m hmem) (hb m hmem) i

/-- Every line of a type has what all texts in it have, at every level. -/
theorem typeSteps {d : Declaration} (hd : d.Everywhere (TextsAre P)) : ∀ s ∈ type d, s.Writes P head := by
  induction d using nested_induction with
  | h d ih =>
    obtain ⟨hown, hnested⟩ := everywhere_iff.mp hd
    have hinner : ∀ s ∈ d.nestedIn.flatMap innerSteps, s.Writes P head := by
      refine List.forall_mem_flatMap.mpr fun c hc => ?_
      simp only [innerSteps, nested, List.forall_mem_append, List.forall_mem_cons]
      exact ⟨⟨.note _, .requirements c, .blank h.empty, ih c hc (hnested c hc)⟩, .blank h.empty, by simp⟩
    rw [TextsAre, List.forall_mem_append] at hown
    obtain ⟨htexts, hbodies⟩ := hown
    have hheadline := h.headline htexts
    simp only [ownTexts, List.forall_mem_append, List.forall_mem_flatMap] at htexts hbodies
    obtain ⟨⟨⟨⟨-, hattributes⟩, hproperties⟩, hconstants⟩, hmethods⟩ := htexts
    rw [type_eq]
    simp only [typeAround, List.forall_mem_append, List.forall_mem_cons]
    refine ⟨⟨⟨⟨⟨h.attributeSteps ?_, .line hheadline, .openBlock hopen, hinner⟩, h.constantSteps ?_⟩,
      h.propertySteps ?_⟩, h.methodsSteps hopen hclose hmethods hbodies _⟩, .closeBlock hclose, by simp⟩
    · exact List.forall_mem_flatMap.mpr hattributes
    · exact List.forall_mem_flatMap.mpr hconstants
    · exact List.forall_mem_flatMap.mpr hproperties

/-- Every line of a declaration has what all its texts have, the comment at the head of a file included. -/
theorem scriptSteps {d : Declaration} (hd : d.Everywhere (TextsAre P)) (hc : P head) : ∀ s ∈ d.script, s.Writes P head := by
  have htype : ∀ s ∈ type d, s.Writes P head := h.typeSteps hopen hclose hd
  have htexts : ∀ s ∈ d.ownTexts, P s := fun s hs => (everywhere_iff.mp hd).1 s (List.mem_append_left _ hs)
  unfold script
  split
  · simp only [nested, List.forall_mem_append, List.forall_mem_cons]
    exact ⟨.requirements d, .blank h.empty, htype⟩
  · simp only [freestanding, List.forall_mem_append, List.forall_mem_cons]
    exact ⟨⟨⟨.requirements d, h.fileHeaderSteps htexts hc⟩, .openBlock hopen, htype⟩, .closeBlock hclose, by simp⟩

end Scripts

end Inherited

end Typewright
