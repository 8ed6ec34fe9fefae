import Typewright.Proofs.Braces
import Typewright.Proofs.LineTexts
import Typewright.Proofs.Skeleton

/-!
Brace balance of what is written.

Braces come into the text of a declaration from three sides: from the blocks of its script, from the template of a property,
whose accessors stand in braces, and from the texts that the declaration and the settings hold. The first two are balanced
by themselves. Of the third it has to be asked (`HasBalance`), and it is asked in the weakest form under which the text
comes out balanced.
- A name, a type, a keyword or an argument stands in a line with other texts, and may be repeated elsewhere; each must be
  balanced by itself.
- The lines of a method's body stand one below the other and nothing comes between them, so they only have to be balanced
  together: a body may open a brace on one line and close it on another.
- The body of a method in an interface is not written, so nothing is asked of it.

Steps write balanced text (`WritesBalanced`) when every line of theirs is balanced (`WritesBalanced.cons`), when they are a
block around such steps (`WritesBalanced.block`), or when they are the lines of a body that is balanced as a whole
(`WritesBalanced.lines`). The indentations are left open, and so is the depth at which a declaration starts; an indent must
be balanced, since it is written in front of every line. Scripts are put together from these, level by level, with an
induction over the declarations nested in one another (`balanced_type`).

Proved:
- `balanced_script`: every script whose declaration has balance everywhere writes balanced text, under balanced
  indentations.
- `written_text_is_balanced`: whatever is written without a fault, at any depth and under any settings with balanced texts,
  is balanced. Settings that are no texts count by the texts in them.
- `balanced_text_of_a_workshop`: a body whose braces are on lines of their own, around a nested class with a property.
-/

namespace Typewright

namespace Declaration

/-- The texts of a declaration are balanced, and the body of each method that is written is balanced as a whole. -/
structure HasBalance (d : Declaration) : Prop where
  texts : ∀ s ∈ d.ownTexts, Balanced s
  bodies : d.isInterface = false → ∀ m ∈ d.methods.getD [], Balanced (String.join ((m.body.getD []).map Piece.shown))

end Declaration

/-! ## Balanced scripts -/

namespace Steps

/-- What the steps write is balanced, whatever the depth: the indentations are `i`, and `k` is where the declaration starts. -/
def WritesBalanced (i : Int → String) (ending comment : String) (k : Nat) (steps : List Step) : Prop :=
  ∀ r, Balanced (layoutTextBy i ending k (layout comment r steps))

namespace WritesBalanced

variable {i : Int → String} {ending comment : String} {k : Nat}

theorem nil : WritesBalanced i ending comment k [] := fun _ => .empty

theorem append {a b : List Step} (ha : WritesBalanced i ending comment k a) (hb : WritesBalanced i ending comment k b) :
    WritesBalanced i ending comment k (a ++ b) := by
  intro r
  rw [layout_append, Declaration.layoutTextBy_append]
  exact (ha r).append (hb _)

theorem flatMap {α : Type} {f : α → List Step} {xs : List α} (h : ∀ x ∈ xs, WritesBalanced i ending comment k (f x)) :
    WritesBalanced i ending comment k (xs.flatMap f) := by
  induction xs with
  | nil => exact nil
  | cons x rest ih =>
    rw [List.forall_mem_cons] at h
    rw [List.flatMap_cons]
    exact h.1.append (ih h.2)

variable (hi : ∀ n, Balanced (i n)) (he : Balanced ending)

include hi he

theorem cons {s : Step} {rest : List Step} (hs : s.Writes Balanced comment)
    (hrest : WritesBalanced i ending comment k rest) : WritesBalanced i ending comment k (s :: rest) := by
  intro r
  have hline : ∀ e ∈ s.entries comment r, Balanced (e.lineBy i k) := by
    intro e hmem
    have ht := hs r e hmem
    cases e with
    | blank => exact .empty
    | flush text => exact (hi _).append ht
    | deep depth text => exact (hi _).append ht
  rw [layout, Declaration.layoutTextBy_append]
  have hlines := balanced_inherited.join (List.forall_mem_map.mpr fun e hmem => (hline e hmem).append he)
  exact hlines.append (hrest _)

/-- Steps whose lines are balanced one by one. -/
theorem steps {steps : List Step} (h : ∀ s ∈ steps, s.Writes Balanced comment) : WritesBalanced i ending comment k steps := by
  induction steps with
  | nil => exact nil
  | cons s rest ih =>
    rw [List.forall_mem_cons] at h
    exact cons hi he h.1 (ih h.2)

theorem block {steps : List Step} (h : WritesBalanced i ending comment k steps) :
    WritesBalanced i ending comment k (.openBlock :: steps ++ [.closeBlock]) := by
  intro r
  have hlayout : layoutTextBy i ending k (layout comment r (.openBlock :: steps ++ [.closeBlock])) =
      (i (k + r : Nat) ++ "\x7b" ++ ending) ++ layoutTextBy i ending k (layout comment (r + 1) steps) ++
        (i (k + (depthAfter (r + 1) steps - 1) : Nat) ++ "\x7d" ++ ending) := by
    rw [layout_append, Declaration.layoutTextBy_append, layout, Declaration.layoutTextBy_append]
    simp [layout, layoutTextBy, Step.entries, Entry.lineBy, Step.depth]
  rw [hlayout]
  exact .block (hi _) he (h _) (hi _) he

/-- Lines that are balanced together; one by one they need not be. -/
theorem lines {texts : List String} (h : Balanced (String.join texts)) :
    WritesBalanced i ending comment k (texts.map .line) := by
  intro r
  have hlayout : layoutTextBy i ending k (layout comment r (texts.map .line)) =
      String.join (texts.map fun l => i (k + r : Nat) ++ l ++ ending) := by
    rw [layout_map (g := .deep r) (fun _ => rfl) fun _ _ => rfl, layoutTextBy, List.map_map]
    rfl
  rw [hlayout, balanced_iff_climbs]
  exact climbs_framed (hi _) he (h.climbs 0)

end WritesBalanced

end Steps

namespace Declaration.Script

open Steps

section Parts

variable {i : Int → String} {ending comment : String} {k : Nat} (hi : ∀ n, Balanced (i n)) (he : Balanced ending)

include hi he

/-- The body of a method: its lines count together. -/
theorem balanced_body {isInterface : Bool} {m : Method}
    (h : isInterface = false → Balanced (String.join ((m.body.getD []).map Piece.shown))) :
    WritesBalanced i ending comment k (body isInterface m) := by
  unfold body
  cases isInterface with
  | true => exact .nil
  | false =>
    have hlines : WritesBalanced i ending comment k (((m.body.getD []).map Piece.shown).map .line) := .lines hi he (h rfl)
    rw [List.map_map] at hlines
    exact .cons hi he (.require _ _ _) (hlines.block hi he)

theorem balanced_method {isInterface : Bool} {m : Method} (h : ∀ s ∈ m.texts, Balanced s)
    (hbody : isInterface = false → Balanced (String.join ((m.body.getD []).map Piece.shown))) :
    WritesBalanced i ending comment k (method isInterface m) := by
  have hhead : WritesBalanced i ending comment k
      (attributes m.attributes ++ [.member methodTemplate (methodScope isInterface m)]) :=
    .steps hi he (balanced_inherited.methodHeadSteps h isInterface)
  have hmethod := (hhead.append (balanced_body hi he hbody)).append (.cons hi he (.blank .empty) .nil)
  refine .cons hi he (.require _ _ _) (.cons hi he (.require _ _ _) ?_)
  simpa using hmethod

theorem balanced_methods {isInterface : Bool} {ms : Option (List Method)} (h : ∀ m ∈ ms.getD [], ∀ s ∈ m.texts, Balanced s)
    (hbodies : isInterface = false → ∀ m ∈ ms.getD [], Balanced (String.join ((m.body.getD []).map Piece.shown))) :
    WritesBalanced i ending comment k (methods isInterface ms) := by
  unfold methods
  split
  · exact .nil
  · refine .cons hi he (.blank .empty) (.flatMap fun m hm => ?_)
    exact balanced_method hi he (h m hm) fun hf => hbodies hf m hm

theorem balanced_typeAround {d : Declaration} (h : d.HasBalance) {inner : List Step}
    (hinner : WritesBalanced i ending comment k inner) : WritesBalanced i ending comment k (typeAround d inner) := by
  have htexts := h.texts
  simp only [ownTexts, List.forall_mem_append] at htexts
  obtain ⟨⟨⟨⟨-, hattributes⟩, hproperties⟩, hconstants⟩, hmethods⟩ := htexts
  have hfields := (hinner.append (.steps hi he (balanced_inherited.constantSteps hconstants))).append
    (.steps hi he (balanced_inherited.propertySteps hproperties))
  have hmembers := hfields.append
    (balanced_methods hi he (fun m hm s hs => hmethods s (List.mem_flatMap.mpr ⟨m, hm, hs⟩)) h.bodies)
  have htype := (WritesBalanced.steps hi he (balanced_inherited.attributeSteps hattributes)).append
    (.cons hi he (.line (balanced_inherited.headline h.texts)) (hmembers.block hi he))
  simpa [typeAround] using htype

theorem balanced_type {d : Declaration} (h : d.Everywhere HasBalance) : WritesBalanced i ending comment k (type d) := by
  induction d using nested_induction with
  | h d ih =>
    obtain ⟨hd, hnested⟩ := everywhere_iff.mp h
    rw [type_eq]
    refine balanced_typeAround hi he hd (.flatMap fun c hc => ?_)
    refine .cons hi he (.note _) (.append ?_ (.cons hi he (.blank .empty) .nil))
    exact .append (.steps hi he (.requirements c)) (.cons hi he (.blank .empty) (ih c hc (hnested c hc)))

theorem balanced_script {d : Declaration} (h : d.Everywhere HasBalance) (hc : Balanced comment) :
    WritesBalanced i ending comment k d.script := by
  have hrequirements : WritesBalanced i ending comment k (requirements d) := .steps hi he (.requirements d)
  have htype : WritesBalanced i ending comment k (type d) := balanced_type hi he h
  unfold script
  split
  · exact hrequirements.append (.cons hi he (.blank .empty) htype)
  · have hheader : WritesBalanced i ending comment k (fileHeader d) :=
      .steps hi he (balanced_inherited.fileHeaderSteps (everywhere_iff.mp h).1.texts hc)
    have hfile := (hrequirements.append hheader).append (htype.block hi he)
    simpa [freestanding] using hfile

end Parts

end Declaration.Script

namespace Declaration

/-- A declaration that is written has a depth that is not below zero. -/
theorem depth_of_outcome {d : Declaration} {k : Int} {s : Settings} {text : String} (h : (d.render k s).outcome = .ok text) :
    ∃ n : Nat, k = n := by
  refine Int.eq_ofNat_of_zero_le (Int.not_lt.mp fun hk => ?_)
  simp [render_emit, Emitter.start, hk] at h

/-- Writing keeps braces balanced: under settings with balanced texts, a declaration whose texts are balanced at every level is
    written as balanced text, at every depth. The body of a method counts as a whole, and that of an interface not at all. -/
theorem written_text_is_balanced {d : Declaration} {k : Int} {s : Settings} {text : String}
    (hs : ∀ t ∈ s.indent.texts ++ s.lineEnding.texts ++ s.comment.texts, Balanced t) (hd : d.Everywhere HasBalance)
    (h : (d.render k s).outcome = .ok text) : Balanced text := by
  simp only [List.forall_mem_append] at hs
  obtain ⟨⟨hindent, hending⟩, hcomment⟩ := hs
  obtain ⟨i, hi⟩ := indent_of_outcome h
  obtain ⟨n, rfl⟩ := depth_of_outcome h
  rw [outcome_repeats d n hi] at h
  split at h
  · cases h
  · cases h
    exact Script.balanced_script (fun n => Json.balanced_repeated hindent (hi n)) (Json.balanced_shown hending) hd
      (Json.balanced_shown hcomment) 0

def drawer : Declaration where
  name := some "Drawer"
  properties := some [{ name := some "Size", type := some "int" }]

def workshop : Declaration where
  name := some "Workshop"
  «namespace» := some "Tools"
  methods := some [{
    name := some "Run"
    returnType := some "void"
    body := some [some "if (ready) \x7b", some "Start();", some "\x7d"] }]
  innerClasses := some [drawer]

/-- Two lines of the body are not balanced, the whole text is. -/
theorem balanced_text_of_a_workshop :
    ¬ Balanced "if (ready) \x7b" ∧ ¬ Balanced "\x7d" ∧
      ∃ text, (workshop.render 2 {}).outcome = .ok text ∧ Balanced text := by
  have nested : ∀ {P : Declaration → Prop}, P workshop → P drawer → workshop.Everywhere P := by
    intro P hw hd
    refine everywhere_iff.mpr ⟨hw, fun c hc => ?_⟩
    obtain rfl := List.mem_singleton.mp hc
    exact everywhere_iff.mpr ⟨hd, by simp [drawer, nestedIn]⟩
  have htexts : workshop.TextArguments := nested (by simp [workshop, allAttributes]) (by simp [drawer, allAttributes])
  have hwritten : ∃ text, (workshop.render 2 {}).outcome = .ok text :=
    ⟨_, outcome_complete htexts ((lacks_eq_nil workshop).mp rfl) 2 {} "\t" rfl⟩
  have hworkshop : workshop.HasBalance := ⟨by decide, by decide⟩
  have hdrawer : drawer.HasBalance := ⟨by decide, by decide⟩
  obtain ⟨text, htext⟩ := hwritten
  exact ⟨by decide, by decide, text, htext, written_text_is_balanced (by decide) (nested hworkshop hdrawer) htext⟩

end Declaration

end Typewright
