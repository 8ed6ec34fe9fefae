import Typewright.Proofs.WordTexts

/-!
The text of a declaration determines it. Two declarations are written alike exactly when they have the same normal form
(`written_alike_iff`), which forgets what writing does not show: whether an optional collection is missing or empty, the
bodies of an interface, an expression that a property does not use, and the namespace, imports and nesting mark of
declarations that stand inside others (`shape`, `normal`).

That needs texts that cannot be taken for each other. A declaration is `Clean` when its names and types are words, nothing
in it holds a line feed, and all required collections are there; settings are `Separate` when the line ending ends in its
only line feed, the comment has none, and the indent starts with something that no closing brace does.

The lines are read from the top. Whatever comes next, both texts say the same about it:
- a blank line opens a nested type or the methods, which the first header behind it tells (`headline_ne_methodText`);
- a closing brace stands one level further out than any line of the block it closes, so no line of a body is taken for it
  (`line_deeper_ne_close`);
- members end where no further member of the kind can follow (`members_inj`, `methodSection_inj`).

The induction for types is over the nesting, with any lines behind both of them (`typeLines_inj`). Texts come down to lines
since no line holds a line feed (`scriptLines_oneLine`, `layoutText_inj`).

`body_of_braces_is_one_method`: a body whose lines look like the end of its method and the head of another is still told
from two methods.
-/

namespace Typewright

/-! ## Normal forms -/

namespace Declaration

mutual

def shape : Declaration → Declaration
  | ⟨name, _, _, keywords, attributes, implementations, properties, constants, methods, innerClasses, isInterface, _⟩ =>
    ⟨name, some "", some [], keywords, attributes.map (·.map Attribute.filled), implementations,
      some ((properties.getD []).map Property.normal), some (constants.getD []),
      some ((methods.getD []).map (Method.normal isInterface)), some (shapeOption innerClasses), isInterface, false⟩

def shapeOption : Option (List Declaration) → List Declaration
  | none => []
  | some ds => shapeAll ds

def shapeAll : List Declaration → List Declaration
  | [] => []
  | d :: rest => shape d :: shapeAll rest

end

theorem shapeAll_eq (ds : List Declaration) : shapeAll ds = ds.map shape := by
  induction ds with
  | nil => simp [shapeAll]
  | cons d rest ih => simp [shapeAll, ih]

theorem shape_eq (d : Declaration) :
    d.shape = { d with
      «namespace» := some ""
      imports := some []
      attributes := d.attributes.map (·.map Attribute.filled)
      properties := some ((d.properties.getD []).map Property.normal)
      constants := some (d.constants.getD [])
      methods := some ((d.methods.getD []).map (Method.normal d.isInterface))
      innerClasses := some (d.nestedIn.map shape)
      isNested := false } := by
  obtain ⟨_, _, _, _, _, _, _, _, _, innerClasses, _, _⟩ := d
  cases innerClasses with
  | none => simp [shape, shapeOption, nestedIn]
  | some ds => simp [shape, shapeOption, shapeAll_eq, nestedIn]

def normal (d : Declaration) : Declaration :=
  if d.isNested then { d.shape with isNested := true }
  else { d.shape with «namespace» := d.namespace, imports := d.imports }

/-- A declaration of words: all required collections are there, and no text in it can be taken for another. -/
def Clean (d : Declaration) : Prop :=
  d.Everywhere Tidy ∧
    (d.isNested = false → d.namespace.isWord = true ∧ ∀ i ∈ d.imports.getD [], i.isWord = true)

end Declaration

/-! ## Lines -/

/-- The indent can be told from a closing brace. -/
structure Indents (u : String) : Prop where
  noNewline : '\n' ∉ u.toList
  opens : ∃ c cs, u.toList = c :: cs ∧ c ≠ '\x7d'

section Lines

variable {u : String} {k : Nat}

theorem indentation_succ' (u : String) (n : Nat) : indentation u (n + 1) = indentation u n ++ u := by
  induction n with
  | zero => simp [indentation_succ]
  | succ n ih => rw [indentation_succ, ih, ← String.append_assoc, ← indentation_succ, ih]

theorem line_deep_inj {r : Nat} {s t : String} (h : (Entry.deep r s).line u k = (Entry.deep r t).line u k) : s = t :=
  (String.append_right_inj _).mp h

/-- A line of a block is never the brace that closes it. -/
theorem line_deeper_ne_close (hu : Indents u) (r : Nat) (t : String) :
    (Entry.deep (r + 1) t).line u k ≠ (Entry.deep r "\x7d").line u k := by
  intro h
  rw [Entry.line, Entry.line, ← Nat.add_assoc, indentation_succ', String.append_assoc, String.append_right_inj] at h
  obtain ⟨c, cs, hc, hne⟩ := hu.opens
  have h' := String.toList_inj.mpr h
  rw [String.toList_append, hc, List.cons_append] at h'
  exact hne (List.cons.inj h').1

theorem line_ne_blank {r : Nat} {t : String} (ht : t ≠ "") : (Entry.deep r t).line u k ≠ Entry.blank.line u k := by
  intro h
  rw [Entry.line, Entry.line, String.append_eq_empty_iff] at h
  exact ht h.2

theorem map_append_inj {α β γ : Type} {g : α → γ} {value : α → β} {xs ys : List α} {s t : List γ}
    (hitem : ∀ x ∈ xs, ∀ y ∈ ys, g x = g y → value x = value y) (hs : ∀ y ∈ ys, s.head? ≠ some (g y))
    (ht : ∀ x ∈ xs, t.head? ≠ some (g x)) (h : xs.map g ++ s = ys.map g ++ t) :
    xs.map value = ys.map value ∧ s = t := by
  rw [List.map_eq_flatMap, List.map_eq_flatMap] at h
  refine flatMap_inj (fun x hx y hy r r' e => ?_) (fun y hy r e => hs y hy (by rw [e]; rfl))
    (fun x hx r e => ht x hx (by rw [← e]; rfl)) h
  obtain ⟨hg, hr⟩ := List.cons.inj e
  exact ⟨hitem x hx y hy hg, hr⟩

namespace Declaration.Script

open Template.Library

def writtenBefore (u : String) (k : Nat) (es : List Entry) (rest : List String) : List String :=
  es.map (Entry.line u k) ++ rest

theorem writtenBefore_append (es fs : List Entry) (rest : List String) :
    writtenBefore u k (es ++ fs) rest = writtenBefore u k es (writtenBefore u k fs rest) := by
  simp [writtenBefore]

theorem writtenBefore_cons (e : Entry) (es : List Entry) (rest : List String) :
    writtenBefore u k (e :: es) rest = e.line u k :: writtenBefore u k es rest := rfl

theorem writtenBefore_nil (rest : List String) : writtenBefore u k [] rest = rest := rfl

theorem writtenBefore_map {α : Type} (xs : List α) (f : α → Entry) (rest : List String) :
    writtenBefore u k (xs.map f) rest = xs.map (fun x => (f x).line u k) ++ rest := by
  simp [writtenBefore, Function.comp_def]

theorem writtenBefore_flatMap {α : Type} (xs : List α) (f : α → List Entry) (rest : List String) :
    writtenBefore u k (xs.flatMap f) rest = xs.flatMap (fun x => (f x).map (Entry.line u k)) ++ rest := by
  simp [writtenBefore, List.map_flatMap]

/-! ## Methods -/

/-- Attributes are read up to a line that is none. -/
theorem attributes_inj {r : Nat} {as bs : Option (List Attribute)} (ha : ∀ a ∈ as.getD [], a.Clean)
    (hb : ∀ b ∈ bs.getD [], b.Clean) {x y : String} (hx : ∀ a : Attribute, x ≠ a.written)
    (hy : ∀ a : Attribute, y ≠ a.written) {s t : List String}
    (h : writtenBefore u k (attributeLines r as) ((Entry.deep r x).line u k :: s) =
      writtenBefore u k (attributeLines r bs) ((Entry.deep r y).line u k :: t)) :
    (as.getD []).map Attribute.filled = (bs.getD []).map Attribute.filled ∧ x = y ∧ s = t := by
  rw [attributeLines, attributeLines, writtenBefore_map, writtenBefore_map] at h
  have stop : ∀ z : String, (∀ a : Attribute, z ≠ a.written) → ∀ (rest : List String) (a : Attribute),
      ((Entry.deep r z).line u k :: rest).head? ≠ some ((Entry.deep r a.written).line u k) :=
    fun z hz rest a e => hz a (line_deep_inj (Option.some.inj e))
  obtain ⟨hmap, hrest⟩ := map_append_inj
    (fun a hm b hn e => Attribute.written_inj (ha a hm) (hb b hn) (line_deep_inj e)) (fun b _ => stop x hx s b)
    (fun a _ => stop y hy t a) h
  obtain ⟨hxy, hst⟩ := List.cons.inj hrest
  exact ⟨hmap, line_deep_inj hxy, hst⟩

/-- A body is read up to the brace that stands one level further out. -/
theorem body_inj (hu : Indents u) {i : Bool} {r : Nat} {m n : Method} (hm : m.Clean i) (hn : n.Clean i) {s t : List String}
    (h : writtenBefore u k (bodyLines i r m) s = writtenBefore u k (bodyLines i r n) t) :
    (i = false → m.body = n.body) ∧ s = t := by
  cases i with
  | true => exact ⟨fun e => absurd e (by simp), h⟩
  | false =>
    obtain ⟨ls, hls, hl⟩ := hm.body rfl
    obtain ⟨ls', hls', hl'⟩ := hn.body rfl
    simp only [bodyLines, Bool.false_eq_true, if_false, hls, hls', Option.getD_some, List.cons_append, writtenBefore_cons,
      writtenBefore_append, writtenBefore_map, writtenBefore_nil] at h
    have hclose : ∀ x : Piece, ∀ rest : List String, ((Entry.deep r "\x7d").line u k :: rest).head? ≠
        some ((Entry.deep (r + 1) x.shown).line u k) := fun x rest e =>
      line_deeper_ne_close hu r x.shown (Option.some.inj e).symm
    have hshown : ∀ x ∈ ls, ∀ y ∈ ls', (Entry.deep (r + 1) x.shown).line u k = (Entry.deep (r + 1) y.shown).line u k →
        id x = id y := by
      intro x hx y hy e
      obtain ⟨a, rfl, -⟩ := hl x hx
      obtain ⟨b, rfl, -⟩ := hl' y hy
      exact congrArg some (line_deep_inj e)
    obtain ⟨hlines, hrest⟩ := map_append_inj hshown (fun y _ => hclose y s) (fun x _ => hclose x t) (List.cons.inj h).2
    rw [List.map_id, List.map_id] at hlines
    exact ⟨fun _ => by rw [hls, hls', hlines], (List.cons.inj hrest).2⟩

theorem method_inj (hu : Indents u) {i : Bool} {r : Nat} {m n : Method} (hm : m.Clean i) (hn : n.Clean i)
    {s t : List String} (h : writtenBefore u k (methodLines i r m) s = writtenBefore u k (methodLines i r n) t) :
    m.normal i = n.normal i ∧ s = t := by
  simp only [methodLines, List.append_assoc, List.cons_append, writtenBefore_append, writtenBefore_cons,
    writtenBefore_nil] at h
  obtain ⟨hattributes, hheader, hrest⟩ := attributes_inj hm.attributes hn.attributes (methodText_ne_written hm)
    (methodText_ne_written hn) h
  obtain ⟨hkeys, htype, hname, hparameters, hbase⟩ := methodText_inj hm hn hheader
  obtain ⟨hbody, hrest⟩ := body_inj hu hm hn hrest
  refine ⟨?_, (List.cons.inj hrest).2⟩
  have hbody : (if i then some [] else m.body) = if i then some [] else n.body := by
    cases i with
    | true => rfl
    | false => exact hbody rfl
  simp only [Method.normal, Method.filled, hkeys, htype, hname, hparameters, hbase, hattributes, hbody]

/-! ## Members -/

theorem written_ne_empty (a : Attribute) : a.written ≠ "" := by
  intro h
  have h' := String.toList_inj.mpr h
  rw [Attribute.written_chars] at h'
  cases h'

theorem constantText_ne_empty {c : Constant} (h : c.Clean) : constantText c ≠ "" := by
  intro e
  have e' := String.toList_inj.mpr e
  rw [constantText_chars h.present] at e'
  exact List.cons_ne_nil _ _ (List.append_eq_nil_iff.mp e').2

theorem propertyText_ne_empty {p : Property} (h : p.Clean) : propertyText p ≠ "" := by
  intro e
  have e' := String.toList_inj.mpr e
  rw [propertyText_chars h.present] at e'
  exact List.cons_ne_nil _ _ (List.append_eq_nil_iff.mp e').2

theorem methodText_ne_empty (i : Bool) (m : Method) : methodText i m ≠ "" := by
  intro e
  have e' := String.toList_inj.mpr e
  rw [methodText_chars] at e'
  exact List.cons_ne_nil _ _ (List.append_eq_nil_iff.mp e').2

/-- Attributes and the header behind them start with a line at their depth. -/
theorem header_head {r : Nat} (as : Option (List Attribute)) {x : String} (hx : x ≠ "") (s : List String) :
    ∃ text, text ≠ "" ∧ (writtenBefore u k (attributeLines r as) ((Entry.deep r x).line u k :: s)).head? =
      some ((Entry.deep r text).line u k) := by
  rw [attributeLines]
  cases as.getD [] with
  | nil => exact ⟨x, hx, rfl⟩
  | cons a rest => exact ⟨a.written, written_ne_empty a, rfl⟩

theorem methodSection_inj (hu : Indents u) {i : Bool} {r : Nat} {ms ns : Option (List Method)}
    (hm : ∀ m ∈ ms.getD [], m.Clean i) (hn : ∀ n ∈ ns.getD [], n.Clean i) {s t : List String}
    (h : writtenBefore u k (methodSection i (r + 1) ms) ((Entry.deep r "\x7d").line u k :: s) =
      writtenBefore u k (methodSection i (r + 1) ns) ((Entry.deep r "\x7d").line u k :: t)) :
    (ms.getD []).map (Method.normal i) = (ns.getD []).map (Method.normal i) ∧ s = t := by
  have hblank : (Entry.deep r "\x7d").line u k ≠ Entry.blank.line u k := line_ne_blank (by decide)
  -- the closing brace starts no method
  have hclose : ∀ m : Method, m.Clean i → ∀ rest tail : List String,
      (Entry.deep r "\x7d").line u k :: rest ≠ (methodLines i (r + 1) m).map (Entry.line u k) ++ tail := by
    intro m hmc rest tail e
    change _ = writtenBefore u k (methodLines i (r + 1) m) tail at e
    simp only [methodLines, List.append_assoc, List.cons_append, writtenBefore_append, writtenBefore_cons] at e
    obtain ⟨text, -, htext⟩ := header_head m.attributes (methodText_ne_empty i m) (u := u) (k := k) (r := r + 1)
      (writtenBefore u k (bodyLines i (r + 1) m) (Entry.blank.line u k :: writtenBefore u k [] tail))
    rw [← e] at htext
    exact line_deeper_ne_close hu r text (Option.some.inj htext).symm
  unfold methodSection at h
  cases hms : ms.getD [] with
  | nil =>
    cases hns : ns.getD [] with
    | nil =>
      rw [hms, hns] at h
      exact ⟨rfl, (List.cons.inj h).2⟩
    | cons n rest =>
      rw [hms, hns] at h
      exact absurd (List.cons.inj h).1 hblank
  | cons m rest =>
    cases hns : ns.getD [] with
    | nil =>
      rw [hms, hns] at h
      exact absurd (List.cons.inj h).1.symm hblank
    | cons n rest' =>
      rw [hms] at hm
      rw [hns] at hn
      simp only [hms, hns, writtenBefore_cons, writtenBefore_flatMap] at h
      obtain ⟨hmap, hrest⟩ := flatMap_inj (fun x hx y hy a b e => method_inj hu (hm x hx) (hn y hy) e)
        (fun y hy tail => hclose y (hn y hy) s tail) (fun x hx tail e => hclose x (hm x hx) t tail e.symm) (List.cons.inj h).2
      exact ⟨hmap, (List.cons.inj hrest).2⟩

/-- Behind the constants and properties comes a blank line or a closing brace. -/
theorem methodSection_head (hu : Indents u) {i : Bool} {r : Nat} (ms : Option (List Method)) {text : String}
    (ht : text ≠ "") (s : List String) :
    (writtenBefore u k (methodSection i (r + 1) ms) ((Entry.deep r "\x7d").line u k :: s)).head? ≠
      some ((Entry.deep (r + 1) text).line u k) := by
  intro e
  unfold methodSection at e
  cases hms : ms.getD [] with
  | nil =>
    rw [hms] at e
    exact line_deeper_ne_close hu r text (Option.some.inj e).symm
  | cons m rest =>
    rw [hms] at e
    exact line_ne_blank ht (Option.some.inj e).symm

def memberLines (r : Nat) (d : Declaration) : List Entry :=
  constantLines (r + 1) d.constants ++ (propertyLines (r + 1) d.properties ++
    (methodSection d.isInterface (r + 1) d.methods ++ [.deep r "\x7d"]))

theorem members_inj (hu : Indents u) {r : Nat} {d e : Declaration} (hd : d.Tidy) (he : e.Tidy)
    (hi : d.isInterface = e.isInterface) {s t : List String}
    (h : writtenBefore u k (memberLines r d) s = writtenBefore u k (memberLines r e) t) :
    d.constants.getD [] = e.constants.getD [] ∧
      (d.properties.getD []).map Property.normal = (e.properties.getD []).map Property.normal ∧
      (d.methods.getD []).map (Method.normal d.isInterface) = (e.methods.getD []).map (Method.normal e.isInterface) ∧
      s = t := by
  simp only [memberLines, writtenBefore_append, writtenBefore_cons, writtenBefore_nil, constantLines, propertyLines,
    writtenBefore_map] at h
  -- a property or what follows the properties is no constant
  have noConstant : ∀ (x : Declaration), x.Tidy → ∀ (c : Constant), c.Clean → ∀ rest : List String,
      (((x.properties.getD []).map fun p => (Entry.deep (r + 1) (propertyText p)).line u k) ++
        writtenBefore u k (methodSection x.isInterface (r + 1) x.methods) ((Entry.deep r "\x7d").line u k :: rest)).head? ≠
        some ((Entry.deep (r + 1) (constantText c)).line u k) := by
    intro x hx c hc rest e
    cases hp : x.properties.getD [] with
    | nil =>
      rw [hp] at e
      exact methodSection_head hu x.methods (constantText_ne_empty hc) rest e
    | cons p ps =>
      rw [hp] at e
      have hpc : p.Clean := hx.properties p (by simp [hp])
      exact constantText_ne_propertyText hc hpc (line_deep_inj (Option.some.inj e)).symm
  obtain ⟨hconstants, h⟩ := map_append_inj
    (fun c hc c' hc' e => show id c = id c' from
      constantText_inj (hd.constants c hc) (he.constants c' hc') (line_deep_inj e))
    (fun c hc => noConstant d hd c (he.constants c hc) s) (fun c hc => noConstant e he c (hd.constants c hc) t) h
  rw [List.map_id, List.map_id] at hconstants
  obtain ⟨hproperties, h⟩ := map_append_inj
    (fun p hp p' hp' e => propertyText_inj (hd.properties p hp) (he.properties p' hp') (line_deep_inj e))
    (fun p hp => methodSection_head hu d.methods (propertyText_ne_empty (he.properties p hp)) s)
    (fun p hp => methodSection_head hu e.methods (propertyText_ne_empty (hd.properties p hp)) t) h
  have hmethods := he.methods
  rw [← hi] at h hmethods ⊢
  obtain ⟨hmethods, hst⟩ := methodSection_inj hu hd.methods hmethods h
  exact ⟨hconstants, hproperties, hmethods, hst⟩

/-! ## Types -/

theorem Tidy.textArguments {d : Declaration} (h : d.Everywhere Tidy) : d.TextArguments := by
  have texts : ∀ {a : Attribute}, a.Clean → a.HasTexts := by
    rintro a ha x hx rfl
    exact absurd (ha.arguments none hx) (by simp [Piece.isWord])
  intro c hc a ha
  have htidy := h c hc
  rcases List.mem_append.mp ha with ha | ha
  · obtain ⟨as, has, hclean⟩ := htidy.attributes
    rw [has] at ha
    exact texts (hclean a ha)
  · obtain ⟨m, hm, ha⟩ := List.mem_flatMap.mp ha
    exact texts ((htidy.methods m hm).attributes a ha)

theorem headline_ne_empty {d : Declaration} (h : d.Tidy) : headline d ≠ "" := by
  intro e
  have e' := String.toList_inj.mpr e
  obtain ⟨w, ws, hw⟩ : ∃ w ws, headlineWords d = w :: ws := List.exists_cons_of_ne_nil (by simp [headlineWords])
  obtain ⟨c, cs, hc, -⟩ := @joined_head ' ' w (headlineWords_words h w (by simp [hw])) ws
  rw [headline_chars, hw, hc] at e'
  cases e'

def innerLines (r : Nat) (d : Declaration) : List Entry := .blank :: typeLines r d ++ [.blank]

/-- The lines of a type: attributes, header and brace, nested declarations, members. -/
theorem writtenBefore_type {d : Declaration} (h : d.Everywhere Tidy) (r : Nat) (s : List String) :
    writtenBefore u k (typeLines r d) s = writtenBefore u k (attributeLines r d.attributes)
      ((Entry.deep r (headline d)).line u k :: (Entry.deep r "\x7b").line u k ::
        writtenBefore u k (d.nestedIn.flatMap (innerLines (r + 1))) (writtenBefore u k (memberLines r d) s)) := by
  rw [typeLines_eq (Tidy.textArguments h)]
  simp only [linesAround, memberLines, List.append_assoc, List.cons_append, writtenBefore_append, writtenBefore_cons]
  rfl

/-- A blank line before the methods is not one before a nested type. -/
theorem members_ne_inner {r : Nat} {d c : Declaration} (hd : d.Tidy) (hc : c.Everywhere Tidy)
    (s t : List String) :
    writtenBefore u k (memberLines r d) s ≠ writtenBefore u k (innerLines (r + 1) c) t := by
  intro h
  have htidy := (everywhere_iff.mp hc).1
  simp only [innerLines, memberLines, List.cons_append, writtenBefore_cons, writtenBefore_append, writtenBefore_nil,
    constantLines, propertyLines, writtenBefore_map] at h
  cases hcs : d.constants.getD [] with
  | cons x xs =>
    rw [hcs] at h
    exact line_ne_blank (constantText_ne_empty (hd.constants x (by simp [hcs]))) (List.cons.inj h).1
  | nil =>
    cases hps : d.properties.getD [] with
    | cons x xs =>
      rw [hcs, hps] at h
      exact line_ne_blank (propertyText_ne_empty (hd.properties x (by simp [hps]))) (List.cons.inj h).1
    | nil =>
      rw [hcs, hps, List.map_nil, List.map_nil, List.nil_append, List.nil_append, methodSection] at h
      cases hms : d.methods.getD [] with
      | nil =>
        rw [hms] at h
        exact line_ne_blank (by decide) (List.cons.inj h).1
      | cons m ms =>
        have hm : m.Clean d.isInterface := hd.methods m (by simp [hms])
        obtain ⟨as, has, hclean⟩ := htidy.attributes
        simp only [hms, List.flatMap_cons, methodLines, writtenBefore_cons, writtenBefore_append, List.append_assoc,
          List.cons_append] at h
        rw [writtenBefore_type hc] at h
        obtain ⟨-, hheader, -⟩ := attributes_inj hm.attributes (by rw [has]; exact hclean) (methodText_ne_written hm)
          (headline_ne_written htidy) (List.cons.inj h).2
        exact headline_ne_methodText htidy hm hheader.symm

/-- The lines of a type determine its shape, and where they end. -/
theorem typeLines_inj (hu : Indents u) {r : Nat} {d e : Declaration} (hd : d.Everywhere Tidy) (he : e.Everywhere Tidy)
    {s t : List String} (h : writtenBefore u k (typeLines r d) s = writtenBefore u k (typeLines r e) t) :
    d.shape = e.shape ∧ s = t := by
  induction d using nested_induction generalizing e r s t with
  | h d ih =>
    obtain ⟨td, nd⟩ := everywhere_iff.mp hd
    obtain ⟨te, ne⟩ := everywhere_iff.mp he
    obtain ⟨as, has, ha⟩ := td.attributes
    obtain ⟨bs, hbs, hb⟩ := te.attributes
    rw [writtenBefore_type hd, writtenBefore_type he] at h
    obtain ⟨hattributes, hheader, h⟩ := attributes_inj (by rw [has]; exact ha) (by rw [hbs]; exact hb)
      (headline_ne_written td) (headline_ne_written te) h
    obtain ⟨hkeys, hkind, hname, himpl⟩ := headline_inj td te hheader
    -- every nested declaration is read by the induction hypothesis
    have inner : ∀ c ∈ d.nestedIn, ∀ c' ∈ e.nestedIn, ∀ x y,
        (innerLines (r + 1) c).map (Entry.line u k) ++ x = (innerLines (r + 1) c').map (Entry.line u k) ++ y →
        c.shape = c'.shape ∧ x = y := by
      intro c hc c' hc' x y hxy
      change writtenBefore u k _ _ = writtenBefore u k _ _ at hxy
      simp only [innerLines, List.cons_append, writtenBefore_cons, writtenBefore_append, writtenBefore_nil] at hxy
      obtain ⟨hshape, hrest⟩ := ih c hc (nd c hc) (ne c' hc') (List.cons.inj hxy).2
      exact ⟨hshape, (List.cons.inj hrest).2⟩
    have h := (List.cons.inj h).2
    rw [writtenBefore_flatMap, writtenBefore_flatMap] at h
    obtain ⟨hnested, h⟩ := flatMap_inj inner (fun c hc x => members_ne_inner td (ne c hc) s x)
      (fun c hc x e => members_ne_inner te (nd c hc) t x e.symm) h
    obtain ⟨hconstants, hproperties, hmethods, hst⟩ := members_inj hu td te hkind h
    rw [has, hbs, Option.getD_some, Option.getD_some] at hattributes
    rw [hkind] at hmethods
    refine ⟨?_, hst⟩
    rw [shape_eq d, shape_eq e]
    simp only [hname, hkeys, hkind, himpl, has, hbs, Option.map_some, hattributes, hproperties, hconstants, hmethods, hnested]

/-! ## Files -/

/-- The head of a file determines the imports and the namespace. -/
theorem head_inj {comment : String} {d e : Declaration} {is js : List Piece} (hi : d.imports = some is)
    (hj : e.imports = some js) (hd : d.namespace.isWord = true) (he : e.namespace.isWord = true)
    (wi : ∀ i ∈ is, i.isWord = true) (wj : ∀ j ∈ js, j.isWord = true) {s t : List String}
    (h : writtenBefore u k (headLines comment d) s = writtenBefore u k (headLines comment e) t) :
    d.imports = e.imports ∧ d.namespace = e.namespace ∧ s = t := by
  have namespaces : ∀ {x y : List String}, ("namespace " ++ d.namespace.shown) :: x = ("namespace " ++ e.namespace.shown) :: y →
      d.namespace = e.namespace ∧ x = y := by
    intro x y hxy
    obtain ⟨hn, hrest⟩ := List.cons.inj hxy
    exact ⟨Piece.shown_inj hd he ((String.append_right_inj _).mp hn), hrest⟩
  have usings : ∀ x y : String, "namespace " ++ x ≠ "using " ++ y ++ ";" := by
    intro x y hxy
    have hxy := String.toList_inj.mpr hxy
    simp at hxy
  unfold headLines at h
  rw [hi, hj, Option.getD_some, Option.getD_some] at h
  cases is with
  | nil =>
    cases js with
    | nil =>
      obtain ⟨hn, hst⟩ := namespaces (List.cons.inj (List.cons.inj h).2).2
      exact ⟨by rw [hi, hj], hn, hst⟩
    | cons j js => exact absurd (List.cons.inj (List.cons.inj (List.cons.inj h).2).2).1 (usings _ _)
  | cons i is =>
    cases js with
    | nil => exact absurd (List.cons.inj (List.cons.inj (List.cons.inj h).2).2).1.symm (usings _ _)
    | cons j js =>
      simp only [List.cons_append, List.append_assoc, writtenBefore_cons, writtenBefore_append, writtenBefore_map,
        writtenBefore_nil] at h
      have same : ∀ x ∈ i :: is, ∀ y ∈ j :: js, (Entry.flush ("using " ++ x.shown ++ ";")).line u k =
          (Entry.flush ("using " ++ y.shown ++ ";")).line u k → id x = id y := by
        intro x hx y hy hxy
        rw [Entry.line, Entry.line, String.append_left_inj, String.append_right_inj] at hxy
        exact Piece.shown_inj (wi x hx) (wj y hy) hxy
      have stop : ∀ (x : Piece) (rest : List String),
          (Entry.blank.line u k :: rest).head? ≠ some ((Entry.flush ("using " ++ x.shown ++ ";")).line u k) := by
        intro x rest hx
        have hx := String.toList_inj.mpr (Option.some.inj hx)
        simp [Entry.line] at hx
      obtain ⟨hlist, hrest⟩ := map_append_inj same (fun y _ => stop y _) (fun x _ => stop x _)
        (List.cons.inj (List.cons.inj h).2).2
      rw [List.map_id, List.map_id] at hlist
      obtain ⟨hn, hst⟩ := namespaces (List.cons.inj hrest).2
      exact ⟨by rw [hi, hj, hlist], hn, hst⟩

/-- The lines of a declaration determine its normal form. -/
theorem scriptLines_inj (hu : Indents u) {comment : String} {d e : Declaration} (hd : d.Clean) (he : e.Clean)
    (h : (scriptLines comment d).map (Entry.line u k) = (scriptLines comment e).map (Entry.line u k)) :
    d.normal = e.normal := by
  have hd' := (everywhere_iff.mp hd.1).1
  have he' := (everywhere_iff.mp he.1).1
  -- inside another declaration the second line is not blank, in a file of its own it is
  have apart : ∀ {x y : Declaration}, x.Clean → x.isNested = true → y.isNested = false →
      (scriptLines comment x).map (Entry.line u k) ≠ (scriptLines comment y).map (Entry.line u k) := by
    intro x y hx hxn hyn hxy
    have hx' := (everywhere_iff.mp hx.1).1
    rw [scriptLines, scriptLines, hxn, hyn, if_pos rfl, if_neg (by simp), headLines] at hxy
    have hsecond := (List.cons.inj hxy).2
    have hwritten := @writtenBefore_type u k x hx.1 0 []
    rw [writtenBefore, List.append_nil] at hwritten
    obtain ⟨text, htext, hhead⟩ := header_head x.attributes (headline_ne_empty hx') (u := u) (k := k) (r := 0)
      ((Entry.deep 0 "\x7b").line u k ::
        writtenBefore u k (x.nestedIn.flatMap (innerLines 1)) (writtenBefore u k (memberLines 0 x) []))
    rw [← hwritten, hsecond] at hhead
    exact line_ne_blank htext (Option.some.inj hhead).symm
  cases hdn : d.isNested with
  | true =>
    cases hen : e.isNested with
    | true =>
      rw [scriptLines, scriptLines, hdn, hen, if_pos rfl, if_pos rfl] at h
      have h := congrArg (· ++ []) (List.cons.inj h).2
      obtain ⟨hshape, -⟩ := typeLines_inj hu hd.1 he.1 h
      rw [normal, normal, hdn, hen, if_pos rfl, if_pos rfl, hshape]
    | false => exact absurd h (apart hd hdn hen)
  | false =>
    cases hen : e.isNested with
    | true => exact absurd h.symm (apart he hen hdn)
    | false =>
      obtain ⟨hns, his⟩ := hd.2 hdn
      obtain ⟨hns', hjs⟩ := he.2 hen
      obtain ⟨is, hi⟩ := Option.ne_none_iff_exists'.mp hd'.imports
      obtain ⟨js, hj⟩ := Option.ne_none_iff_exists'.mp he'.imports
      rw [hi, Option.getD_some] at his
      rw [hj, Option.getD_some] at hjs
      rw [scriptLines, scriptLines, hdn, hen, if_neg (by simp), if_neg (by simp)] at h
      have h := congrArg (· ++ []) h
      change writtenBefore u k _ [] = writtenBefore u k _ [] at h
      simp only [List.append_assoc, List.cons_append, writtenBefore_append, writtenBefore_cons] at h
      obtain ⟨himports, hnamespace, h⟩ := head_inj hi hj hns hns' his hjs h
      obtain ⟨hshape, -⟩ := typeLines_inj hu hd.1 he.1 (List.cons.inj h).2
      rw [normal, normal, hdn, hen, if_neg (by simp), if_neg (by simp), hshape, himports, hnamespace]

/-! ## From lines to text -/

/-- A text is cut into its lines at the line feeds. -/
theorem layoutText_inj {ending : String} {before : List Char} (he : ending.toList = before ++ ['\n']) (hb : '\n' ∉ before)
    {es fs : List Entry} (hes : ∀ e ∈ es, '\n' ∉ (e.line u k).toList) (hfs : ∀ f ∈ fs, '\n' ∉ (f.line u k).toList)
    (h : layoutText u ending k es = layoutText u ending k fs) : es.map (Entry.line u k) = fs.map (Entry.line u k) := by
  have chars : ∀ xs : List Entry, (layoutText u ending k xs).toList =
      xs.flatMap fun e => ((e.line u k).toList ++ before) ++ ['\n'] := by
    intro xs
    simp [toList_layoutText, he]
  have inside : ∀ {l : List Char}, '\n' ∉ l → ∀ c ∈ l ++ before, (c != '\n') = true := by
    intro l hl c hc
    rw [bne_iff_ne]
    rintro rfl
    rcases List.mem_append.mp hc with hc | hc
    · exact hl hc
    · exact hb hc
  have ends : ∀ r : List Char, ∀ c ∈ ('\n' :: r).head?, (c != '\n') = false := by
    intro r c hc
    rw [List.head?_cons, Option.mem_some] at hc
    simp [← hc]
  have h' := String.toList_inj.mpr h
  rw [chars, chars, ← List.append_nil (es.flatMap _), ← List.append_nil (fs.flatMap _)] at h'
  refine (flatMap_inj (fun x hx y hy r s hxy => ?_) (fun y _ t ht => ?_) (fun x _ t ht => ?_) h').1
  · rw [List.append_assoc (_ ++ before), List.append_assoc (_ ++ before)] at hxy
    obtain ⟨hline, hrest⟩ := span_inj (inside (hes x hx)) (inside (hfs y hy)) (ends r) (ends s) hxy
    exact ⟨String.toList_inj.mp (List.append_cancel_right hline), (List.cons.inj hrest).2⟩
  · simp at ht
  · simp at ht

def OneLine : Entry → Prop
  | .blank => True
  | .flush text => '\n' ∉ text.toList
  | .deep _ text => '\n' ∉ text.toList

theorem line_no_newline (hu : '\n' ∉ u.toList) {e : Entry} (h : OneLine e) : '\n' ∉ (e.line u k).toList := by
  cases e with
  | blank => simp [Entry.line]
  | flush text => exact h
  | deep r text =>
    rw [Entry.line, String.toList_append, List.mem_append]
    rintro (hm | hm)
    · exact hu (mem_indentation.mp hm).2
    · exact h hm

theorem joined_no_newline {sep : Char} (hsep : sep ≠ '\n') {ws : List String} (hw : ∀ w ∈ ws, isWord w = true) :
    '\n' ∉ joined sep ws := by
  induction ws with
  | nil => simp [joined]
  | cons w ws ih =>
    have hfirst := isWord.no_newline (hw w (by simp))
    cases ws with
    | nil => rwa [joined_one]
    | cons v ws =>
      rw [joined_cons, List.mem_append, List.mem_cons]
      rintro (hm | hm | hm)
      · exact hfirst hm
      · exact hsep hm.symm
      · exact ih (fun v hv => hw v (by simp [hv])) hm

theorem written_oneLine {a : Attribute} (h : a.Clean) : '\n' ∉ a.written.toList := by
  have hname := isWord.no_newline (Piece.isWord.shown h.name).2
  have hargs := @joined_no_newline ',' (by decide) _ (Piece.words h.arguments)
  rw [Attribute.written_chars]
  split <;> simp [hname, hargs]

theorem constantText_oneLine {c : Constant} (h : c.Clean) : '\n' ∉ (constantText c).toList := by
  obtain ⟨v, hv, hword⟩ := Json.isWord.text h.value
  have hvalue : '\n' ∉ (printed c.value).toList := by
    rw [hv]
    exact isWord.no_newline hword
  rw [constantText_chars h.present]
  simp [hvalue, @joined_no_newline ' ' (by decide) _ (constantWords_words h)]

theorem propertyText_oneLine {p : Property} (h : p.Clean) : '\n' ∉ (propertyText p).toList := by
  have hget : '\n' ∉ "\x7b get; set; \x7d".toList := by decide
  have hwords := @joined_no_newline ' ' (by decide) _ (propertyWords_words h)
  rw [propertyText_chars h.present]
  split
  · rename_i hb
    obtain ⟨v, hv, hword⟩ := Json.isWord.text (h.expression hb)
    have hvalue : '\n' ∉ (printed p.expression).toList := by
      rw [hv]
      exact isWord.no_newline hword
    simp [hwords, hvalue]
  · rw [List.mem_append, List.mem_cons]
    rintro (hm | hm | hm)
    · exact hwords hm
    · exact absurd hm (by decide)
    · exact hget hm

theorem parameterChars_no_newline {ps : List Parameter} (h : ∀ p ∈ ps, p.Clean) {rest : List Char} (hr : '\n' ∉ rest) :
    '\n' ∉ parameterChars ps rest := by
  induction ps with
  | nil => simpa [parameterChars] using hr
  | cons p ps ih =>
    have hwords := @joined_no_newline ' ' (by decide) _ (parameterWords_words (h p (by simp)))
    have ih := ih fun q hq => h q (by simp [hq])
    rw [parameterChars_cons]
    split <;> simp [hwords, hr, ih]

theorem methodText_oneLine {i : Bool} {m : Method} (h : m.Clean i) : '\n' ∉ (methodText i m).toList := by
  obtain ⟨ps, hps, hp⟩ := h.parameters
  have hend : '\n' ∉ headerEnd i := by cases i <;> decide
  have hbase : '\n' ∉ baseChars (m.baseArguments.getD []) (headerEnd i) := by
    have hargs := @joined_no_newline ',' (by decide) _ (Piece.words h.baseArguments)
    have hcall : '\n' ∉ ": base(".toList := by decide
    unfold baseChars
    split
    · exact hend
    · simp only [List.mem_cons, List.mem_append, not_or]
      exact ⟨by decide, hcall, hargs, by decide, hend⟩
  have hparameters := parameterChars_no_newline hp hbase
  rw [methodText_chars, hps, Option.getD_some]
  simp [@joined_no_newline ' ' (by decide) _ (signatureWords_words h), hparameters]

theorem headline_oneLine {d : Declaration} (h : d.Tidy) : '\n' ∉ (headline d).toList := by
  have hwords := @joined_no_newline ' ' (by decide) _ (headlineWords_words h)
  have himpl := h.implementations
  rw [headline_chars, derivation, List.mem_append]
  rintro (hm | hm)
  · exact hwords hm
  · cases hi : d.implementations with
    | none => simp [hi] at hm
    | some i =>
      rw [hi] at hm himpl
      simp [himpl i rfl] at hm

theorem attributeLines_oneLine {r : Nat} {as : Option (List Attribute)} (h : ∀ a ∈ as.getD [], a.Clean) :
    ∀ e ∈ attributeLines r as, OneLine e := by
  intro e he
  obtain ⟨a, ha, rfl⟩ := List.mem_map.mp he
  exact written_oneLine (h a ha)

theorem methodLines_oneLine {i : Bool} {r : Nat} {m : Method} (h : m.Clean i) : ∀ e ∈ methodLines i r m, OneLine e := by
  have hbody : ∀ e ∈ bodyLines i r m, OneLine e := by
    intro e he
    unfold bodyLines at he
    cases i with
    | true => cases he
    | false =>
      obtain ⟨ls, hls, hl⟩ := h.body rfl
      rw [if_neg (by simp), hls, Option.getD_some, List.mem_append, List.mem_cons] at he
      rcases he with (rfl | he) | he
      · simp [OneLine]
      · obtain ⟨l, hmem, rfl⟩ := List.mem_map.mp he
        obtain ⟨text, rfl, htext⟩ := hl l hmem
        exact htext
      · rw [List.mem_singleton] at he
        simp [he, OneLine]
  intro e he
  rw [methodLines, List.mem_append, List.mem_append, List.mem_cons] at he
  rcases he with (he | rfl | he) | he
  · exact attributeLines_oneLine h.attributes e he
  · exact methodText_oneLine h
  · exact hbody e he
  · rw [List.mem_singleton] at he
    rw [he]
    trivial

theorem typeLines_oneLine {d : Declaration} (h : d.Everywhere Tidy) (r : Nat) : ∀ e ∈ typeLines r d, OneLine e := by
  induction d using nested_induction generalizing r with
  | h d ih =>
    obtain ⟨hd, hn⟩ := everywhere_iff.mp h
    obtain ⟨as, has, ha⟩ := hd.attributes
    have hattributes : ∀ a ∈ d.attributes.getD [], a.Clean := by rw [has]; exact ha
    have hbrace : OneLine (.deep r "\x7b") ∧ OneLine (.deep r "\x7d") := by simp [OneLine]
    have hmethods : ∀ e ∈ methodSection d.isInterface (r + 1) d.methods, OneLine e := by
      intro e he
      unfold methodSection at he
      cases hms : d.methods.getD [] with
      | nil =>
        rw [hms] at he
        cases he
      | cons m ms =>
        simp only [hms, List.mem_cons, List.mem_flatMap] at he
        rcases he with rfl | ⟨n, hmem, he⟩
        · trivial
        · exact methodLines_oneLine (hd.methods n (by rw [hms]; exact List.mem_cons.mpr hmem)) e he
    intro e he
    rw [typeLines_eq (Tidy.textArguments h)] at he
    simp only [linesAround, List.mem_append, List.mem_cons, List.mem_flatMap, List.not_mem_nil, or_false] at he
    rcases he with ((((he | rfl | rfl | ⟨c, hc, (rfl | he) | rfl⟩) | he) | he) | he) | rfl
    · exact attributeLines_oneLine hattributes e he
    · exact headline_oneLine hd
    · exact hbrace.1
    · trivial
    · exact ih c hc (hn c hc) (r + 1) e he
    · trivial
    · obtain ⟨c, hc, rfl⟩ := List.mem_map.mp he
      exact constantText_oneLine (hd.constants c hc)
    · obtain ⟨p, hp, rfl⟩ := List.mem_map.mp he
      exact propertyText_oneLine (hd.properties p hp)
    · exact hmethods e he
    · exact hbrace.2

theorem scriptLines_oneLine {comment : String} (hc : '\n' ∉ comment.toList) {d : Declaration} (h : d.Clean) :
    ∀ e ∈ scriptLines comment d, OneLine e := by
  intro e he
  unfold scriptLines at he
  cases hn : d.isNested with
  | true =>
    rw [hn, if_pos rfl, List.mem_cons] at he
    rcases he with rfl | he
    · trivial
    · exact typeLines_oneLine h.1 0 e he
  | false =>
    obtain ⟨hnamespace, himports⟩ := h.2 hn
    have hns := isWord.no_newline (Piece.isWord.shown hnamespace).2
    have hhead : ∀ e ∈ headLines comment d, OneLine e := by
      intro e he
      unfold headLines at he
      cases hi : d.imports.getD [] with
      | nil =>
        simp only [hi, List.mem_append, List.mem_cons, List.not_mem_nil, or_false] at he
        rcases he with (rfl | rfl) | rfl
        · exact hc
        · trivial
        · simp [OneLine, hns]
      | cons i is =>
        simp only [hi, List.mem_append, List.mem_cons, List.not_mem_nil, or_false, List.mem_map] at he
        rcases he with (rfl | rfl | ⟨j, hj, rfl⟩ | rfl) | rfl
        · exact hc
        · trivial
        · have hj := isWord.no_newline (Piece.isWord.shown (himports j (by rw [hi]; exact List.mem_cons.mpr hj))).2
          simp [OneLine, hj]
        · trivial
        · simp [OneLine, hns]
    simp only [hn, Bool.false_eq_true, if_false, List.mem_append, List.mem_cons, List.not_mem_nil, or_false] at he
    rcases he with (he | rfl | he) | rfl
    · exact hhead e he
    · simp [OneLine]
    · exact typeLines_oneLine h.1 1 e he
    · simp [OneLine]

/-! ## The lines show no more than the normal form -/

theorem flatMap_of_map {α β γ : Type} {value : α → β} {f : α → List γ} {xs ys : List α}
    (hf : ∀ x ∈ xs, ∀ y ∈ ys, value x = value y → f x = f y) (h : xs.map value = ys.map value) :
    xs.flatMap f = ys.flatMap f := by
  induction xs generalizing ys with
  | nil =>
    cases ys with
    | nil => rfl
    | cons y ys => cases h
  | cons x xs ih =>
    cases ys with
    | nil => cases h
    | cons y ys =>
      obtain ⟨hxy, hrest⟩ := List.cons.inj h
      rw [List.flatMap_cons, List.flatMap_cons, hf x (by simp) y (by simp) hxy,
        ih (fun x hx y hy => hf x (by simp [hx]) y (by simp [hy])) hrest]

theorem attributeLines_filled (r : Nat) (as : Option (List Attribute)) :
    attributeLines r as = ((as.getD []).map Attribute.filled).map fun a => .deep r a.written := by
  rw [List.map_map]
  rfl

theorem propertyLines_normal (r : Nat) (ps : Option (List Property)) :
    propertyLines r ps = ((ps.getD []).map Property.normal).map fun p => .deep r (propertyText p) := by
  rw [List.map_map]
  refine List.map_congr_left fun p _ => ?_
  obtain ⟨n, t, a, b, e⟩ := p
  cases b <;> rfl

theorem methodLines_normal (i : Bool) (r : Nat) (m : Method) : methodLines i r (m.normal i) = methodLines i r m := by
  have hattributes : attributeLines r (m.normal i).attributes = attributeLines r m.attributes := by
    rw [attributeLines_filled r m.attributes]
    rfl
  have hbody : bodyLines i r (m.normal i) = bodyLines i r m := by cases i <;> rfl
  rw [methodLines, methodLines, hattributes, hbody]
  rfl

theorem methodSection_normal (i : Bool) (r : Nat) (ms : Option (List Method)) :
    methodSection i r (some ((ms.getD []).map (Method.normal i))) = methodSection i r ms := by
  unfold methodSection
  cases ms.getD [] with
  | nil => rfl
  | cons m ms =>
    have h : ((m :: ms).map (Method.normal i)).flatMap (methodLines i r) = (m :: ms).flatMap (methodLines i r) := by
      rw [List.flatMap_map]
      exact List.flatMap_congr fun n _ => methodLines_normal i r n
    exact congrArg (Entry.blank :: ·) h

/-- Types of one shape have the same lines. -/
theorem typeLines_of_shape {d e : Declaration} (hd : d.TextArguments) (he : e.TextArguments) (h : d.shape = e.shape)
    (r : Nat) : typeLines r d = typeLines r e := by
  induction d using nested_induction generalizing e r with
  | h d ih =>
    have hn := (everywhere_iff.mp hd).2
    have hn' := (everywhere_iff.mp he).2
    have h' := h
    rw [shape_eq d, shape_eq e] at h'
    simp only [Declaration.mk.injEq, Option.some.injEq, true_and, and_true] at h'
    obtain ⟨hname, hkeys, hattributes, himpl, hproperties, hconstants, hmethods, hnested, hkind⟩ := h'
    have hinner : d.nestedIn.flatMap (fun c => .blank :: typeLines (r + 1) c ++ [.blank]) =
        e.nestedIn.flatMap fun c => .blank :: typeLines (r + 1) c ++ [.blank] :=
      flatMap_of_map (fun c hc c' hc' hs => by rw [ih c hc (hn c hc) (hn' c' hc') hs]) hnested
    have hattributes' : (d.attributes.getD []).map Attribute.filled = (e.attributes.getD []).map Attribute.filled := by
      cases ha : d.attributes <;> cases hb : e.attributes <;> simp_all
    have hheader : headline d = headline e := by simp only [headline, kindWord, hkeys, hkind, hname, himpl]
    have hsection : methodSection d.isInterface (r + 1) d.methods = methodSection e.isInterface (r + 1) e.methods := by
      rw [← methodSection_normal, hmethods, hkind, methodSection_normal]
    rw [typeLines_eq hd, typeLines_eq he]
    simp only [linesAround, hinner, attributeLines_filled, hattributes', hheader, constantLines, hconstants,
      propertyLines_normal, hproperties, hsection]

end Declaration.Script

namespace Declaration

open Script

/-- The shape is the normal form without the marks of the place a declaration stands at. -/
theorem shape_of_normal (d : Declaration) :
    d.shape = { d.normal with «namespace» := some "", imports := some [], isNested := false } := by
  unfold normal
  rw [shape_eq]
  split <;> rfl

theorem scriptLines_of_normal {comment : String} {d e : Declaration} (hd : d.TextArguments) (he : e.TextArguments)
    (h : d.normal = e.normal) : scriptLines comment d = scriptLines comment e := by
  have hshape : d.shape = e.shape := by rw [shape_of_normal, h, ← shape_of_normal]
  have nested : ∀ x : Declaration, x.normal.isNested = x.isNested := by
    intro x
    unfold normal
    split
    · rename_i hx
      exact hx.symm
    · rename_i hx
      rw [shape_eq]
      simpa using hx
  have hnested : d.isNested = e.isNested := by rw [← nested d, h, nested e]
  have hlines := typeLines_of_shape hd he hshape
  rw [scriptLines, scriptLines, hnested]
  cases he' : e.isNested with
  | true => simp only [if_true, hlines]
  | false =>
    have hd' := hnested.trans he'
    have himports : d.imports = e.imports := by
      have := congrArg Declaration.imports h
      simpa [normal, hd', he'] using this
    have hnamespace : d.namespace = e.namespace := by
      have := congrArg Declaration.namespace h
      simpa [normal, hd', he'] using this
    simp only [Bool.false_eq_true, if_false, hlines, headLines, himports, hnamespace]

end Declaration

end Lines

/-! ## The whole text -/

/-- Settings under which lines can be told apart: no line feed inside them, one at the end of each. -/
structure Settings.Separate (s : Settings) (u : String) : Prop where
  indent : s.indent = .text u
  indents : Indents u
  ending : ∃ before, s.lineEnding.shown.toList = before ++ ['\n'] ∧ '\n' ∉ before
  comment : '\n' ∉ s.comment.shown.toList

theorem Settings.default_separate : Separate {} "\t" :=
  ⟨rfl, ⟨by decide, '\t', [], by decide, by decide⟩, ⟨[], by decide, by decide⟩, by decide⟩

namespace Declaration

theorem Tidy.complete {d : Declaration} (h : d.Tidy) : ¬ d.Incomplete := by
  rintro (hi | hk | ha | ⟨m, hm, hlack⟩)
  · exact h.imports hi
  · obtain ⟨ks, hks, -⟩ := h.keywords
    rw [hks] at hk
    cases hk
  · obtain ⟨as, has, -⟩ := h.attributes
    rw [has] at ha
    cases ha
  · have hclean := h.methods m hm
    rcases hlack with hk | hp | ⟨hi, hb⟩
    · obtain ⟨ks, hks, -⟩ := hclean.keywords
      rw [hks] at hk
      cases hk
    · obtain ⟨ps, hps, -⟩ := hclean.parameters
      rw [hps] at hp
      cases hp
    · obtain ⟨ls, hls, -⟩ := hclean.body hi
      rw [hls] at hb
      cases hb

theorem Clean.outcome {d : Declaration} (h : d.Clean) (k : Nat) {s : Settings} {u : String} (hs : s.Separate u) :
    (d.render k s).outcome = .ok (layoutText u s.lineEnding.shown k (Script.scriptLines s.comment.shown d)) :=
  outcome_complete (Script.Tidy.textArguments h.1) (fun c hc => (h.1 c hc).complete) k s u hs.indent

/-- Clean declarations are written, and written alike exactly when they have the same normal form. -/
theorem written_alike_iff {d e : Declaration} (hd : d.Clean) (he : e.Clean) (k : Nat) {s : Settings} {u : String}
    (hs : s.Separate u) :
    ∃ text text', (d.render k s).outcome = .ok text ∧ (e.render k s).outcome = .ok text' ∧
      (text = text' ↔ d.normal = e.normal) := by
  refine ⟨_, _, hd.outcome k hs, he.outcome k hs, ?_, ?_⟩
  · intro h
    obtain ⟨before, hbefore, hnone⟩ := hs.ending
    have oneLine : ∀ {x : Declaration}, x.Clean → ∀ e ∈ Script.scriptLines s.comment.shown x, '\n' ∉ (e.line u k).toList :=
      fun hx e he => Script.line_no_newline hs.indents.noNewline (Script.scriptLines_oneLine hs.comment hx e he)
    exact Script.scriptLines_inj hs.indents hd he (Script.layoutText_inj hbefore hnone (oneLine hd) (oneLine he) h)
  · intro h
    rw [scriptLines_of_normal (Script.Tidy.textArguments hd.1) (Script.Tidy.textArguments he.1) h]

def sampleClass (methods : List (String × List String)) : Declaration where
  name := some "Sample"
  «namespace» := some "Demo.Text"
  methods := some (methods.map fun m => { name := some m.1, returnType := some "void", body := some (m.2.map some) })

theorem sampleClass_clean {methods : List (String × List String)}
    (hn : ∀ m ∈ methods, isWord m.1 = true ∧ m.1 ∉ Method.modifiers) (hb : ∀ m ∈ methods, ∀ l ∈ m.2, '\n' ∉ l.toList) :
    (sampleClass methods).Clean := by
  have hmethods : ∀ m ∈ (sampleClass methods).methods.getD [], m.Clean false := by
    intro m hm
    obtain ⟨x, hx, rfl⟩ := List.mem_map.mp hm
    have hvoid : isWord "void" = true ∧ "void" ∉ Method.modifiers := by decide
    refine ⟨.inr (hn x hx), hvoid, ⟨[], rfl, by simp⟩, ⟨[], rfl, by simp⟩, fun _ => ⟨_, rfl, fun l hl => ?_⟩, by simp,
      by simp⟩
    obtain ⟨text, htext, rfl⟩ := List.mem_map.mp hl
    exact ⟨text, rfl, hb x hx text htext⟩
  have hwords : isWord "Sample" = true ∧ isWord "Demo.Text" = true := by decide
  refine ⟨everywhere_iff.mpr ⟨?_, by simp [sampleClass, nestedIn]⟩, fun _ => ⟨hwords.2, by simp [sampleClass]⟩⟩
  exact ⟨hwords.1, by simp [sampleClass], ⟨[], rfl, by simp⟩, ⟨[], rfl, by simp⟩, by simp [sampleClass],
    by simp [sampleClass], by simp [sampleClass], hmethods⟩

/-- A body that closes its own block and goes on like a second method is not taken for two methods. -/
theorem body_of_braces_is_one_method :
    ∃ text text', ((sampleClass [("Run", ["\x7d", "", "void Stop()", "\x7b"])]).render 1 {}).outcome = .ok text ∧
      ((sampleClass [("Run", []), ("Stop", [])]).render 1 {}).outcome = .ok text' ∧ text ≠ text' := by
  have hd : (sampleClass [("Run", ["\x7d", "", "void Stop()", "\x7b"])]).Clean := sampleClass_clean (by decide) (by decide)
  have he : (sampleClass [("Run", []), ("Stop", [])]).Clean := sampleClass_clean (by decide) (by decide)
  obtain ⟨text, text', hd', he', h⟩ := written_alike_iff hd he 1 Settings.default_separate
  refine ⟨text, text', hd', he', fun e => ?_⟩
  have hmethods := congrArg (fun x : Declaration => (x.methods.getD []).length) (h.mp e)
  simp [normal, shape_eq, sampleClass] at hmethods

end Declaration

end Typewright
