import Typewright.Proofs.TypeLines

/-!
Texts that are made of words can be taken apart in one way only. Words hold letters, digits, underscores, points and
whatever is no ASCII character; a separator or a mark never does, so a word ends where it must (`span_inj`), a list of words
where no further word follows (`joined_inj`), and a list of items where no further item follows (`flatMap_inj`).

From this the text of each part determines what it is written from:
- attributes with their arguments (`Attribute.written_inj`);
- constants and properties (`constantText_inj`, `propertyText_inj`), and the one is never taken for the other
  (`constantText_ne_propertyText`);
- headers of methods with their parameters and the arguments for a base (`methodText_inj`), and headers of types
  (`headline_inj`), which are never taken for each other (`headline_ne_methodText`);
- and none of these headers is taken for an attribute (`headline_ne_written`, `methodText_ne_written`).

What is needed of a part is its `Clean` structure: names and types are words, and since the keywords of a method stand
before its type and its name with nothing but blanks between them, they are modifiers, and the type and the name are none. A
declaration whose parts are clean is `Tidy`. A property keeps an expression only if it uses one, a method a body only if it
shows (`Property.normal`, `Method.normal`); the rest is equal when the texts are.
-/

namespace Typewright

/-! ## Cutting lists -/

/-- A front part is determined by a property that all of it has and the next element has not. -/
theorem span_inj {α : Type} {p : α → Bool} {a b r s : List α} (ha : ∀ c ∈ a, p c = true) (hb : ∀ c ∈ b, p c = true)
    (hr : ∀ c ∈ r.head?, p c = false) (hs : ∀ c ∈ s.head?, p c = false) (h : a ++ r = b ++ s) : a = b ∧ r = s := by
  have stop : ∀ {t : List α}, (∀ c ∈ t.head?, p c = false) → t.takeWhile p = [] := by
    intro t ht
    cases t with
    | nil => rfl
    | cons c t => rw [List.takeWhile_cons, ht c rfl, if_neg (by simp)]
  have hab : a = b := by
    have h' := congrArg (List.takeWhile p) h
    rwa [List.takeWhile_append_of_pos ha, List.takeWhile_append_of_pos hb, stop hr, stop hs, List.append_nil,
      List.append_nil] at h'
  subst hab
  exact ⟨rfl, List.append_cancel_left h⟩

/-- Items are determined by a text in which they stand one after the other, when each one is determined by the text that it
    starts, and what comes after them starts with none. -/
theorem flatMap_inj {α β γ : Type} {f : α → List γ} {value : α → β} {xs ys : List α} {r s : List γ}
    (hitem : ∀ x ∈ xs, ∀ y ∈ ys, ∀ r s, f x ++ r = f y ++ s → value x = value y ∧ r = s)
    (hr : ∀ y ∈ ys, ∀ t, r ≠ f y ++ t) (hs : ∀ x ∈ xs, ∀ t, f x ++ t ≠ s) (h : xs.flatMap f ++ r = ys.flatMap f ++ s) :
    xs.map value = ys.map value ∧ r = s := by
  induction xs generalizing ys with
  | nil =>
    cases ys with
    | nil => exact ⟨rfl, h⟩
    | cons y ys =>
      rw [List.flatMap_cons, List.append_assoc] at h
      exact absurd h (hr y (by simp) _)
  | cons x xs ih =>
    cases ys with
    | nil =>
      rw [List.flatMap_cons, List.append_assoc] at h
      exact absurd h (hs x (by simp) _)
    | cons y ys =>
      rw [List.flatMap_cons, List.flatMap_cons, List.append_assoc, List.append_assoc] at h
      obtain ⟨hxy, hrest⟩ := hitem x (by simp) y (by simp) _ _ h
      obtain ⟨hmap, hrs⟩ := ih (fun x hx y hy => hitem x (by simp [hx]) y (by simp [hy])) (fun y hy => hr y (by simp [hy]))
        (fun x hx => hs x (by simp [hx])) hrest
      exact ⟨by rw [List.map_cons, List.map_cons, hxy, hmap], hrs⟩

/-! ## Words -/

/-- Letters, digits, underscores and points. Beyond ASCII everything counts as a letter. -/
def isWordChar (c : Char) : Bool := c.isAlphanum || c == '_' || c == '.' || 0x7F < c.toNat

def isWord (s : String) : Bool := !s.toList.isEmpty && s.toList.all isWordChar

theorem isWord.chars {s : String} (h : isWord s = true) : ∀ c ∈ s.toList, isWordChar c = true := by
  rw [isWord, Bool.and_eq_true, List.all_eq_true] at h
  exact h.2

theorem isWord.head {s : String} (h : isWord s = true) : ∃ c cs, s.toList = c :: cs ∧ isWordChar c = true := by
  have hc := isWord.chars h
  rw [isWord, Bool.and_eq_true] at h
  cases hs : s.toList with
  | nil => simp [hs] at h
  | cons c cs => exact ⟨c, cs, rfl, hc c (by simp [hs])⟩

theorem isWord.no_newline {s : String} (h : isWord s = true) : '\n' ∉ s.toList := fun hm =>
  absurd (isWord.chars h _ hm) (by decide)

def joined (sep : Char) (ws : List String) : List Char := [sep].intercalate (ws.map String.toList)

/-- What follows a list of words does not go on with one. -/
def Stops (sep : Char) (r : List Char) : Prop :=
  (∀ c ∈ r.head?, isWordChar c = false) ∧ ∀ c rest, r = sep :: c :: rest → isWordChar c = false

theorem joined_one (sep : Char) (w : String) : joined sep [w] = w.toList := by simp [joined]

theorem joined_cons (sep : Char) (w v : String) (ws : List String) :
    joined sep (w :: v :: ws) = w.toList ++ sep :: joined sep (v :: ws) := by
  simp [joined, List.intercalate_cons_cons]

theorem joined_head {sep : Char} {w : String} (h : isWord w = true) (ws : List String) :
    ∃ c cs, joined sep (w :: ws) = c :: cs ∧ isWordChar c = true := by
  obtain ⟨c, cs, hc, hw⟩ := isWord.head h
  cases ws with
  | nil => exact ⟨c, cs, by rw [joined_one, hc], hw⟩
  | cons v ws => exact ⟨c, _, by rw [joined_cons, hc, List.cons_append], hw⟩

theorem joined_inj {sep : Char} (hsep : isWordChar sep = false) {ws vs : List String} (hw : ∀ w ∈ ws, isWord w = true)
    (hv : ∀ v ∈ vs, isWord v = true) (hws : ws ≠ []) (hvs : vs ≠ []) {r s : List Char} (hr : Stops sep r) (hs : Stops sep s)
    (h : joined sep ws ++ r = joined sep vs ++ s) : ws = vs ∧ r = s := by
  induction ws generalizing vs with
  | nil => exact absurd rfl hws
  | cons w ws ih =>
    cases vs with
    | nil => exact absurd rfl hvs
    | cons v vs =>
      have cw := isWord.chars (hw w (by simp))
      have cv := isWord.chars (hv v (by simp))
      -- the first words end at the separator, or where the list does
      have more : ∀ (x : String) (xs : List String) (t : List Char), isWord x = true →
          ∀ rest, t = sep :: (joined sep (x :: xs) ++ rest) → ¬ Stops sep t := by
        intro x xs t hx rest ht hst
        obtain ⟨c, cs, hc, hcw⟩ := @joined_head sep x hx xs
        rw [hst.2 c (cs ++ rest) (by rw [ht, hc, List.cons_append])] at hcw
        cases hcw
      have hsep' : ∀ (t : List Char), ∀ c ∈ (sep :: t).head?, isWordChar c = false := by
        intro t c hc
        rw [List.head?_cons, Option.mem_some] at hc
        exact hc ▸ hsep
      cases ws with
      | nil =>
        cases vs with
        | nil =>
          rw [joined_one, joined_one] at h
          obtain ⟨hwv, hrs⟩ := span_inj cw cv hr.1 hs.1 h
          exact ⟨by rw [String.toList_inj.mp hwv], hrs⟩
        | cons x xs =>
          rw [joined_one, joined_cons, List.append_assoc, List.cons_append] at h
          obtain ⟨-, hrs⟩ := span_inj cw cv hr.1 (hsep' _) h
          exact absurd hr (more x xs r (hv x (by simp)) s hrs)
      | cons y ys =>
        cases vs with
        | nil =>
          rw [joined_one, joined_cons, List.append_assoc, List.cons_append] at h
          obtain ⟨-, hrs⟩ := span_inj cw cv (hsep' _) hs.1 h
          exact absurd hs (more y ys s (hw y (by simp)) r hrs.symm)
        | cons x xs =>
          rw [joined_cons, joined_cons, List.append_assoc, List.append_assoc, List.cons_append, List.cons_append] at h
          obtain ⟨hwv, hrest⟩ := span_inj cw cv (hsep' _) (hsep' _) h
          obtain ⟨hlist, hrs⟩ := ih (fun w hm => hw w (by simp [hm])) (fun v hm => hv v (by simp [hm])) (by simp) (by simp)
            (List.cons.inj hrest).2
          exact ⟨by rw [String.toList_inj.mp hwv, hlist], hrs⟩

theorem stops_nil (sep : Char) : Stops sep [] := ⟨by simp, by simp⟩

theorem stops_mark {sep m : Char} (hm : isWordChar m = false) (hne : m ≠ sep) (r : List Char) : Stops sep (m :: r) := by
  refine ⟨fun c hc => ?_, fun c rest h => absurd (List.cons.inj h).1 hne⟩
  rw [List.head?_cons, Option.mem_some] at hc
  exact hc ▸ hm

theorem stops_sep {sep m : Char} (hsep : isWordChar sep = false) (hm : isWordChar m = false) (r : List Char) :
    Stops sep (sep :: m :: r) := by
  refine ⟨fun c hc => ?_, fun c rest h => ?_⟩
  · rw [List.head?_cons, Option.mem_some] at hc
    exact hc ▸ hsep
  · rw [← (List.cons.inj (List.cons.inj h).2).1]
    exact hm

theorem intercalate_chars (sep : Char) (ws : List String) :
    (String.intercalate (String.singleton sep) ws).toList = joined sep ws := by
  rw [String.toList_intercalate, String.toList_singleton, joined]

/-! ## Pieces -/

def Piece.isWord : Piece → Bool
  | some s => Typewright.isWord s
  | none => false

def Json.isWord : Json → Bool
  | .text s => Typewright.isWord s
  | _ => false

theorem Json.isWord.text {v : Json} (h : v.isWord = true) : ∃ s, v = .text s ∧ Typewright.isWord s = true := by
  cases v with
  | text s => exact ⟨s, rfl, h⟩
  | null => cases h
  | bool b => cases h
  | int n => cases h
  | real x => cases h
  | list items => cases h
  | object fields => cases h

theorem Piece.isWord.shown {p : Piece} (h : p.isWord = true) : p = some p.shown ∧ Typewright.isWord p.shown = true := by
  cases p with
  | none => cases h
  | some s => exact ⟨rfl, h⟩

theorem Piece.isWord.isSome {p : Piece} (h : p.isWord = true) : p.isSome = true := by
  rw [(Piece.isWord.shown h).1]
  rfl

theorem Piece.shown_inj {p q : Piece} (hp : p.isWord = true) (hq : q.isWord = true) (h : p.shown = q.shown) : p = q := by
  rw [(isWord.shown hp).1, (isWord.shown hq).1, h]

theorem Piece.map_shown_inj {ps qs : List Piece} (hp : ∀ p ∈ ps, p.isWord = true) (hq : ∀ q ∈ qs, q.isWord = true)
    (h : ps.map Piece.shown = qs.map Piece.shown) : ps = qs := by
  have self : ∀ {xs : List Piece}, (∀ x ∈ xs, x.isWord = true) → xs = (xs.map Piece.shown).map some := by
    intro xs hx
    have hid : (xs.map Piece.shown).map some = xs.map id := by
      rw [List.map_map]
      exact List.map_congr_left fun x hx' => ((isWord.shown (hx x hx')).1).symm
    rw [hid, List.map_id]
  rw [self hp, self hq, h]

theorem Piece.words {ps : List Piece} (h : ∀ p ∈ ps, p.isWord = true) :
    ∀ w ∈ ps.map Piece.shown, Typewright.isWord w = true := by
  intro w hw
  obtain ⟨p, hp, rfl⟩ := List.mem_map.mp hw
  exact (isWord.shown (h p hp)).2

/-! ## Attributes -/

structure Attribute.Clean (a : Attribute) : Prop where
  name : a.name.isWord = true
  arguments : ∀ x ∈ a.arguments.getD [], x.isWord = true

theorem Attribute.written_chars (a : Attribute) :
    a.written.toList = '[' :: (a.name.shown.toList ++ if (a.arguments.getD []).isEmpty then [']']
      else '(' :: '"' :: (joined ',' ((a.arguments.getD []).map Piece.shown) ++ ['"', ')', ']'])) := by
  have hsep : "," = String.singleton ',' := rfl
  unfold Attribute.written
  cases a.arguments.getD [] with
  | nil => simp
  | cons x rest =>
    simp only [hsep, String.toList_append, intercalate_chars]
    simp

/-- The text of an attribute determines it, up to a missing list of arguments. -/
theorem Attribute.written_inj {a b : Attribute} (ha : a.Clean) (hb : b.Clean) (h : a.written = b.written) :
    a.filled = b.filled := by
  have mark : ∀ (x : Attribute) c, c ∈ (if (x.arguments.getD []).isEmpty then [']']
      else '(' :: '"' :: (joined ',' ((x.arguments.getD []).map Piece.shown) ++ ['"', ')', ']'])).head? →
      isWordChar c = false := by
    intro x c hc
    split at hc
    · rw [List.head?_cons, Option.mem_some] at hc
      exact hc ▸ by decide
    · rw [List.head?_cons, Option.mem_some] at hc
      exact hc ▸ by decide
  have h' := String.toList_inj.mpr h
  rw [written_chars, written_chars] at h'
  obtain ⟨hname, htail⟩ := span_inj (isWord.chars (Piece.isWord.shown ha.name).2) (isWord.chars (Piece.isWord.shown hb.name).2)
    (mark a) (mark b) (List.cons.inj h').2
  have hname' : a.name = b.name := Piece.shown_inj ha.name hb.name (String.toList_inj.mp hname)
  have hargs : a.arguments.getD [] = b.arguments.getD [] := by
    cases hxa : a.arguments.getD [] with
    | nil =>
      cases hxb : b.arguments.getD [] with
      | nil => rfl
      | cons y ys => simp [hxa, hxb] at htail
    | cons x xs =>
      cases hxb : b.arguments.getD [] with
      | nil => simp [hxa, hxb] at htail
      | cons y ys =>
        simp only [hxa, hxb, List.isEmpty_cons, Bool.false_eq_true, if_false, List.cons.injEq, true_and] at htail
        have hstop := @stops_mark ',' '"' (by decide) (by decide) [')', ']']
        have hwa := hxa ▸ ha.arguments
        have hwb := hxb ▸ hb.arguments
        obtain ⟨hlist, -⟩ := joined_inj (by decide) (Piece.words hwa) (Piece.words hwb) (by simp) (by simp) hstop hstop htail
        exact Piece.map_shown_inj hwa hwb hlist
  simp [Attribute.filled, hname', hargs]

/-! ## Constants and properties -/

structure Constant.Clean (c : Constant) : Prop where
  name : c.name.isWord = true
  type : c.type.isWord = true
  access : c.access.isWord = true
  value : c.value.isWord = true

structure Property.Clean (p : Property) : Prop where
  name : p.name.isWord = true
  type : p.type.isWord = true
  access : p.access.isWord = true
  expression : p.isExpressionBodied = true → p.expression.isWord = true

def Property.normal (p : Property) : Property := if p.isExpressionBodied then p else { p with expression := .null }

structure Constant.Present (c : Constant) : Prop where
  access : c.access.isSome = true
  type : c.type.isSome = true
  name : c.name.isSome = true

structure Property.Present (p : Property) : Prop where
  access : p.access.isSome = true
  type : p.type.isSome = true
  name : p.name.isSome = true

theorem Constant.Clean.present {c : Constant} (h : c.Clean) : c.Present :=
  ⟨Piece.isWord.isSome h.access, Piece.isWord.isSome h.type, Piece.isWord.isSome h.name⟩

theorem Property.Clean.present {p : Property} (h : p.Clean) : p.Present :=
  ⟨Piece.isWord.isSome h.access, Piece.isWord.isSome h.type, Piece.isWord.isSome h.name⟩

namespace Declaration.Script

open Template.Library

theorem printed_piece {p : Piece} (h : p.isSome = true) : printed (.ofOption p) = p.shown := by
  cases p with
  | none => cases h
  | some s => rfl

def constantWords (c : Constant) : List String := [c.access.shown, "const", c.type.shown, c.name.shown]

def propertyWords (p : Property) : List String := [p.access.shown, p.type.shown, p.name.shown]

theorem constantWords_words {c : Constant} (h : c.Clean) : ∀ w ∈ constantWords c, isWord w = true := by
  have hconst : isWord "const" = true := by decide
  simp [constantWords, (Piece.isWord.shown h.access).2, (Piece.isWord.shown h.type).2, (Piece.isWord.shown h.name).2, hconst]

theorem propertyWords_words {p : Property} (h : p.Clean) : ∀ w ∈ propertyWords p, isWord w = true := by
  simp [propertyWords, (Piece.isWord.shown h.access).2, (Piece.isWord.shown h.type).2, (Piece.isWord.shown h.name).2]

theorem constantText_chars {c : Constant} (h : c.Present) :
    (constantText c).toList = joined ' ' (constantWords c) ++ ' ' :: '=' :: ' ' :: ((printed c.value).toList ++ [';']) := by
  simp [constantText, constantLine, printed_piece h.access, printed_piece h.type, printed_piece h.name, constantWords,
    joined_cons, joined_one]

theorem propertyText_chars {p : Property} (h : p.Present) :
    (propertyText p).toList = joined ' ' (propertyWords p) ++ ' ' :: if p.isExpressionBodied then
      '=' :: '>' :: ' ' :: ((printed p.expression).toList ++ [';']) else "\x7b get; set; \x7d".toList := by
  cases hb : p.isExpressionBodied <;>
    simp [propertyText, propertyLine, printed_piece h.access, printed_piece h.type, printed_piece h.name, propertyWords,
      joined_cons, joined_one, hb]

theorem printed_inj {v w : Json} (hv : v.isWord = true) (hw : w.isWord = true) (h : printed v = printed w) : v = w := by
  obtain ⟨s, rfl, -⟩ := Json.isWord.text hv
  obtain ⟨t, rfl, -⟩ := Json.isWord.text hw
  exact congrArg Json.text h

/-- The text of a constant determines it. -/
theorem constantText_inj {c e : Constant} (hc : c.Clean) (he : e.Clean) (h : constantText c = constantText e) : c = e := by
  have h' := String.toList_inj.mpr h
  rw [constantText_chars hc.present, constantText_chars he.present] at h'
  have hstop : ∀ r, Stops ' ' (' ' :: '=' :: r) := stops_sep (by decide) (by decide)
  obtain ⟨hwords, hrest⟩ := joined_inj (by decide) (constantWords_words hc) (constantWords_words he) (by simp [constantWords])
    (by simp [constantWords]) (hstop _) (hstop _) h'
  simp only [constantWords, List.cons.injEq, and_true, true_and] at hwords
  obtain ⟨haccess, htype, hname⟩ := hwords
  have hvalue : printed c.value = printed e.value := by
    simp only [List.cons.injEq, true_and] at hrest
    exact String.toList_inj.mp (List.append_cancel_right hrest)
  obtain ⟨cn, ct, ca, cv⟩ := c
  obtain ⟨en, et, ea, ev⟩ := e
  simp only [Constant.mk.injEq]
  exact ⟨Piece.shown_inj hc.name he.name hname, Piece.shown_inj hc.type he.type htype,
    Piece.shown_inj hc.access he.access haccess, printed_inj hc.value he.value hvalue⟩

theorem propertyText_stops {p : Property} : Stops ' ' (' ' :: if p.isExpressionBodied then
    '=' :: '>' :: ' ' :: ((printed p.expression).toList ++ [';']) else "\x7b get; set; \x7d".toList) := by
  split
  · exact stops_sep (by decide) (by decide) _
  · have hopen : "\x7b get; set; \x7d".toList = '\x7b' :: " get; set; \x7d".toList := by decide
    rw [hopen]
    exact stops_sep (by decide) (by decide) _

/-- The text of a property determines it, up to an expression it does not use. -/
theorem propertyText_inj {p q : Property} (hp : p.Clean) (hq : q.Clean) (h : propertyText p = propertyText q) :
    p.normal = q.normal := by
  have h' := String.toList_inj.mpr h
  rw [propertyText_chars hp.present, propertyText_chars hq.present] at h'
  obtain ⟨hwords, hrest⟩ := joined_inj (by decide) (propertyWords_words hp) (propertyWords_words hq) (by simp [propertyWords])
    (by simp [propertyWords]) propertyText_stops propertyText_stops h'
  simp only [propertyWords, List.cons.injEq, and_true] at hwords
  have haccess := Piece.shown_inj hp.access hq.access hwords.1
  have htype := Piece.shown_inj hp.type hq.type hwords.2.1
  have hname := Piece.shown_inj hp.name hq.name hwords.2.2
  have hget : "\x7b get; set; \x7d".toList = '\x7b' :: " get; set; \x7d".toList := by decide
  obtain ⟨pn, pt, pa, pb, pe⟩ := p
  obtain ⟨qn, qt, qa, qb, qe⟩ := q
  simp only at haccess htype hname
  subst haccess htype hname
  cases pb with
  | true =>
    cases qb with
    | true =>
      simp only [if_true, List.cons.injEq, true_and] at hrest
      have hvalue := printed_inj (hp.expression rfl) (hq.expression rfl) (String.toList_inj.mp (List.append_cancel_right hrest))
      rw [show pe = qe from hvalue]
    | false => simp [hget] at hrest
  | false =>
    cases qb with
    | true => simp [hget] at hrest
    | false => rfl

/-- A constant has one word more before its mark. -/
theorem constantText_ne_propertyText {c : Constant} {p : Property} (hc : c.Clean) (hp : p.Clean) :
    constantText c ≠ propertyText p := by
  intro h
  have h' := String.toList_inj.mpr h
  rw [constantText_chars hc.present, propertyText_chars hp.present] at h'
  obtain ⟨hwords, -⟩ := joined_inj (by decide) (constantWords_words hc) (propertyWords_words hp) (by simp [constantWords])
    (by simp [propertyWords]) (stops_sep (by decide) (by decide) _) propertyText_stops h'
  simp [constantWords, propertyWords] at hwords

end Declaration.Script

/-! ## Methods -/

def Method.modifiers : List String :=
  ["public", "private", "protected", "internal", "override", "sealed", "static", "partial", "async"]

structure Parameter.Clean (p : Parameter) : Prop where
  name : p.name.isWord = true
  type : p.type.isWord = true

structure Method.Clean (isInterface : Bool) (m : Method) : Prop where
  name : m.name = some "" ∨ m.name.isWord = true ∧ m.name.shown ∉ modifiers
  returnType : m.returnType.isWord = true ∧ m.returnType.shown ∉ modifiers
  keywords : ∃ ks, m.keywords = some ks ∧ ∀ k ∈ ks, ∃ w ∈ modifiers, k = some w
  parameters : ∃ ps, m.parameters = some ps ∧ ∀ p ∈ ps, p.Clean
  body : isInterface = false → ∃ lines, m.body = some lines ∧ ∀ l ∈ lines, ∃ s, l = some s ∧ '\n' ∉ s.toList
  attributes : ∀ a ∈ m.attributes.getD [], a.Clean
  baseArguments : ∀ x ∈ m.baseArguments.getD [], x.isWord = true

/-- A method as far as its lines tell: an interface shows no bodies. -/
def Method.normal (isInterface : Bool) (m : Method) : Method :=
  { m.filled with body := if isInterface then some [] else m.body }

namespace Declaration.Script

open Template.Library

/-! ### Parameters -/

def parameterWords (p : Parameter) : List String :=
  if p.isExtensionReceiver then ["this", p.type.shown, p.name.shown] else [p.type.shown, p.name.shown]

theorem parameterText_chars (p : Parameter) : (parameterText p).toList = joined ' ' (parameterWords p) := by
  cases hb : p.isExtensionReceiver <;> simp [parameterText, parameterWords, joined_cons, joined_one, hb]

theorem parameterWords_words {p : Parameter} (h : p.Clean) : ∀ w ∈ parameterWords p, isWord w = true := by
  have hthis : isWord "this" = true := by decide
  have ht := (Piece.isWord.shown h.type).2
  have hn := (Piece.isWord.shown h.name).2
  unfold parameterWords
  split <;> simp [hthis, ht, hn]

theorem parameterWords_inj {p q : Parameter} (hp : p.Clean) (hq : q.Clean) (h : parameterWords p = parameterWords q) :
    p = q := by
  obtain ⟨pn, pt, pb⟩ := p
  obtain ⟨qn, qt, qb⟩ := q
  have same : pt.shown = qt.shown → pn.shown = qn.shown → pt = qt ∧ pn = qn := fun ht hn =>
    ⟨Piece.shown_inj hp.type hq.type ht, Piece.shown_inj hp.name hq.name hn⟩
  cases pb <;> cases qb <;> simp [parameterWords] at h
  · obtain ⟨rfl, rfl⟩ := same h.1 h.2
    rfl
  · obtain ⟨rfl, rfl⟩ := same h.1 h.2
    rfl

def parameterChars (ps : List Parameter) (rest : List Char) : List Char :=
  [',', ' '].intercalate (ps.map fun p => joined ' ' (parameterWords p)) ++ ')' :: rest

theorem parameterChars_cons (p : Parameter) (ps : List Parameter) (rest : List Char) :
    parameterChars (p :: ps) rest = joined ' ' (parameterWords p) ++
      if ps.isEmpty then ')' :: rest else ',' :: ' ' :: parameterChars ps rest := by
  cases ps with
  | nil => simp [parameterChars]
  | cons q qs => simp [parameterChars, List.intercalate_cons_cons]

theorem parameterChars_inj {ps qs : List Parameter} (hp : ∀ p ∈ ps, p.Clean) (hq : ∀ q ∈ qs, q.Clean) {r s : List Char}
    (h : parameterChars ps r = parameterChars qs s) : ps = qs ∧ r = s := by
  have stops : ∀ (xs : List Parameter) (t : List Char),
      Stops ' ' (if xs.isEmpty then ')' :: t else ',' :: ' ' :: parameterChars xs t) := by
    intro xs t
    split <;> exact stops_mark (by decide) (by decide) _
  have starts : ∀ (x : Parameter) (xs : List Parameter) (t u : List Char), x.Clean → parameterChars (x :: xs) t ≠ ')' :: u := by
    intro x xs t u hx hxs
    have hw : isWord x.type.shown = true := (Piece.isWord.shown hx.type).2
    obtain ⟨c, cs, hc, hcw⟩ : ∃ c cs, joined ' ' (parameterWords x) = c :: cs ∧ isWordChar c = true := by
      unfold parameterWords
      split
      · exact joined_head (by decide) _
      · exact joined_head hw _
    rw [parameterChars_cons, hc, List.cons_append] at hxs
    rw [(List.cons.inj hxs).1] at hcw
    exact absurd hcw (by decide)
  induction ps generalizing qs with
  | nil =>
    cases qs with
    | nil => exact ⟨rfl, (List.cons.inj h).2⟩
    | cons q qs => exact absurd h.symm (starts q qs s r (hq q (by simp)))
  | cons p ps ih =>
    cases qs with
    | nil => exact absurd h (starts p ps r s (hp p (by simp)))
    | cons q qs =>
      rw [parameterChars_cons, parameterChars_cons] at h
      have hne : ∀ x : Parameter, parameterWords x ≠ [] := by
        intro x
        unfold parameterWords
        split <;> simp
      obtain ⟨hwords, hrest⟩ := joined_inj (by decide) (parameterWords_words (hp p (by simp)))
        (parameterWords_words (hq q (by simp))) (hne p) (hne q) (stops ps r) (stops qs s) h
      have hpq : p = q := parameterWords_inj (hp p (by simp)) (hq q (by simp)) hwords
      cases ps with
      | nil =>
        cases qs with
        | nil => exact ⟨by rw [hpq], (List.cons.inj hrest).2⟩
        | cons y ys => simp at hrest
      | cons x xs =>
        cases qs with
        | nil => simp at hrest
        | cons y ys =>
          simp only [List.isEmpty_cons, Bool.false_eq_true, if_false, List.cons.injEq, true_and] at hrest
          obtain ⟨hlist, hrs⟩ := ih (fun p hm => hp p (by simp [hm])) (fun q hm => hq q (by simp [hm])) hrest
          exact ⟨by rw [hpq, hlist], hrs⟩

/-! ### Headers of methods -/

def signatureWords (m : Method) : List String :=
  (m.keywords.getD []).map Piece.shown ++ m.returnType.shown :: if m.isConstructor then [] else [m.name.shown]

theorem spaced_chars (ps : List Piece) : (spaced ps).toList = joined ' ' (ps.map Piece.shown) :=
  intercalate_chars ' ' (ps.map Piece.shown)

theorem signature_chars (m : Method) : (signature m).toList = joined ' ' (signatureWords m) := by
  rw [signature, spaced_chars, signatureWords]
  cases m.isConstructor <;> simp

def baseChars (arguments : List Piece) (rest : List Char) : List Char :=
  if arguments.isEmpty then rest
  else ' ' :: (": base(".toList ++ (joined ',' (arguments.map Piece.shown) ++ ')' :: rest))

theorem baseChars_cons (x : Piece) (xs : List Piece) (rest : List Char) :
    baseChars (x :: xs) rest = ' ' :: (": base(".toList ++ (joined ',' ((x :: xs).map Piece.shown) ++ ')' :: rest)) := rfl

def headerEnd (isInterface : Bool) : List Char := if isInterface then [';'] else []

theorem baseCall_chars (arguments : List Piece) (rest : List Char) :
    (baseCall (arguments.map .ofOption)).toList ++ rest = baseChars arguments rest := by
  have hsep : "," = String.singleton ',' := rfl
  have hempty : (arguments.map Json.ofOption).isEmpty = arguments.isEmpty := by cases arguments <;> rfl
  unfold baseCall baseChars
  rw [shown_pieces, hempty, hsep]
  have hbase : " : base(".toList = ' ' :: ": base(".toList := by decide
  cases arguments.isEmpty
  · simp only [Bool.false_eq_true, if_false, String.toList_append, intercalate_chars, List.append_assoc]
    rw [hbase]
    rfl
  · simp

theorem methodText_chars (i : Bool) (m : Method) :
    (methodText i m).toList = joined ' ' (signatureWords m) ++
      '(' :: parameterChars (m.parameters.getD []) (baseChars (m.baseArguments.getD []) (headerEnd i)) := by
  have hend : (if i then ";" else "").toList = headerEnd i := by cases i <;> rfl
  have hparameters : ((m.parameters.getD []).map parameterText).map String.toList =
      (m.parameters.getD []).map fun p => joined ' ' (parameterWords p) := by
    rw [List.map_map]
    exact List.map_congr_left fun p _ => parameterText_chars p
  rw [methodText, methodLine, String.toList_append, hend, String.toList_append, List.append_assoc,
    baseCall_chars]
  simp only [String.toList_append, signature_chars, String.toList_intercalate, hparameters, parameterChars]
  simp

theorem baseChars_inj {i : Bool} {as bs : List Piece} (ha : ∀ x ∈ as, x.isWord = true) (hb : ∀ x ∈ bs, x.isWord = true)
    (h : baseChars as (headerEnd i) = baseChars bs (headerEnd i)) : as = bs := by
  have hend : ∀ r, headerEnd i ≠ ' ' :: r := by cases i <;> simp [headerEnd]
  cases as with
  | nil =>
    cases bs with
    | nil => rfl
    | cons y ys =>
      rw [baseChars_cons] at h
      exact absurd h (hend _)
  | cons x xs =>
    cases bs with
    | nil =>
      rw [baseChars_cons] at h
      exact absurd h.symm (hend _)
    | cons y ys =>
      rw [baseChars_cons, baseChars_cons] at h
      have hstop : ∀ r, Stops ',' (')' :: r) := stops_mark (by decide) (by decide)
      obtain ⟨hlist, -⟩ := joined_inj (by decide) (Piece.words ha) (Piece.words hb) (by simp) (by simp) (hstop _) (hstop _)
        (List.append_cancel_left (List.cons.inj h).2)
      exact Piece.map_shown_inj ha hb hlist

theorem signatureWords_words {i : Bool} {m : Method} (h : m.Clean i) : ∀ w ∈ signatureWords m, isWord w = true := by
  have hmodifiers : ∀ w ∈ Method.modifiers, isWord w = true := by decide
  obtain ⟨ks, hks, hk⟩ := h.keywords
  intro w hw
  rw [signatureWords, hks, Option.getD_some, List.mem_append, List.mem_cons] at hw
  rcases hw with hw | rfl | hw
  · obtain ⟨k, hmem, rfl⟩ := List.mem_map.mp hw
    obtain ⟨w, hmod, rfl⟩ := hk k hmem
    exact hmodifiers w hmod
  · exact (Piece.isWord.shown h.returnType.1).2
  · rcases h.name with hn | ⟨hn, -⟩
    · simp [Method.isConstructor, hn] at hw
    · split at hw
      · cases hw
      · rw [List.mem_singleton] at hw
        rw [hw]
        exact (Piece.isWord.shown hn).2

/-- The keywords end before the return type; then comes a name, or it is a constructor. -/
theorem signatureWords_inj {i : Bool} {m n : Method} (hm : m.Clean i) (hn : n.Clean i)
    (h : signatureWords m = signatureWords n) :
    m.keywords = n.keywords ∧ m.returnType = n.returnType ∧ m.name = n.name := by
  obtain ⟨ks, hks, hk⟩ := hm.keywords
  obtain ⟨ls, hls, hl⟩ := hn.keywords
  have keyword : ∀ {xs : List Piece}, (∀ x ∈ xs, ∃ w ∈ Method.modifiers, x = some w) →
      ∀ w ∈ xs.map Piece.shown, Method.modifiers.contains w = true := by
    intro xs hx w hw
    obtain ⟨x, hmem, rfl⟩ := List.mem_map.mp hw
    obtain ⟨w, hmod, rfl⟩ := hx x hmem
    exact List.contains_iff_mem.mpr hmod
  have other : ∀ {x : Method}, x.Clean i → ∀ {t : List String}, ∀ w ∈ (x.returnType.shown :: t).head?,
      Method.modifiers.contains w = false := by
    intro x hx t w hw
    rw [List.head?_cons, Option.mem_some] at hw
    rw [← hw]
    simpa using hx.returnType.2
  rw [signatureWords, signatureWords, hks, hls, Option.getD_some, Option.getD_some] at h
  obtain ⟨hkeys, hrest⟩ := span_inj (keyword hk) (keyword hl) (other hm) (other hn) h
  have words : ∀ {xs : List Piece}, (∀ x ∈ xs, ∃ w ∈ Method.modifiers, x = some w) → ∀ x ∈ xs, x.isWord = true := by
    intro xs hx x hmem
    obtain ⟨w, hw, rfl⟩ := hx x hmem
    have : ∀ w ∈ Method.modifiers, isWord w = true := by decide
    exact this w hw
  obtain ⟨htype, hname⟩ := List.cons.inj hrest
  refine ⟨by rw [hks, hls, Piece.map_shown_inj (words hk) (words hl) hkeys],
    Piece.shown_inj hm.returnType.1 hn.returnType.1 htype, ?_⟩
  have constructor : ∀ {x : Method}, x.Clean i → x.isConstructor = true → x.name = some "" := by
    intro x hx hc
    rcases hx.name with h | ⟨h, -⟩
    · exact h
    · obtain ⟨c, cs, hcs, -⟩ := isWord.head (Piece.isWord.shown h).2
      rw [Method.isConstructor, (Piece.isWord.shown h).1, Option.getD_some, String.isEmpty_iff] at hc
      simp [hc] at hcs
  have named : ∀ {x : Method}, x.Clean i → x.isConstructor = false → x.name.isWord = true := by
    intro x hx hc
    rcases hx.name with h | ⟨h, -⟩
    · simp [Method.isConstructor, h] at hc
    · exact h
  cases hcm : m.isConstructor <;> cases hcn : n.isConstructor <;> simp [hcm, hcn] at hname
  · exact Piece.shown_inj (named hm hcm) (named hn hcn) hname
  · rw [constructor hm hcm, constructor hn hcn]

/-- A method's header determines all but its body and attributes. -/
theorem methodText_inj {i : Bool} {m n : Method} (hm : m.Clean i) (hn : n.Clean i) (h : methodText i m = methodText i n) :
    m.keywords = n.keywords ∧ m.returnType = n.returnType ∧ m.name = n.name ∧ m.parameters = n.parameters ∧
      m.baseArguments.getD [] = n.baseArguments.getD [] := by
  have h' := String.toList_inj.mpr h
  rw [methodText_chars, methodText_chars] at h'
  have hstop : ∀ r, Stops ' ' ('(' :: r) := stops_mark (by decide) (by decide)
  obtain ⟨hwords, hrest⟩ := joined_inj (by decide) (signatureWords_words hm) (signatureWords_words hn)
    (by simp [signatureWords]) (by simp [signatureWords]) (hstop _) (hstop _) h'
  obtain ⟨hkeys, htype, hname⟩ := signatureWords_inj hm hn hwords
  obtain ⟨ps, hps, hp⟩ := hm.parameters
  obtain ⟨qs, hqs, hq⟩ := hn.parameters
  rw [hps, hqs, Option.getD_some, Option.getD_some] at hrest
  obtain ⟨hparameters, hbase⟩ := parameterChars_inj hp hq (List.cons.inj hrest).2
  exact ⟨hkeys, htype, hname, by rw [hps, hqs, hparameters], baseChars_inj hm.baseArguments hn.baseArguments hbase⟩

end Declaration.Script

/-! ## Headers of types -/

/-- A declaration whose own parts are clean; it says nothing about those nested in it. -/
structure Declaration.Tidy (d : Declaration) : Prop where
  name : d.name.isWord = true
  imports : d.imports ≠ none
  keywords : ∃ ks, d.keywords = some ks ∧ ∀ k ∈ ks, k.isWord = true ∧ k.shown ∉ ["class", "interface"]
  attributes : ∃ as, d.attributes = some as ∧ ∀ a ∈ as, a.Clean
  implementations : ∀ i, d.implementations = some i → '\n' ∉ i.toList
  properties : ∀ p ∈ d.properties.getD [], p.Clean
  constants : ∀ c ∈ d.constants.getD [], c.Clean
  methods : ∀ m ∈ d.methods.getD [], m.Clean d.isInterface

namespace Declaration.Script

def headlineWords (d : Declaration) : List String := (d.keywords.getD []).map Piece.shown ++ [d.kindWord, d.name.shown]

def derivation (d : Declaration) : List Char :=
  match d.implementations with
  | some i => ' ' :: ':' :: ' ' :: i.toList
  | none => []

theorem joined_append (sep : Char) {ws : List String} (hw : ws ≠ []) (v : String) (vs : List String) :
    joined sep (ws ++ v :: vs) = joined sep ws ++ sep :: joined sep (v :: vs) := by
  induction ws with
  | nil => exact absurd rfl hw
  | cons w ws ih =>
    cases ws with
    | nil => simp [joined_cons, joined_one]
    | cons x xs =>
      have ih := ih (by simp)
      simp only [List.cons_append] at ih ⊢
      rw [joined_cons, joined_cons, ih]
      simp

theorem headline_chars (d : Declaration) : (headline d).toList = joined ' ' (headlineWords d) ++ derivation d := by
  have hwords : ∀ tail : List Piece, (d.keywords.getD [] ++ some d.kindWord :: d.name :: tail).map Piece.shown =
      headlineWords d ++ tail.map Piece.shown := by
    intro tail
    simp [headlineWords, Piece.shown]
  rw [headline, spaced_chars, hwords, derivation]
  cases d.implementations with
  | none => simp
  | some i =>
    simp only [List.map_cons, List.map_nil]
    rw [joined_append ' ' (by simp [headlineWords]), joined_cons, joined_one]
    rfl

theorem headlineWords_words {d : Declaration} (h : d.Tidy) : ∀ w ∈ headlineWords d, isWord w = true := by
  have hkind : isWord d.kindWord = true := by
    unfold Declaration.kindWord
    split <;> decide
  obtain ⟨ks, hks, hk⟩ := h.keywords
  intro w hw
  rw [headlineWords, hks, Option.getD_some, List.mem_append, List.mem_cons, List.mem_singleton] at hw
  rcases hw with hw | rfl | rfl
  · exact Piece.words (fun k hm => (hk k hm).1) w hw
  · exact hkind
  · exact (Piece.isWord.shown h.name).2

theorem derivation_stops (d : Declaration) : Stops ' ' (derivation d) := by
  unfold derivation
  split
  · exact stops_sep (by decide) (by decide) _
  · exact stops_nil _

/-- The header of a type determines its keywords, its kind, its name and what it derives from. -/
theorem headline_inj {d e : Declaration} (hd : d.Tidy) (he : e.Tidy) (h : headline d = headline e) :
    d.keywords = e.keywords ∧ d.isInterface = e.isInterface ∧ d.name = e.name ∧ d.implementations = e.implementations := by
  have h' := String.toList_inj.mpr h
  rw [headline_chars, headline_chars] at h'
  obtain ⟨hwords, hrest⟩ := joined_inj (by decide) (headlineWords_words hd) (headlineWords_words he)
    (by simp [headlineWords]) (by simp [headlineWords]) (derivation_stops d) (derivation_stops e) h'
  obtain ⟨ks, hks, hk⟩ := hd.keywords
  obtain ⟨ls, hls, hl⟩ := he.keywords
  have keyword : ∀ {xs : List Piece}, (∀ x ∈ xs, x.isWord = true ∧ x.shown ∉ ["class", "interface"]) →
      ∀ w ∈ xs.map Piece.shown, (!(["class", "interface"].contains w)) = true := by
    intro xs hx w hw
    obtain ⟨x, hmem, rfl⟩ := List.mem_map.mp hw
    simpa using (hx x hmem).2
  have kind : ∀ (x : Declaration) (t : List String), ∀ w ∈ (x.kindWord :: t).head?,
      (!(["class", "interface"].contains w)) = false := by
    intro x t w hw
    rw [List.head?_cons, Option.mem_some] at hw
    rw [← hw, Declaration.kindWord]
    split <;> decide
  rw [headlineWords, headlineWords, hks, hls, Option.getD_some, Option.getD_some] at hwords
  obtain ⟨hkeys, hkind⟩ := span_inj (keyword hk) (keyword hl) (kind d _) (kind e _) hwords
  simp only [List.cons.injEq, and_true] at hkind
  refine ⟨?_, ?_, Piece.shown_inj hd.name he.name hkind.2, ?_⟩
  · rw [hks, hls, Piece.map_shown_inj (fun k hm => (hk k hm).1) (fun k hm => (hl k hm).1) hkeys]
  · have hkind := hkind.1
    unfold Declaration.kindWord at hkind
    cases hi : d.isInterface <;> cases hj : e.isInterface <;> simp [hi, hj] at hkind ⊢
  · unfold derivation at hrest
    cases hi : d.implementations with
    | none =>
      cases hj : e.implementations with
      | none => rfl
      | some j => simp [hi, hj] at hrest
    | some i =>
      cases hj : e.implementations with
      | none => simp [hi, hj] at hrest
      | some j =>
        simp only [hi, hj, List.cons.injEq, true_and] at hrest
        rw [String.toList_inj.mp hrest]

/-- Behind the words of a method's header stands a parenthesis, behind those of a type's header none. -/
theorem headline_ne_methodText {d : Declaration} {i : Bool} {m : Method} (hd : d.Tidy) (hm : m.Clean i) :
    headline d ≠ methodText i m := by
  intro h
  have h' := String.toList_inj.mpr h
  rw [headline_chars, methodText_chars] at h'
  obtain ⟨-, hrest⟩ := joined_inj (by decide) (headlineWords_words hd) (signatureWords_words hm) (by simp [headlineWords])
    (by simp [signatureWords]) (derivation_stops d) (stops_mark (by decide) (by decide) _) h'
  unfold derivation at hrest
  split at hrest <;> simp at hrest

theorem headline_ne_written {d : Declaration} (hd : d.Tidy) (a : Attribute) : headline d ≠ a.written := by
  intro h
  have h' := String.toList_inj.mpr h
  obtain ⟨w, ws, hw⟩ : ∃ w ws, headlineWords d = w :: ws := List.exists_cons_of_ne_nil (by simp [headlineWords])
  obtain ⟨c, cs, hc, hcw⟩ := @joined_head ' ' w (headlineWords_words hd w (by simp [hw])) ws
  rw [headline_chars, hw, hc, Attribute.written_chars] at h'
  rw [(List.cons.inj h').1] at hcw
  exact absurd hcw (by decide)

theorem methodText_ne_written {i : Bool} {m : Method} (hm : m.Clean i) (a : Attribute) : methodText i m ≠ a.written := by
  intro h
  have h' := String.toList_inj.mpr h
  obtain ⟨w, ws, hw⟩ : ∃ w ws, signatureWords m = w :: ws := List.exists_cons_of_ne_nil (by simp [signatureWords])
  obtain ⟨c, cs, hc, hcw⟩ := @joined_head ' ' w (signatureWords_words hm w (by simp [hw])) ws
  rw [methodText_chars, hw, hc, Attribute.written_chars] at h'
  rw [(List.cons.inj h').1] at hcw
  exact absurd hcw (by decide)

end Declaration.Script

end Typewright
