import Typewright.Proofs.Lexemes

/-!
The text of a plain declaration spells its lexemes. `Lexemes` says which words and marks a declaration is made of; here its
text, with all blanks and line ends, is shown to be cut into just these.

A text is spelled from its end. What a piece of text spells depends on what comes next, since a word goes on as long as it
can, so a fact about a piece is one about all that can follow it.
- `Spelled` is a text that spells lexemes of which the first may stand behind a blank, so that blanks and lines can be put
  before it.
- `Spelling` is what a piece of text does in front of any spelled text that a word can end at (`Breaks`). Pieces with a
  separator between them are spelled when each of them is (`spelling_intercalate`).
- `Lines` is what whole lines do. They end in a line feed, so they need nothing of what follows them, and lines after lines,
  or the same lines for each member of a list, are lines again (`Lines.append`, `Lines.flatMap`).

The parts of a declaration follow its text: attributes, constants, properties, parameters and method headers are spelled
inside a line (`spelling_attribute`, `spelling_constant`, `spelling_property`, `spelling_method`); a method is lines
(`lines_method`), and so is a type, by induction over the types nested in it (`lines_type`). A file is a comment before such
lines. The comment is no lexeme: it is trivia before the first one, and so nothing is said of what stands there.

Proved:
- `lex_file`: a plain declaration is written, and the text is cut into its lexemes.
-/

namespace Typewright

open Source

/-! ## Texts before others -/

/-- A text that spells lexemes, the first of which may stand behind a blank. -/
structure Spelled (cs : List Char) (ls : List Lexeme) : Prop where
  spells : Spells cs ls
  free : ∀ l ∈ ls.head?, l.glued = false

theorem breaks_at {c : Char} (h : Text.isIdentifierRest c = false ∧ c ≠ '\\') (cs : List Char) : Breaks (c :: cs) := by
  intro d hd
  rw [List.head?_cons, Option.mem_some] at hd
  exact hd ▸ h

namespace Spelled

variable {c : Char} {cs : List Char} {ls : List Lexeme}

theorem nil : Spelled [] [] := ⟨.nil, by simp⟩

theorem blank (hc : isSpace c = true) (h : Spelled cs ls) : Spelled (c :: cs) ls := ⟨.blank hc h.free h.spells, h.free⟩

theorem blanks {gap : List Char} (hg : ∀ c ∈ gap, isSpace c = true) (h : Spelled cs ls) : Spelled (gap ++ cs) ls := by
  induction gap with
  | nil => exact h
  | cons c gap ih => exact .blank (hg c (by simp)) (ih fun d hd => hg d (by simp [hd]))

theorem lexeme {l : Lexeme} (hs : l.Starts cs) (hl : l.glued = false) (h : Spelled cs ls) :
    Spelled (l.text.toList ++ cs) (l :: ls) :=
  ⟨.lexeme hs h.spells, by simpa using hl⟩

theorem word {w : String} (hw : isWordText w = true) (hb : Breaks cs) (h : Spelled cs ls) :
    Spelled (w.toList ++ cs) (.word w :: ls) := .lexeme (starts_word hw hb false) rfl h

/-- A mark of one character. -/
theorem sign {m : String} (hm : m ∈ loneMarks) (hc : m = String.singleton c) (h : Spelled cs ls) :
    Spelled (c :: cs) (.mark m :: ls) := by
  have hs : m.toList = [c] := by rw [hc, String.toList_singleton]
  have := lexeme (starts_lone hm cs false) rfl h
  rwa [hs] at this

theorem arrow (h : Spelled cs ls) : Spelled ('=' :: '>' :: cs) (.mark "=>" :: ls) := by
  have hs : "=>".toList = ['=', '>'] := String.toList_ofList
  have := lexeme (starts_lone (m := "=>") (by decide) cs false) rfl h
  rwa [hs] at this

/-- A mark that a blank ends. -/
theorem spaced {m : String} (hm : m ∈ [":", "="]) (hc : m = String.singleton c) (h : Spelled (' ' :: cs) ls) :
    Spelled (c :: ' ' :: cs) (.mark m :: ls) := by
  have hs : m.toList = [c] := by rw [hc, String.toList_singleton]
  have := lexeme (starts_spaced hm cs false) rfl h
  rwa [hs] at this

theorem literal {s : String} {q : List Char} (hs : s.toList = '"' :: (q ++ ['"'])) (hq : ∀ c ∈ q, isQuotable c = true)
    (h : Spelled (')' :: cs) ls) : Spelled ('"' :: (q ++ '"' :: ')' :: cs)) (⟨.literal, s, false⟩ :: ls) := by
  have := lexeme (starts_literal hs hq cs) rfl h
  rw [hs] at this
  simpa using this

end Spelled

/-- What a text does before one that a word can end at. -/
def Spelling (text : List Char) (ls : List Lexeme) : Prop :=
  ∀ cs ms, Breaks cs → Spelled cs ms → Spelled (text ++ cs) (ls ++ ms)

theorem spelling_word {w : String} (hw : isWordText w = true) : Spelling w.toList [.word w] :=
  fun _ _ hb h => .word hw hb h

/-- Texts with a separator between them. -/
theorem spelling_intercalate {α : Type} {text : α → List Char} {lexemes : α → List Lexeme} {sep : List Char} {mid : List Lexeme}
    (hsep : ∀ cs ms, Spelled cs ms → Spelled (sep ++ cs) (mid ++ ms)) (hb : ∀ cs, Breaks (sep ++ cs)) {xs : List α}
    (item : ∀ x ∈ xs, Spelling (text x) (lexemes x)) :
    Spelling (sep.intercalate (xs.map text)) (mid.intercalate (xs.map lexemes)) := by
  intro cs ms hcs h
  induction xs with
  | nil => exact h
  | cons x xs ih =>
    have ih := ih fun y hy => item y (by simp [hy])
    cases xs with
    | nil => simpa [List.intercalate] using item x (by simp) cs ms hcs h
    | cons y xs =>
      have := item x (by simp) _ _ (hb _) (hsep _ _ ih)
      simpa [List.intercalate_cons_cons] using this

/-! ## Words in a row -/

theorem keywords_words :
    ∀ w ∈ ["const", "this", "class", "interface", "using", "namespace", "get", "set", "base"] ++ plainModifiers ++
    predefinedTypes,
      isWordText w = true := by
  decide +kernel

theorem isTypeName.isWordText {s : String} (h : isTypeName s = true) : isWordText s = true := by
  rw [isTypeName, Bool.or_eq_true] at h
  rcases h with h | h
  · exact isIdentifier.isWordText h
  · exact keywords_words s (List.mem_append_right _ (List.contains_iff_mem.mp h))

theorem isName.isWordText {s : String} (h : isName s = true) : isWordText s = true := by
  rw [isName, Bool.and_eq_true] at h
  exact h.1

theorem modifier_word {s : String} (h : s ∈ plainModifiers) : isWordText s = true :=
  keywords_words s (List.mem_append_left _ (List.mem_append_right _ h))

theorem Piece.Has.shown {good : String → Prop} {p : Piece} (h : p.Has good) : good p.shown := by
  obtain ⟨s, rfl, hs⟩ := h
  exact hs

theorem Piece.Has.isSome {good : String → Prop} {p : Piece} (h : p.Has good) : p.isSome = true := by
  obtain ⟨s, rfl, -⟩ := h
  rfl

theorem spelling_words {ws : List String} (h : ∀ w ∈ ws, isWordText w = true) : Spelling (joined ' ' ws) (ws.map .word) := by
  have hwords : ws.map Lexeme.word = ([] : List Lexeme).intercalate (ws.map fun w => [.word w]) := by
    induction ws with
    | nil => rfl
    | cons w ws ih =>
      have ih := ih fun v hv => h v (by simp [hv])
      cases ws with
      | nil => rfl
      | cons v ws =>
        rw [List.map_cons, ih]
        simp [List.intercalate_cons_cons]
  rw [hwords]
  exact spelling_intercalate (fun cs ms hs => .blank (by decide) hs) (fun cs => breaks_at (by decide) cs)
    fun w hw => spelling_word (h w hw)

theorem spelling_commas {ws : List String} (h : ∀ w ∈ ws, isWordText w = true) :
    Spelling (joined ',' ws) (Lexeme.commas (ws.map fun w => [.word w])) :=
  spelling_intercalate (fun cs ms hs => .sign (by decide) rfl hs) (fun cs => breaks_at (by decide) cs)
    fun w hw => spelling_word (h w hw)

theorem spells_dotted {ps : List String} (h : ∀ p ∈ ps, isWordText p = true) {cs : List Char} {ms : List Lexeme} (hb : Breaks cs)
    (hs : Spells cs ms) : Spells ((ps.map String.toList).flatMap ('.' :: ·) ++ cs)
      ((ps.flatMap fun q => [⟨.mark, ".", true⟩, ⟨.word, q, true⟩]) ++ ms) ∧
      Breaks ((ps.map String.toList).flatMap ('.' :: ·) ++ cs) := by
  induction ps with
  | nil => exact ⟨hs, hb⟩
  | cons p ps ih =>
    obtain ⟨ih, hbreaks⟩ := ih fun q hq => h q (by simp [hq])
    have hp := h p (by simp)
    obtain ⟨c, rest, hc, hd, hpoint, -⟩ := isWordText.head hp
    have hword := Spells.lexeme (starts_word hp hbreaks true) ih
    have hpoints : ".".toList = ['.'] := String.toList_ofList
    have hstarts : (⟨.mark, ".", true⟩ : Lexeme).Starts (p.toList ++ ((ps.map String.toList).flatMap ('.' :: ·) ++ cs)) := by
      rw [hc]
      exact starts_point hpoint hd _ true
    refine ⟨?_, breaks_at (by decide) _⟩
    simpa [hpoints] using Spells.lexeme hstarts hword

theorem spelling_dotted {ps : List String} (h : ∀ p ∈ ps, isWordText p = true) : Spelling (joined '.' ps) (Lexeme.dotted ps) := by
  intro cs ms hb hs
  cases ps with
  | nil => exact hs
  | cons p ps =>
    obtain ⟨hrest, hbreaks⟩ := spells_dotted (fun q (hq : q ∈ ps) => h q (by simp [hq])) hb hs.spells
    have hword := Spells.lexeme (starts_word (h p (by simp)) hbreaks false) hrest
    refine ⟨?_, by simp [Lexeme.dotted, Lexeme.word]⟩
    rw [joined, List.map_cons, intercalate_cons, List.append_assoc]
    exact hword

/-! ## Members -/

open Declaration.Script Template.Library

theorem Attribute.quoted_chars (arguments : List Piece) :
    (quoted arguments).toList = '"' :: (joined ',' (arguments.map Piece.shown) ++ ['"']) := by
  have hsep : "," = String.singleton ',' := rfl
  rw [quoted, Text.addQuotes, String.toList_append, String.toList_append, hsep, intercalate_chars]
  rfl

theorem mem_joined {sep c : Char} {ws : List String} (h : c ∈ joined sep ws) : c = sep ∨ ∃ w ∈ ws, c ∈ w.toList := by
  cases ws with
  | nil => simp [joined, List.intercalate] at h
  | cons w ws =>
    rw [joined, List.map_cons, intercalate_cons, List.mem_append, List.mem_flatMap] at h
    rcases h with h | ⟨v, hv, h⟩
    · exact .inr ⟨w, by simp, h⟩
    · obtain ⟨u, hu, rfl⟩ := List.mem_map.mp hv
      rcases List.mem_cons.mp h with rfl | h
      · exact .inl rfl
      · exact .inr ⟨u, by simp [hu], h⟩

theorem spelling_attribute {a : Attribute} (ha : a.Plain) : Spelling a.written.toList a.lexemes := by
  intro cs ms _ h
  have hname := isIdentifier.isWordText ha.name.shown
  rw [Attribute.written_chars]
  unfold Attribute.lexemes
  cases hargs : a.arguments.getD [] with
  | nil =>
    have hclose : Spelled (']' :: cs) (.mark "]" :: ms) := .sign (by decide) rfl h
    have hopen := Spelled.sign (m := "[") (c := '[') (by decide) rfl (.word hname (breaks_at (by decide) _) hclose)
    simpa using hopen
  | cons x xs =>
    have hquotable : ∀ c ∈ joined ',' ((x :: xs).map Piece.shown), isQuotable c = true := by
      intro c hc
      rcases mem_joined hc with rfl | ⟨w, hw, hc⟩
      · decide
      · obtain ⟨y, hy, rfl⟩ := List.mem_map.mp hw
        exact (ha.arguments y (hargs ▸ hy)).shown c hc
    have hclose : Spelled (')' :: ']' :: cs) (.mark ")" :: .mark "]" :: ms) := .sign (by decide) rfl (.sign (by decide) rfl h)
    have hliteral := Spelled.sign (m := "(") (c := '(') (by decide) rfl
      (Spelled.literal (Attribute.quoted_chars (x :: xs)) hquotable hclose)
    have hopen := Spelled.sign (m := "[") (c := '[') (by decide) rfl (.word hname (breaks_at (by decide) _) hliteral)
    simpa using hopen

theorem spelled_value {v : Json} (hv : v.IsValue) {cs : List Char} {ms : List Lexeme} (h : Spelled (';' :: cs) ms) :
    Spelled ((printed v).toList ++ ';' :: cs) (Lexeme.ofValue (printed v) ++ ms) := by
  rcases hv.cases with hid | hdigits | ⟨ds, hds, hdigits⟩
  · rw [Lexeme.ofValue_word (isIdentifier.isWordText hid)]
    exact .word (isIdentifier.isWordText hid) (breaks_at (by decide) _) h
  · rw [Lexeme.ofValue_digits hdigits]
    exact .lexeme (starts_number hdigits cs) rfl h
  · rw [Lexeme.ofValue_minus hds, hds]
    have hnumber := Spelled.lexeme (starts_number hdigits cs) rfl h
    rw [String.toList_ofList] at hnumber
    have hminus : "-".toList = ['-'] := String.toList_ofList
    have hstarts : (Lexeme.mark "-").Starts (ds ++ ';' :: cs) := by
      rw [isDigits, String.toList_ofList, Bool.and_eq_true, List.all_eq_true] at hdigits
      cases ds with
      | nil => cases hdigits.1
      | cons d ds => exact starts_minus (hdigits.2 d (by simp)) _
    have := Spelled.lexeme hstarts rfl hnumber
    rwa [Lexeme.mark, hminus] at this

theorem spelling_constant {c : Constant} (hc : c.Plain) : Spelling (constantText c).toList c.lexemes := by
  intro cs ms _ h
  have hend : Spelled (';' :: cs) (.mark ";" :: ms) := .sign (by decide) rfl h
  have hequals : Spelled (' ' :: '=' :: ' ' :: ((printed c.value).toList ++ ';' :: cs))
      (.mark "=" :: (Lexeme.ofValue (printed c.value) ++ .mark ";" :: ms)) :=
    .blank (by decide) (.spaced (by decide) rfl (.blank (by decide) (spelled_value hc.value hend)))
  have hwords : ∀ w ∈ constantWords c, isWordText w = true := by
    simp [constantWords, modifier_word hc.access.shown, isTypeName.isWordText hc.type.shown,
      isIdentifier.isWordText hc.name.shown,
      keywords_words "const"]
  rw [constantText_chars ⟨hc.access.isSome, hc.type.isSome, hc.name.isSome⟩]
  simpa [Constant.lexemes, constantWords] using spelling_words hwords _ _ (breaks_at (by decide) _) hequals

theorem spelling_property {p : Property} (hp : p.Plain) : Spelling (propertyText p).toList p.lexemes := by
  intro cs ms _ h
  have hwords : ∀ w ∈ propertyWords p, isWordText w = true := by
    simp [propertyWords, modifier_word hp.access.shown, isTypeName.isWordText hp.type.shown,
      isIdentifier.isWordText hp.name.shown]
  rw [propertyText_chars ⟨hp.access.isSome, hp.type.isSome, hp.name.isSome⟩]
  cases hb : p.isExpressionBodied with
  | true =>
    obtain ⟨e, he, hid⟩ := hp.expression hb
    have hend : Spelled (';' :: cs) (.mark ";" :: ms) := .sign (by decide) rfl h
    have harrow := Spelled.blank (c := ' ') (by decide) (.arrow (.blank (c := ' ') (by decide)
      (.word (isIdentifier.isWordText hid) (breaks_at (by decide) _) hend)))
    have hprinted : printed p.expression = e := by rw [he]; rfl
    have := spelling_words hwords _ _ (breaks_at (by decide) _) harrow
    simpa [Property.lexemes, propertyWords, hb, hprinted] using this
  | false =>
    have hset : "set".toList = ['s', 'e', 't'] := String.toList_ofList
    have hget : "get".toList = ['g', 'e', 't'] := String.toList_ofList
    have hall : "\x7b get; set; \x7d".toList =
      ['\x7b', ' ', 'g', 'e', 't', ';', ' ', 's', 'e', 't', ';', ' ', '\x7d'] := String.toList_ofList
    have hclose : Spelled (';' :: ' ' :: '\x7d' :: cs) (.mark ";" :: .mark "\x7d" :: ms) :=
      .sign (by decide) rfl (.blank (by decide) (.sign (by decide) rfl h))
    have hsetter := Spelled.word (keywords_words "set" (by simp)) (breaks_at (by decide) _) hclose
    rw [hset] at hsetter
    have hgetter := Spelled.word (keywords_words "get" (by simp)) (breaks_at (by decide) _)
      (Spelled.sign (m := ";") (c := ';') (by decide) rfl (.blank (c := ' ') (by decide) hsetter))
    rw [hget] at hgetter
    have hopen := Spelled.blank (c := ' ') (by decide)
      (Spelled.sign (m := "\x7b") (c := '\x7b') (by decide) rfl (.blank (c := ' ') (by decide) hgetter))
    have := spelling_words hwords _ _ (breaks_at (by decide) _) hopen
    simpa [Property.lexemes, propertyWords, hb, hall] using this

theorem spelling_parameter {p : Parameter} (hp : p.Plain) : Spelling (joined ' ' (parameterWords p)) p.lexemes := by
  have hlexemes : p.lexemes = (parameterWords p).map .word := by
    unfold Parameter.lexemes parameterWords
    split <;> rfl
  rw [hlexemes]
  refine spelling_words ?_
  unfold parameterWords
  split <;> simp [isTypeName.isWordText hp.type.shown, isIdentifier.isWordText hp.name.shown, keywords_words "this"]

def Method.headerLexemes (isInterface : Bool) (m : Method) : List Lexeme :=
  (m.keywords.getD []).map (.word ·.shown) ++ .word m.returnType.shown :: (if m.isConstructor then [] else [.word m.name.shown])
    ++ .mark "(" :: Lexeme.commas ((m.parameters.getD []).map Parameter.lexemes) ++ .mark ")" :: m.baseLexemes
    ++ if isInterface then [.mark ";"] else []

theorem spelled_baseCall {m : Method} (hargs : ∀ x ∈ m.baseArguments.getD [], x.Has (isIdentifier · = true)) {cs : List Char}
    {ms : List Lexeme} (h : Spelled cs ms) : Spelled (baseChars (m.baseArguments.getD []) cs) (m.baseLexemes ++ ms) := by
  unfold baseChars Method.baseLexemes
  cases hb : m.baseArguments.getD [] with
  | nil => exact h
  | cons x xs =>
    rw [hb] at hargs
    have hbase : ": base(".toList = ':' :: ' ' :: ("base".toList ++ ['(']) := by
      rw [show ": base(" = ": " ++ "base" ++ "(" from rfl, String.toList_append, String.toList_append]
      rfl
    have hwords : ∀ w ∈ (x :: xs).map Piece.shown, isWordText w = true := by
      intro w hw
      obtain ⟨y, hy, rfl⟩ := List.mem_map.mp hw
      exact isIdentifier.isWordText (hargs y hy).shown
    have hclose : Spelled (')' :: cs) (.mark ")" :: ms) := .sign (by decide) rfl h
    have hlist := spelling_commas hwords _ _ (breaks_at (by decide) _) hclose
    have hcall := Spelled.word (keywords_words "base" (by simp)) (breaks_at (by decide) _)
      (Spelled.sign (m := "(") (c := '(') (by decide) rfl hlist)
    have hcolon := Spelled.blank (c := ' ') (by decide)
      (Spelled.spaced (m := ":") (c := ':') (by decide) rfl (.blank (by decide) hcall))
    simpa [hbase, Function.comp_def] using hcolon

theorem spelled_parameters {ps : List Parameter} (hps : ∀ p ∈ ps, p.Plain) {cs : List Char} {ms : List Lexeme}
    (h : Spelled cs ms) :
    Spelled ('(' :: parameterChars ps cs) (.mark "(" :: (Lexeme.commas (ps.map Parameter.lexemes) ++ .mark ")" :: ms)) := by
  have hclose : Spelled (')' :: cs) (.mark ")" :: ms) := .sign (by decide) rfl h
  have hlist : Spelling ([',', ' '].intercalate (ps.map fun p => joined ' ' (parameterWords p)))
    (Lexeme.commas (ps.map Parameter.lexemes)) :=
    spelling_intercalate (fun cs ms hs => .sign (by decide) rfl (.blank (by decide) hs)) (fun cs => breaks_at (by decide) _)
      fun p hp => spelling_parameter (hps p hp)
  exact .sign (by decide) rfl (hlist _ _ (breaks_at (by decide) _) hclose)

theorem spelling_method {m : Method} (hm : m.Plain isIdentifier) (i : Bool) :
    Spelling (methodText i m).toList (m.headerLexemes i) := by
  intro cs ms _ h
  obtain ⟨ks, hks, hkeywords⟩ := hm.keywords
  obtain ⟨ps, hps, hparameters⟩ := hm.parameters
  have hend : Spelled (headerEnd i ++ cs) ((if i then [.mark ";"] else []) ++ ms) := by
    cases i with
    | true => exact .sign (by decide) rfl h
    | false => exact h
  have hwords : ∀ w ∈ signatureWords m, isWordText w = true := by
    intro w hw
    rw [signatureWords, hks] at hw
    rcases List.mem_append.mp hw with hw | hw
    · obtain ⟨k, hk, rfl⟩ := List.mem_map.mp hw
      exact modifier_word (hkeywords k hk).shown
    · have htype := hm.returnType.shown
      cases hcons : m.isConstructor with
      | true =>
        rw [hcons] at hw htype
        rw [List.mem_singleton.mp hw]
        exact isIdentifier.isWordText htype
      | false =>
        rw [hcons] at hw htype
        rcases List.mem_cons.mp hw with rfl | hw
        · exact isTypeName.isWordText htype
        · rw [List.mem_singleton.mp hw]
          exact isIdentifier.isWordText (hm.name hcons).shown
  have hheader := spelled_parameters hparameters (spelled_baseCall hm.baseArguments hend)
  have hall := spelling_words hwords _ _ (breaks_at (by decide) _) hheader
  have hchars : (methodText i m).toList ++ cs = joined ' ' (signatureWords m) ++
      '(' :: parameterChars ps (baseChars (m.baseArguments.getD []) (headerEnd i ++ cs)) := by
    rw [methodText_chars, hps]
    unfold parameterChars baseChars
    split <;> simp
  have hlexemes : m.headerLexemes i ++ ms = (signatureWords m).map .word ++
      .mark "(" :: (Lexeme.commas (ps.map Parameter.lexemes) ++
      .mark ")" :: (m.baseLexemes ++ ((if i then [.mark ";"] else []) ++ ms))) := by
    cases hcons : m.isConstructor <;> simp [Method.headerLexemes, signatureWords, hps, hcons]
  rw [hchars, hlexemes]
  exact hall

/-! ## Lines -/

def lineChars (es : List Entry) : List Char := es.flatMap fun e => (e.line "\t" 0).toList ++ ['\n']

def Lines (es : List Entry) (ls : List Lexeme) : Prop := ∀ cs ms, Spelled cs ms → Spelled (lineChars es ++ cs) (ls ++ ms)

theorem indentation_spaces (n : Nat) : ∀ c ∈ (indentation "\t" n).toList, isSpace c = true := by
  have htab : "\t".toList.all isSpace = true := by decide
  exact fun c hc => List.all_eq_true.mp htab c (mem_indentation.mp hc).2

namespace Lines

theorem nil : Lines [] [] := fun _ _ h => h

theorem append {es fs : List Entry} {ls ms : List Lexeme} (h : Lines es ls) (h' : Lines fs ms) : Lines (es ++ fs) (ls ++ ms) := by
  intro cs ns hs
  have := h _ _ (h' cs ns hs)
  simpa [lineChars] using this

theorem blank : Lines [.blank] [] := fun _ _ h => .blank (by decide) h

theorem deep {text : String} {ls : List Lexeme} (h : Spelling text.toList ls) (r : Nat) : Lines [.deep r text] ls := by
  intro cs ms hs
  have := Spelled.blanks (indentation_spaces (0 + r)) (h _ _ (breaks_at (by decide) _) (.blank (c := '\n') (by decide) hs))
  simpa [lineChars, Entry.line] using this

theorem flush {text : String} {ls : List Lexeme} (h : Spelling text.toList ls) : Lines [.flush text] ls := by
  intro cs ms hs
  have := h _ _ (breaks_at (by decide) _) (.blank (c := '\n') (by decide) hs)
  simpa [lineChars, Entry.line] using this

theorem flatMap {α : Type} {xs : List α} {f : α → List Entry} {g : α → List Lexeme} (h : ∀ x ∈ xs, Lines (f x) (g x)) :
    Lines (xs.flatMap f) (xs.flatMap g) := by
  induction xs with
  | nil => exact nil
  | cons x xs ih =>
    rw [List.flatMap_cons, List.flatMap_cons]
    exact (h x (by simp)).append (ih fun y hy => h y (by simp [hy]))

end Lines

theorem spelling_sign {m : String} (hm : m ∈ loneMarks) : Spelling m.toList [.mark m] :=
  fun cs _ _ h => .lexeme (starts_lone hm cs false) rfl h

theorem lines_attributes {as : Option (List Attribute)} (h : ∀ a ∈ as.getD [], a.Plain) (r : Nat) :
    Lines (attributeLines r as) ((as.getD []).flatMap Attribute.lexemes) := by
  rw [attributeLines, List.map_eq_flatMap]
  exact .flatMap fun a ha => .deep (spelling_attribute (h a ha)) r

theorem lines_method {m : Method} (hm : m.Plain isIdentifier) (i : Bool) (r : Nat) : Lines (methodLines i r m) (m.lexemes i) := by
  have hbody : Lines (bodyLines i r m) (if i then [] else [.mark "\x7b", .mark "\x7d"]) := by
    unfold bodyLines
    rw [hm.body]
    cases i with
    | true => exact .nil
    | false => exact Lines.append (.deep (spelling_sign (by decide)) r) (.deep (spelling_sign (by decide)) r)
  have hlines := ((lines_attributes hm.attributes r).append (.append (.deep (spelling_method hm i) r) hbody)).append .blank
  have hlexemes : m.lexemes i = (m.attributes.getD []).flatMap Attribute.lexemes ++
      (m.headerLexemes i ++ if i then [] else [.mark "\x7b", .mark "\x7d"]) ++ [] := by
    cases i <;> simp [Method.lexemes, Method.headerLexemes, Method.tailLexemes]
  rw [hlexemes]
  exact hlines

theorem lines_methods {ms : Option (List Method)} (h : ∀ m ∈ ms.getD [], m.Plain isIdentifier) (i : Bool) (r : Nat) :
    Lines (methodSection i r ms) ((ms.getD []).flatMap (Method.lexemes i)) := by
  unfold methodSection
  cases hm : ms.getD [] with
  | nil => exact .nil
  | cons m rest =>
    rw [hm] at h
    exact Lines.blank.append (.flatMap fun m hm => lines_method (h m hm) i r)

/-! ## Types -/

theorem spelling_headline {d : Declaration} (hd : d.PlainType isIdentifier) :
    Spelling (headline d).toList ((d.keywords.getD []).map (.word ·.shown) ++
    .word d.kindWord :: .word d.name.shown :: d.baseLexemes) := by
  intro cs ms hb h
  obtain ⟨ks, hks, hkeywords⟩ := hd.keywords
  have hwords : ∀ w ∈ headlineWords d, isWordText w = true := by
    intro w hw
    rw [headlineWords, hks] at hw
    rcases List.mem_append.mp hw with hw | hw
    · obtain ⟨k, hk, rfl⟩ := List.mem_map.mp hw
      exact modifier_word (hkeywords k hk).shown
    · simp only [List.mem_cons, List.not_mem_nil, or_false] at hw
      rcases hw with rfl | rfl
      · unfold Declaration.kindWord
        split
        · exact keywords_words "interface" (by simp)
        · exact keywords_words "class" (by simp)
      · exact isIdentifier.isWordText hd.name.shown
  have hbases : Spelled (derivation d ++ cs) (d.baseLexemes ++ ms) ∧ Breaks (derivation d ++ cs) := by
    unfold derivation Declaration.baseLexemes
    cases hi : d.implementations with
    | none => exact ⟨h, hb⟩
    | some i =>
      refine ⟨?_, breaks_at (by decide) _⟩
      have hparts : ∀ p ∈ parts ',' i, isWordText p = true := fun p hp => isIdentifier.isWordText (hd.implementations i hi p hp)
      have hlist := spelling_commas hparts cs ms hb h
      rw [joined, parts_chars] at hlist
      exact .blank (by decide) (.spaced (by decide) rfl (.blank (by decide) hlist))
  have := spelling_words hwords _ _ hbases.2 hbases.1
  rw [headline_chars, List.append_assoc]
  simpa [headlineWords, Function.comp_def] using this

namespace Declaration

theorem PlainType.hasTexts {constructed : String → Bool} {d : Declaration} (h : d.PlainType constructed) :
    ∀ a ∈ d.allAttributes, a.HasTexts := by
  obtain ⟨as, has, hattributes⟩ := h.attributes
  intro a ha x hx
  have hplain : a.Plain := by
    rw [allAttributes, has, List.mem_append, List.mem_flatMap] at ha
    rcases ha with ha | ⟨m, hm, ha⟩
    · exact hattributes a ha
    · exact (h.methods m hm).attributes a ha
  obtain ⟨s, rfl, -⟩ := hplain.arguments x hx
  simp

theorem PlainType.complete {constructed : String → Bool} {d : Declaration} (h : d.PlainType constructed) : ¬ d.Incomplete := by
  obtain ⟨ks, hks, -⟩ := h.keywords
  obtain ⟨as, has, -⟩ := h.attributes
  rintro (hi | hk | ha | ⟨m, hm, hi⟩)
  · exact h.imports hi
  · rw [hks] at hk
    cases hk
  · rw [has] at ha
    cases ha
  · obtain ⟨ks, hks, -⟩ := (h.methods m hm).keywords
    obtain ⟨ps, hps, -⟩ := (h.methods m hm).parameters
    rcases hi with hi | hi | ⟨hclass, hi⟩
    · rw [hks] at hi
      cases hi
    · rw [hps] at hi
      cases hi
    · exact h.bodies hclass m hm hi

/-- The lines of a type spell its lexemes. -/
theorem lines_type (d : Declaration) : d.Everywhere (PlainType isIdentifier) → ∀ r, Lines (typeLines r d) d.lexemes := by
  induction d using nested_induction with
  | h d ih =>
    intro hplain r
    obtain ⟨hd, hnested⟩ := everywhere_iff.mp hplain
    have htexts : d.TextArguments := fun c hc => (hplain c hc).hasTexts
    obtain ⟨as, has, hattributes⟩ := hd.attributes
    have hinner : Lines (d.nestedIn.flatMap fun c => .blank :: typeLines (r + 1) c ++ [.blank]) (d.nestedIn.flatMap lexemes) := by
      refine .flatMap fun c hc => ?_
      simpa using (Lines.blank.append (ih c hc (hnested c hc) (r + 1))).append .blank
    have hconstants : Lines (constantLines (r + 1) d.constants) ((d.constants.getD []).flatMap Constant.lexemes) := by
      rw [constantLines, List.map_eq_flatMap]
      exact .flatMap fun c hc => .deep (spelling_constant (hd.constants c hc)) (r + 1)
    have hproperties : Lines (propertyLines (r + 1) d.properties) ((d.properties.getD []).flatMap Property.lexemes) := by
      rw [propertyLines, List.map_eq_flatMap]
      exact .flatMap fun p hp => .deep (spelling_property (hd.properties p hp)) (r + 1)
    have hmembers := hconstants.append (hproperties.append ((lines_methods hd.methods d.isInterface (r + 1)).append
      (.deep (spelling_sign (m := "\x7d") (by decide)) r)))
    have hall := (lines_attributes (show ∀ a ∈ d.attributes.getD [], a.Plain by rw [has]; exact hattributes) r).append
      (.append (.deep (spelling_headline hd) r)
      (.append (.deep (spelling_sign (m := "\x7b") (by decide)) r) (hinner.append hmembers)))
    rw [typeLines_eq htexts, lexemes_eq, linesAround, lexemesAround, memberLexemes]
    simpa using hall

/-! ## Files -/

theorem spelling_using {x : Piece} (hx : x.Has fun n => ∀ p ∈ parts '.' n, isName p = true) :
    Spelling ("using " ++ x.shown ++ ";").toList (usingLexemes x) := by
  intro cs ms _ h
  have hparts : ∀ p ∈ parts '.' x.shown, isWordText p = true := fun p hp => isName.isWordText (hx.shown p hp)
  have hend : Spelled (';' :: cs) (.mark ";" :: ms) := .sign (by decide) rfl h
  have hname := spelling_dotted hparts _ _ (breaks_at (by decide) _) hend
  rw [joined, parts_chars] at hname
  have := Spelled.word (keywords_words "using" (by simp)) (breaks_at (by decide) _) (.blank (c := ' ') (by decide) hname)
  have husing : "using ".toList = "using".toList ++ [' '] := by decide
  simpa [usingLexemes, husing] using this

theorem spelling_namespace {x : Piece} (hx : x.Has fun n => ∀ p ∈ parts '.' n, isName p = true) :
    Spelling ("namespace " ++ x.shown).toList (.word "namespace" :: Lexeme.dotted (parts '.' x.shown)) := by
  intro cs ms hb h
  have hparts : ∀ p ∈ parts '.' x.shown, isWordText p = true := fun p hp => isName.isWordText (hx.shown p hp)
  have hname := spelling_dotted hparts _ _ hb h
  rw [joined, parts_chars] at hname
  have := Spelled.word (keywords_words "namespace" (by simp)) (breaks_at (by decide) _) (.blank (c := ' ') (by decide) hname)
  have hnamespace : "namespace ".toList = "namespace".toList ++ [' '] := by decide
  simpa [hnamespace] using this

/-- The lines of a file below its comment. -/
theorem lines_file {d : Declaration} (hd : d.Plain isIdentifier) (comment : String) :
    ∃ es, scriptLines comment d = .flush comment :: es ∧ Lines es d.fileLexemes := by
  have htype := lines_type d hd.everywhere 1
  have hscope : Lines [.flush ("namespace " ++ d.namespace.shown)]
    (.word "namespace" :: Lexeme.dotted (parts '.' d.namespace.shown)) :=
    .flush (spelling_namespace hd.scope)
  have hhead : ∃ hs, headLines comment d = .flush comment :: hs ∧
      Lines hs ((d.imports.getD []).flatMap usingLexemes ++
      (.word "namespace" :: Lexeme.dotted (parts '.' d.namespace.shown))) := by
    have himported := hd.imported
    unfold headLines
    cases hi : d.imports.getD [] with
    | nil => exact ⟨_, rfl, Lines.blank.append hscope⟩
    | cons x xs =>
      rw [hi] at himported
      have hlines : Lines ((x :: xs).map fun i => .flush ("using " ++ i.shown ++ ";")) ((x :: xs).flatMap usingLexemes) := by
        rw [List.map_eq_flatMap]
        exact .flatMap fun y hy => .flush (spelling_using (himported y hy))
      refine ⟨_, rfl, ?_⟩
      simpa using Lines.blank.append ((hlines.append .blank).append hscope)
  obtain ⟨hs, hhead, hlines⟩ := hhead
  have hall := hlines.append (.append (.deep (spelling_sign (m := "\x7b") (by decide)) 0)
    (htype.append (.deep (spelling_sign (m := "\x7d") (by decide)) 0)))
  refine ⟨_, ?_, by simpa [fileLexemes] using hall⟩
  rw [scriptLines, hd.freestanding, hhead]
  simp

theorem layoutText_chars (es : List Entry) : (layoutText "\t" "\n" 0 es).toList = lineChars es :=
  toList_layoutText "\t" "\n" 0 es

/-- The text of a plain declaration is cut into its lexemes. -/
theorem lex_file {d : Declaration} (hd : d.Plain isIdentifier) :
    ∃ text lead ts, (d.render 0 {}).outcome = .ok text ∧ lex text = some ts ∧ Led lead d.fileLexemes ts := by
  have htexts : d.TextArguments := fun c hc => (hd.everywhere c hc).hasTexts
  have hcomplete : d.Everywhere fun c => ¬ c.Incomplete := fun c hc => (hd.everywhere c hc).complete
  have hrender : (d.render 0 {}).outcome = .ok (layoutText "\t" "\n" 0 (scriptLines "// Auto-generated code" d)) :=
    outcome_complete htexts hcomplete 0 {} "\t" rfl
  generalize htext : layoutText "\t" "\n" 0 (scriptLines "// Auto-generated code" d) = text at hrender
  obtain ⟨es, hes, hlines⟩ := lines_file hd "// Auto-generated code"
  have hspelled := Spelled.blank (c := '\n') (by decide) (hlines [] [] .nil)
  rw [List.append_nil, List.append_nil] at hspelled
  have hcomment : "// Auto-generated code".toList = '/' :: '/' :: " Auto-generated code".toList := by decide
  have hchars : text.toList = '/' :: '/' :: (" Auto-generated code".toList ++ '\n' :: lineChars es) := by
    rw [← htext, layoutText_chars, hes, lineChars, List.flatMap_cons, Entry.line, hcomment]
    simp [lineChars]
  have hlength : ('\n' :: lineChars es).length < text.length := by
    rw [← String.length_toList, hchars]
    simp only [List.length_cons, List.length_append]
    omega
  have hline : ∀ c ∈ " Auto-generated code".toList, isLineEnd c = false := by
    have hall : " Auto-generated code".toList.all (!isLineEnd ·) = true := by decide +kernel
    simpa using hall
  have hend : ∀ c ∈ ('\n' :: lineChars es).head?, isLineEnd c = true := by
    intro c hc
    rw [List.head?_cons, Option.mem_some] at hc
    exact hc ▸ by decide
  obtain ⟨lead, ts, hlex, hled⟩ := hspelled.spells.lex hlength ([] ++
    [.note (String.ofList ('/' :: '/' :: " Auto-generated code".toList))])
  refine ⟨text, lead, ts, hrender, ?_, hled⟩
  rw [lex, hchars, lexFrom_comment hline hend]
  exact hlex

end Declaration

end Typewright
