import Mathlib.Data.List.Forall2
import Typewright.Source.Lexer

/-!
Texts and the tokens they are read as. The lexer takes a text from the left and puts the trivia it meets before the next
token; here a text is built from the right, and each step says what the lexer does with it.

`Spells` has two steps: a blank goes before a text, or a lexeme that is read back from the front of it (`Lexeme.Starts`). A
lexeme is a token without its trivia, with a mark when nothing may stand before it (`glued`). Blanks that meet are one blank
before the next token, so what stands before a token is known only when its text is complete, and the induction takes the
blanks at the front apart from what follows them (`Spells.cut`).

Proved:
- `Spells.lex`: such a text is cut into just these lexemes, whatever trivia came before it.
- when a lexeme is read back. A word needs a character after it that is none of a word (`starts_word`), digits a semicolon
  (`starts_number`), a literal a closing parenthesis (`starts_literal`). Marks that begin no longer mark need nothing
  (`starts_lone`); a colon and an equals sign, which do, are read alone before a blank (`starts_spaced`), and a point and a
  minus sign before what follows them here (`starts_point`, `starts_minus`).
- `lexFrom_comment`: a comment up to the end of its line is trivia.
-/

namespace Typewright.Source

/-- A token but for what stands before it. A glued one has nothing before it. -/
structure Lexeme where
  kind : TokenKind
  text : String
  glued : Bool := false

namespace Lexeme

structure Is (l : Lexeme) (t : Token) : Prop where
  kind : t.kind = l.kind
  text : t.text = l.text
  quiet : ∀ v ∈ t.lead, v.isNote = false
  glued : l.glued = true → t.lead = []

/-- The lexeme is what is read first where it stands before `rest`. -/
structure Starts (l : Lexeme) (rest : List Char) : Prop where
  read : tokenAt (l.text.toList ++ rest) = some (l.kind, l.text.toList, rest)
  head : ∃ c cs, l.text.toList = c :: cs ∧ isSpace c = false ∧ c ≠ '/' ∧ c ≠ '#'

end Lexeme

inductive Spells : List Char → List Lexeme → Prop
  | nil : Spells [] []
  | blank {c : Char} {cs : List Char} {ls : List Lexeme} :
      isSpace c = true → (∀ l ∈ ls.head?, l.glued = false) → Spells cs ls → Spells (c :: cs) ls
  | lexeme {l : Lexeme} {cs : List Char} {ls : List Lexeme} :
      l.Starts cs → Spells cs ls → Spells (l.text.toList ++ cs) (l :: ls)

/-! ## Reading -/

def Led (lead : List Trivia) : List Lexeme → List Token → Prop
  | [], ts => ts = []
  | l :: ls, ts => ∃ us, ts = ⟨lead, l.kind, l.text⟩ :: us ∧ List.Forall₂ Lexeme.Is ls us

theorem Led.forall₂ {lead : List Trivia} {ls : List Lexeme} {ts : List Token} (h : Led lead ls ts)
    (hquiet : ∀ v ∈ lead, v.isNote = false) (hglued : ∀ l ∈ ls.head?, l.glued = true → lead = []) :
    List.Forall₂ Lexeme.Is ls ts := by
  cases ls with
  | nil =>
    rw [Led] at h
    exact h ▸ .nil
  | cons l ls =>
    obtain ⟨us, rfl, hus⟩ := h
    exact .cons ⟨rfl, rfl, hquiet, hglued l (by simp)⟩ hus

theorem lexFrom_blanks {gap body : List Char} (hg : ∀ c ∈ gap, isSpace c = true) (hb : ∀ c ∈ body.head?, isSpace c = false)
    (hne : gap ≠ []) (fuel : Nat) (lead : List Trivia) :
    lexFrom (fuel + 1) lead (gap ++ body) = lexFrom fuel (lead ++ [.blank (String.ofList gap)]) body := by
  obtain ⟨c, gap, rfl⟩ := List.exists_cons_of_ne_nil hne
  have hc : isSpace c = true := hg c (by simp)
  have hgap : ∀ c ∈ gap, isSpace c = true := fun d hd => hg d (by simp [hd])
  have htake : (gap ++ body).takeWhile isSpace = gap := by
    rw [List.takeWhile_append_of_pos hgap]
    cases body with
    | nil => simp
    | cons b _ => simp [hb b (by simp)]
  have hdrop : (gap ++ body).dropWhile isSpace = body := by
    rw [List.dropWhile_append_of_pos hgap]
    cases body with
    | nil => simp
    | cons b _ => simp [hb b (by simp)]
  rw [List.cons_append, lexFrom.eq_def]
  simp only [hc, if_true, cutWhile, htake, hdrop]

theorem lexFrom_token {l : Lexeme} {rest : List Char} (h : l.Starts rest) (fuel : Nat) (lead : List Trivia) :
    lexFrom (fuel + 1) lead (l.text.toList ++ rest) = (lexFrom fuel [] rest).map (⟨lead, l.kind, l.text⟩ :: ·) := by
  obtain ⟨hread, c, cs, hcs, hspace, hslash, hsign⟩ := h
  rw [hcs, List.cons_append] at hread ⊢
  rw [lexFrom]
  · rw [if_neg (by simp [hspace]), hread, ← hcs]
    simp only [String.ofList_toList]
  · exact hsign
  · exact fun _ hc => absurd hc hslash
  · exact fun _ hc => absurd hc hslash

/-- A comment on a line of its own is a note before what follows. -/
theorem lexFrom_comment {cs rest : List Char} (hc : ∀ c ∈ cs, isLineEnd c = false) (hr : ∀ c ∈ rest.head?, isLineEnd c = true)
    (fuel : Nat) (lead : List Trivia) : lexFrom (fuel + 1) lead ('/' :: '/' :: (cs ++ rest)) =
      lexFrom fuel (lead ++ [.note (String.ofList ('/' :: '/' :: cs))]) rest := by
  have hall : ∀ c ∈ '/' :: cs, (!isLineEnd c) = true := by
    intro c hmem
    rcases List.mem_cons.mp hmem with rfl | hmem
    · decide
    · simp [hc c hmem]
  have hcut : cutWhile (!isLineEnd ·) ('/' :: cs ++ rest) = ('/' :: cs, rest) := by
    rw [cutWhile, List.takeWhile_append_of_pos hall, List.dropWhile_append_of_pos hall]
    cases rest with
    | nil => simp
    | cons c rest => simp [hr c (by simp)]
  rw [lexFrom.eq_def]
  simp only [show isSpace '/' = false by decide, Bool.false_eq_true, if_false, ← List.cons_append, hcut]
  rfl

/-- A text is blanks and then a body, and the body reads as its lexemes. -/
theorem Spells.cut {cs : List Char} {ls : List Lexeme} (h : Spells cs ls) :
    ∃ gap body, cs = gap ++ body ∧ (∀ c ∈ gap, isSpace c = true) ∧ (∀ c ∈ body.head?, isSpace c = false) ∧
      (gap ≠ [] → ∀ l ∈ ls.head?, l.glued = false) ∧
      ∀ fuel lead, body.length < fuel → ∃ ts, lexFrom fuel lead body = some ts ∧ Led lead ls ts := by
  induction h with
  | nil =>
    refine ⟨[], [], rfl, by simp, by simp, by simp, ?_⟩
    intro fuel lead hf
    cases fuel with
    | zero => omega
    | succ fuel => exact ⟨[], rfl, rfl⟩
  | @blank c cs ls hc hl _ ih =>
    obtain ⟨gap, body, rfl, hgap, hbody, -, hlex⟩ := ih
    refine ⟨c :: gap, body, rfl, ?_, hbody, fun _ => hl, hlex⟩
    intro d hd
    rcases List.mem_cons.mp hd with rfl | hd
    · exact hc
    · exact hgap d hd
  | @lexeme l cs ls hl _ ih =>
    obtain ⟨gap, body, rfl, hgap, hbody, hglued, hlex⟩ := ih
    obtain ⟨-, c, cs, hcs, hspace, -, -⟩ := id hl
    refine ⟨[], l.text.toList ++ (gap ++ body), rfl, by simp, ?_, by simp, ?_⟩
    · intro d hd
      rw [hcs, List.cons_append, List.head?_cons, Option.mem_some] at hd
      exact hd ▸ hspace
    intro fuel lead hf
    have hlen : 0 < l.text.toList.length := by rw [hcs]; simp
    rw [List.length_append, List.length_append] at hf
    obtain ⟨fuel, rfl⟩ : ∃ n, fuel = n + 1 := ⟨fuel - 1, by omega⟩
    rw [lexFrom_token hl]
    -- the blanks between this lexeme and the next become the lead of the next
    have hrest : ∃ ts, lexFrom fuel [] (gap ++ body) = some ts ∧ List.Forall₂ Lexeme.Is ls ts := by
      by_cases hne : gap = []
      · subst hne
        obtain ⟨ts, hts, h⟩ := hlex fuel [] (by simp at hf; omega)
        exact ⟨ts, hts, h.forall₂ (by simp) (by simp)⟩
      · have hpos : 0 < gap.length := List.length_pos_iff.mpr hne
        obtain ⟨fuel, rfl⟩ : ∃ n, fuel = n + 1 := ⟨fuel - 1, by omega⟩
        obtain ⟨ts, hts, h⟩ := hlex fuel ([] ++ [.blank (String.ofList gap)]) (by omega)
        refine ⟨ts, by rw [lexFrom_blanks hgap hbody hne, hts], h.forall₂ (by simp [Trivia.isNote]) ?_⟩
        intro l hl ht
        rw [hglued hne l hl] at ht
        cases ht
    obtain ⟨ts, hts, hforall⟩ := hrest
    exact ⟨_, by rw [hts, Option.map_some], ts, rfl, hforall⟩

/-- A text is cut into its lexemes, behind any trivia. -/
theorem Spells.lex {cs : List Char} {ls : List Lexeme} (h : Spells cs ls) {fuel : Nat} (hf : cs.length < fuel)
    (lead : List Trivia) : ∃ lead' ts, lexFrom fuel lead cs = some ts ∧ Led lead' ls ts := by
  obtain ⟨gap, body, rfl, hgap, hbody, -, hlex⟩ := h.cut
  rw [List.length_append] at hf
  by_cases hne : gap = []
  · subst hne
    exact ⟨lead, hlex fuel lead (by simpa using hf)⟩
  · have hpos : 0 < gap.length := List.length_pos_iff.mpr hne
    obtain ⟨fuel, rfl⟩ : ∃ n, fuel = n + 1 := ⟨fuel - 1, by omega⟩
    rw [lexFrom_blanks hgap hbody hne]
    exact ⟨_, hlex fuel _ (by omega)⟩

/-! ## Words -/

def Breaks (rest : List Char) : Prop := ∀ c ∈ rest.head?, Text.isIdentifierRest c = false ∧ c ≠ '\\'

theorem codeEscape_append {cs : List Char} (h : codeEscapeLength cs ≠ 0) (rest : List Char) :
    codeEscapeLength (cs ++ rest) = codeEscapeLength cs ∧ codeEscapeLength cs ≤ cs.length := by
  unfold codeEscapeLength at h
  split at h
  · rename_i tail
    rw [ne_eq, ite_eq_right_iff, Classical.not_imp, Bool.and_eq_true, decide_eq_true_iff] at h
    have hlen : 4 ≤ tail.length := by have := h.1.1; rw [List.length_take] at this; omega
    simp only [List.cons_append, codeEscapeLength, List.take_append_of_le_length hlen, h.1, decide_true, Bool.and_self,
      if_true, List.length_cons, true_and]
    omega
  · rename_i tail
    rw [ne_eq, ite_eq_right_iff, Classical.not_imp, Bool.and_eq_true, decide_eq_true_iff] at h
    have hlen : 8 ≤ tail.length := by have := h.1.1; rw [List.length_take] at this; omega
    simp only [List.cons_append, codeEscapeLength, List.take_append_of_le_length hlen, h.1, decide_true, Bool.and_self,
      if_true, List.length_cons, true_and]
    omega
  · exact absurd rfl h

theorem codeEscape_none {c : Char} (h : c ≠ '\\') (rest : List Char) : codeEscapeLength (c :: rest) = 0 := by
  unfold codeEscapeLength
  split
  · rename_i heq
    exact absurd (List.cons.inj heq).1 h
  · rename_i heq
    exact absurd (List.cons.inj heq).1 h
  · rfl

theorem wordRest_breaks {rest : List Char} (h : Breaks rest) (fuel : Nat) : wordRest fuel rest = ([], rest) := by
  cases fuel with
  | zero => rfl
  | succ fuel =>
    cases rest with
    | nil => rfl
    | cons c rest =>
      obtain ⟨hc, hb⟩ := h c rfl
      simp only [wordRest, hc, Bool.false_eq_true, if_false, codeEscape_none hb]

/-- What continues a word alone continues it before a break. -/
theorem wordRest_append {rest : List Char} (h : Breaks rest) (fuel : Nat) : ∀ {cs : List Char} {n : Nat},
    (wordRest n cs).2 = [] → cs.length < n → cs.length < fuel → wordRest fuel (cs ++ rest) = (cs, rest) := by
  induction fuel with
  | zero => intro cs n _ _ hf; omega
  | succ fuel ih =>
    intro cs n hn hlen hf
    cases cs with
    | nil => exact wordRest_breaks h _
    | cons c cs =>
      obtain ⟨n, rfl⟩ : ∃ m, n = m + 1 := ⟨n - 1, by omega⟩
      rw [List.length_cons] at hlen hf
      rw [wordRest] at hn
      rw [List.cons_append, wordRest]
      by_cases hc : Text.isIdentifierRest c = true
      · rw [if_pos hc] at hn ⊢
        rw [ih hn (by omega) (by omega)]
        rfl
      · rw [if_neg hc] at hn ⊢
        by_cases he : codeEscapeLength (c :: cs) = 0
        · simp [he] at hn
        · -- an escaped character lies within the word as a whole
          obtain ⟨happ, hle⟩ := codeEscape_append he rest
          obtain ⟨k, hk⟩ : ∃ k, codeEscapeLength (c :: cs) = k + 1 := Nat.exists_eq_succ_of_ne_zero he
          rw [List.cons_append] at happ
          rw [hk] at hn hle happ
          rw [happ]
          simp only [List.length_cons, List.drop_succ_cons, List.take_succ_cons] at hn hle ⊢
          have hdrop : (cs.drop k).length ≤ cs.length := by simp
          rw [List.drop_append_of_le_length (by omega), List.take_append_of_le_length (by omega),
            ih hn (by omega) (by omega)]
          simp [Cut.prepend]

def isBareWord (cs : List Char) : Bool := startsWord cs && (wordRest (cs.length + 1) cs).2.isEmpty

/-- The text is a word: a name or a keyword, perhaps behind an at sign. -/
def isWordText (s : String) : Bool :=
  match s.toList with
  | '@' :: cs => isBareWord cs
  | cs => isBareWord cs

theorem isIdentifierStart_low {c : Char} (h : c.toNat < 65) : Text.isIdentifierStart c = false := by
  rw [Text.isIdentifierStart, if_pos (by omega), Bool.or_eq_false_iff]
  constructor
  · rw [Bool.eq_false_iff]
    intro ha
    have ha : (decide ('A'.val ≤ c.val ∧ c.val ≤ 'Z'.val) || decide ('a'.val ≤ c.val) && decide (c.val ≤ 'z'.val)) = true := ha
    simp only [Bool.or_eq_true, Bool.and_eq_true, decide_eq_true_eq] at ha
    rcases ha with ⟨ha, -⟩ | ⟨ha, -⟩
    · have ha : 65 ≤ c.toNat := ha
      omega
    · have ha : 97 ≤ c.toNat := ha
      omega
  · rw [beq_eq_false_iff_ne]
    rintro rfl
    exact absurd h (by decide)

/-- The blanks that are no ASCII start no identifier either. -/
theorem isSpace_cases {c : Char} (h : isSpace c = true) :
    c.toNat < 33 ∨ c = '\u00a0' ∨ c = '\ufeff' ∨ c = '\u3000' := by
  simp only [isSpace, Bool.or_eq_true, Bool.and_eq_true, decide_eq_true_eq, beq_iff_eq] at h
  rcases h with (((rfl | ⟨-, hr⟩) | h) | h) | h
  · exact .inl (by decide)
  · have hr : c.toNat ≤ 13 := hr
    exact .inl (by omega)
  · exact .inr (.inl h)
  · exact .inr (.inr (.inl h))
  · exact .inr (.inr (.inr h))

theorem isIdentifierStart_of_space {c : Char} (h : isSpace c = true) : Text.isIdentifierStart c = false := by
  have far : Text.isIdentifierStart '\u00a0' = false ∧ Text.isIdentifierStart '\ufeff' = false ∧
      Text.isIdentifierStart '\u3000' = false := by decide +kernel
  rcases isSpace_cases h with hlow | rfl | rfl | rfl
  · exact isIdentifierStart_low (by omega)
  · exact far.1
  · exact far.2.1
  · exact far.2.2

theorem startsWord_append {cs : List Char} (h : startsWord cs = true) (rest : List Char) : startsWord (cs ++ rest) = true := by
  cases cs with
  | nil => cases h
  | cons c cs =>
    rw [startsWord, Bool.or_eq_true] at h
    rw [List.cons_append, startsWord, Bool.or_eq_true]
    rcases h with h | h
    · exact .inl h
    · refine .inr ?_
      rw [bne_iff_ne] at h ⊢
      rw [← List.cons_append, (codeEscape_append h rest).1]
      exact h

/-- A word starts with no character that starts anything else. -/
theorem startsWord_head {c : Char} {cs : List Char} (h : startsWord (c :: cs) = true) :
    isSpace c = false ∧ c ≠ '/' ∧ c ≠ '#' := by
  rw [startsWord, Bool.or_eq_true] at h
  rcases h with h | h
  · refine ⟨?_, ?_, ?_⟩
    · rw [Bool.eq_false_iff]
      intro hs
      rw [isIdentifierStart_of_space hs] at h
      cases h
    · rintro rfl
      exact absurd h (by decide)
    · rintro rfl
      exact absurd h (by decide)
  · by_cases hb : c = '\\'
    · subst hb
      decide
    · rw [codeEscape_none hb] at h
      cases h

theorem startsWord_other {c : Char} (h : Text.isIdentifierStart c = false) (hb : c ≠ '\\') (rest : List Char) :
    startsWord (c :: rest) = false := by
  rw [startsWord, h, codeEscape_none hb]
  rfl

/-- A word is read back where it breaks off. -/
theorem starts_word {w : String} (h : isWordText w = true) {rest : List Char} (hr : Breaks rest) (glued : Bool) :
    (⟨.word, w, glued⟩ : Lexeme).Starts rest := by
  have bare : ∀ {cs : List Char}, isBareWord cs = true →
      startsWord (cs ++ rest) = true ∧ wordRest ((cs ++ rest).length + 1) (cs ++ rest) = (cs, rest) := by
    intro cs hcs
    rw [isBareWord, Bool.and_eq_true, List.isEmpty_iff] at hcs
    exact ⟨startsWord_append hcs.1 rest, wordRest_append hr _ hcs.2 (by omega) (by rw [List.length_append]; omega)⟩
  unfold isWordText at h
  split at h
  · rename_i cs hw
    obtain ⟨hstart, hword⟩ := bare h
    refine ⟨?_, '@', cs, hw, by decide, by decide, by decide⟩
    have hat : startsWord ('@' :: (cs ++ rest)) = false := startsWord_other (by decide) (by decide) _
    simp only [hw, List.cons_append, tokenAt, hat, Bool.false_eq_true, if_false, beq_self_eq_true, hstart, Bool.and_self,
      if_true, hword, Cut.prepend, List.nil_append]
  · obtain ⟨hstart, hword⟩ := bare h
    cases hw : w.toList with
    | nil =>
      rw [hw] at h
      cases h
    | cons c cs =>
      rw [hw] at hstart hword h
      have hhead : startsWord (c :: cs) = true := by
        rw [isBareWord, Bool.and_eq_true] at h
        exact h.1
      refine ⟨?_, c, cs, hw, startsWord_head hhead⟩
      simp only [hw, List.cons_append] at hstart hword ⊢
      rw [tokenAt, if_pos hstart, hword]

/-- A word starts with no character that a number or a point could start with. -/
theorem isWordText.head {w : String} (h : isWordText w = true) :
    ∃ c cs, w.toList = c :: cs ∧ c.isDigit = false ∧ c ≠ '.' ∧ c ≠ '-' := by
  have low : ∀ {c : Char} {cs : List Char}, startsWord (c :: cs) = true → c.toNat < 65 → False := by
    intro c cs hs hc
    have hb : c ≠ '\\' := by
      rintro rfl
      exact absurd hc (by decide)
    rw [startsWord_other (isIdentifierStart_low hc) hb] at hs
    cases hs
  unfold isWordText at h
  split at h
  · rename_i cs hw
    exact ⟨'@', cs, hw, by decide, by decide, by decide⟩
  · rw [isBareWord, Bool.and_eq_true] at h
    cases hw : w.toList with
    | nil =>
      rw [hw] at h
      cases h.1
    | cons c cs =>
      rw [hw] at h
      refine ⟨c, cs, rfl, ?_, ?_, ?_⟩
      · rw [Bool.eq_false_iff]
        intro hd
        simp only [Char.isDigit, Bool.and_eq_true, decide_eq_true_eq] at hd
        have hr : c.toNat ≤ 57 := hd.2
        exact low h.1 (by omega)
      · rintro rfl
        exact low h.1 (by decide)
      · rintro rfl
        exact low h.1 (by decide)

/-! ## Numbers -/

def isDigits (s : String) : Bool := !s.toList.isEmpty && s.toList.all Char.isDigit

theorem isDigit_bounds {c : Char} (h : c.isDigit = true) : 48 ≤ c.toNat ∧ c.toNat ≤ 57 := by
  simp only [Char.isDigit, Bool.and_eq_true, decide_eq_true_eq] at h
  exact ⟨h.1, h.2⟩

theorem digit_ne {c d : Char} (h : c.isDigit = true) (hd : d.isDigit = false) : c ≠ d := by
  rintro rfl
  rw [h] at hd
  cases hd

theorem decimal_digits {ds : List Char} (hd : ∀ c ∈ ds, c.isDigit = true) (rest : List Char) :
    number.decimal (ds ++ ';' :: rest) = (ds, ';' :: rest) := by
  have hall : ∀ c ∈ ds, isDigitOrLine c = true := fun c hc => by rw [isDigitOrLine, hd c hc]; rfl
  have hstop : isDigitOrLine ';' = false := by decide
  have hcut : cutWhile isDigitOrLine (ds ++ ';' :: rest) = (ds, ';' :: rest) := by
    rw [cutWhile, List.takeWhile_append_of_pos hall, List.dropWhile_append_of_pos hall, List.takeWhile_cons,
      List.dropWhile_cons, hstop]
    simp
  rw [number.decimal, hcut]
  simp [fraction, exponent, cutWhile, isNumberSuffix, Cut.prepend]

theorem number_digits {ds : List Char} (hne : ds ≠ []) (hd : ∀ c ∈ ds, c.isDigit = true) (rest : List Char) :
    number (ds ++ ';' :: rest) = (ds, ';' :: rest) := by
  rw [← decimal_digits hd rest]
  unfold number
  split
  · rename_i x tail heq
    -- a second character would have to be a digit or the semicolon
    have hx : x.isDigit = true ∨ x = ';' := by
      cases ds with
      | nil => exact absurd rfl hne
      | cons d ds =>
        cases ds with
        | nil => exact .inr (by simp at heq; exact heq.2.1.symm)
        | cons e ds => exact .inl (by simp at heq; exact heq.2.1 ▸ hd e (by simp))
    have hplain : (x == 'x' || x == 'X' || x == 'b' || x == 'B') = false := by
      rcases hx with hx | rfl
      · simp [digit_ne hx (show 'x'.isDigit = false by decide), digit_ne hx (show 'X'.isDigit = false by decide),
          digit_ne hx (show 'b'.isDigit = false by decide), digit_ne hx (show 'B'.isDigit = false by decide)]
      · decide
    rw [hplain, heq]
    simp
  · rfl

/-- A number is read back before a semicolon. -/
theorem starts_number {s : String} (h : isDigits s = true) (rest : List Char) : (⟨.number, s, false⟩ : Lexeme).Starts
    (';' :: rest) := by
  rw [isDigits, Bool.and_eq_true, Bool.not_eq_true', List.all_eq_true] at h
  obtain ⟨hne, hd⟩ := h
  have hnum := number_digits (by intro e; rw [e] at hne; cases hne) hd rest
  cases hs : s.toList with
  | nil =>
    rw [hs] at hne
    cases hne
  | cons c cs =>
    rw [hs] at hnum hd
    have hc : c.isDigit = true := hd c (by simp)
    obtain ⟨hl, hr⟩ := isDigit_bounds hc
    have hb : c ≠ '\\' := digit_ne hc (by decide)
    have hat : (c == '@') = false := by simpa using digit_ne hc (by decide)
    refine ⟨?_, c, cs, hs, ?_, digit_ne hc (by decide), digit_ne hc (by decide)⟩
    · simp only [hs, List.cons_append, tokenAt, startsWord_other (isIdentifierStart_low (by omega)) hb, hat, hc,
        Bool.false_eq_true, if_false, Bool.false_and, Bool.true_or, if_true]
      rw [← List.cons_append, hnum]
    · rw [Bool.eq_false_iff]
      intro hspace
      rcases isSpace_cases hspace with hlow | rfl | rfl | rfl
      · omega
      · exact absurd hc (by decide)
      · exact absurd hc (by decide)
      · exact absurd hc (by decide)

/-! ## Literals -/

/-- A character that a quoted text holds as it is: printable, no quote and no backslash. -/
def isQuotable (c : Char) : Bool := 0x20 ≤ c.toNat && c.toNat ≤ 0x7e && c != '"' && c != '\\'

theorem plainText_quotable {cs : List Char} (h : ∀ c ∈ cs, isQuotable c = true) (rest : List Char) :
    plainText (cs ++ '"' :: rest) = some (cs ++ ['"'], rest) := by
  induction cs with
  | nil => rfl
  | cons c cs ih =>
    have hc := h c (by simp)
    simp only [isQuotable, Bool.and_eq_true, decide_eq_true_eq, bne_iff_ne] at hc
    obtain ⟨⟨⟨hlow, -⟩, hquote⟩, hslash⟩ := hc
    have hline : (c == '\n') = false := by
      rw [beq_eq_false_iff_ne]
      rintro rfl
      exact absurd hlow (by decide)
    rw [List.cons_append, plainText]
    · rw [hline, if_neg (by simp), ih fun d hd => h d (by simp [hd])]
      rfl
    · exact hquote
    · exact fun _ _ hc => absurd hc hslash

theorem anyText_quotable {cs : List Char} (h : ∀ c ∈ cs, isQuotable c = true) (fuel : Nat) (rest : List Char) :
    anyText (fuel + 1) ('"' :: (cs ++ '"' :: ')' :: rest)) = some ('"' :: (cs ++ ['"']), ')' :: rest) := by
  -- one quote, or two that end the text at once: never the three of a raw text
  have hquotes : quoteRun ('"' :: (cs ++ '"' :: ')' :: rest)) = if cs.isEmpty then 2 else 1 := by
    cases cs with
    | nil => rfl
    | cons c cs =>
      have hc := h c (by simp)
      simp only [isQuotable, Bool.and_eq_true, bne_iff_ne] at hc
      simp [quoteRun, hc.1.2]
  have hrun : ¬ 3 ≤ quoteRun ('"' :: (cs ++ '"' :: ')' :: rest)) ∧ quoteRun ('"' :: (cs ++ '"' :: ')' :: rest)) ≠ 0 := by
    rw [hquotes]
    split <;> omega
  rw [anyText]
  · simp only [List.takeWhile_cons, List.dropWhile_cons, show ('"' == '$') = false by decide, Bool.false_eq_true, if_false,
      hrun.1, hrun.2, List.isEmpty_nil, if_true, List.drop_succ_cons, List.drop_zero, plainText_quotable h, Option.map_some]
    rfl
  · simp
  · simp
  · simp

/-- A quoted text is read back before a closing bracket. -/
theorem starts_literal {s : String} {cs : List Char} (hs : s.toList = '"' :: (cs ++ ['"']))
    (h : ∀ c ∈ cs, isQuotable c = true) (rest : List Char) : (⟨.literal, s, false⟩ : Lexeme).Starts (')' :: rest) := by
  refine ⟨?_, '"', _, hs, by decide, by decide, by decide⟩
  have hword : startsWord ('"' :: (cs ++ '"' :: ')' :: rest)) = false := startsWord_other (by decide) (by decide) _
  have hmark : encodingMark (')' :: rest) = ([], ')' :: rest) := rfl
  simp only [hs, List.cons_append, List.append_assoc, List.nil_append, tokenAt, hword, show ('"' == '@') = false by decide,
    show '"'.isDigit = false by decide, show ('"' == '.') = false by decide, Bool.false_eq_true, if_false, Bool.false_and,
    Bool.or_self, beq_self_eq_true, Bool.true_or, if_true, anyText_quotable h, Option.map_some, withEncoding, hmark,
    Cut.prepend, List.append_nil]

/-! ## Marks -/

def loneMarks : List String := ["\x7b", "\x7d", "(", ")", "[", "]", ",", ";", "=>"]

theorem Lexeme.Starts.ofChars {l : Lexeme} {c : Char} {cs rest : List Char} (hl : l.text.toList = c :: cs)
    (hread : tokenAt (c :: cs ++ rest) = some (l.kind, c :: cs, rest)) (hc : isSpace c = false ∧ c ≠ '/' ∧ c ≠ '#') :
    l.Starts rest := ⟨hl ▸ hread, c, cs, hl, hc⟩

theorem starts_lone {m : String} (h : m ∈ loneMarks) (rest : List Char) (glued : Bool) :
    (⟨.mark, m, glued⟩ : Lexeme).Starts rest := by
  simp only [loneMarks, List.mem_cons, List.not_mem_nil, or_false] at h
  rcases h with rfl | rfl | rfl | rfl | rfl | rfl | rfl | rfl | rfl <;>
    exact .ofChars String.toList_ofList rfl (by decide)

/-- A colon and an equals sign are read alone before a blank. -/
theorem starts_spaced {m : String} (h : m ∈ [":", "="]) (rest : List Char) (glued : Bool) :
    (⟨.mark, m, glued⟩ : Lexeme).Starts (' ' :: rest) := by
  simp only [List.mem_cons, List.not_mem_nil, or_false] at h
  rcases h with rfl | rfl <;> exact .ofChars String.toList_ofList rfl (by decide)

theorem longMarks_chars : longMarks.map String.toList =
    [['<', '<', '='], ['?', '?', '='], ['=', '>'], ['=', '='], ['!', '='], ['<', '='], ['>', '='], ['&', '&'], ['|', '|'],
      ['?', '?'], [':', ':'], ['-', '>'], ['+', '+'], ['-', '-'], ['+', '='], ['-', '='], ['*', '='], ['/', '='],
      ['%', '='], ['&', '='], ['|', '='], ['^', '='], ['<', '<'], ['.', '.']] := by
  simp only [longMarks, List.map_cons, List.map_nil]
  rfl

/-- A mark is read alone where no longer one starts with it and the character after it. -/
theorem markAt_before {c d : Char} (hc : shortMarks.contains c = true)
    (h : ∀ cs ∈ longMarks.map String.toList, cs.take 2 ≠ [c, d]) (rest : List Char) :
    markAt (c :: d :: rest) = some ([c], d :: rest) := by
  have hnone : longMarks.find? (fun m => m.toList.isPrefixOf (c :: d :: rest)) = none := by
    rw [List.find?_eq_none]
    intro m hm hp
    have hmem : m.toList ∈ longMarks.map String.toList := List.mem_map_of_mem hm
    refine h _ hmem ?_
    have hlen : 2 ≤ m.toList.length := by
      rw [longMarks_chars] at hmem
      revert hmem
      generalize m.toList = cs
      revert cs
      decide
    obtain ⟨t, ht⟩ := List.isPrefixOf_iff_prefix.mp hp
    have htake : (m.toList ++ t).take 2 = m.toList.take 2 := List.take_append_of_le_length hlen
    rw [← htake, ht]
    rfl
  simp only [markAt, hnone, hc, if_true]

/-- A point is read alone unless a point or a digit follows. -/
theorem starts_point {d : Char} (hp : d ≠ '.') (hd : d.isDigit = false) (rest : List Char) (glued : Bool) :
    (⟨.mark, ".", glued⟩ : Lexeme).Starts (d :: rest) := by
  have hmark : markAt ('.' :: d :: rest) = some (['.'], d :: rest) := by
    refine markAt_before (by decide) ?_ rest
    rw [longMarks_chars]
    simpa using hp.symm
  refine .ofChars String.toList_ofList ?_ (by decide)
  show tokenAt ('.' :: d :: rest) = some (.mark, ['.'], d :: rest)
  simp [tokenAt, startsWord_other (c := '.') (by decide) (by decide), hd, hmark]

/-- A minus sign is read alone before a digit. -/
theorem starts_minus {d : Char} (hd : d.isDigit = true) (rest : List Char) :
    (⟨.mark, "-", false⟩ : Lexeme).Starts (d :: rest) := by
  have hmark : markAt ('-' :: d :: rest) = some (['-'], d :: rest) := by
    refine markAt_before (by decide) ?_ rest
    rw [longMarks_chars]
    simp [(digit_ne hd (show '>'.isDigit = false by decide)).symm, (digit_ne hd (show '-'.isDigit = false by decide)).symm,
      (digit_ne hd (show '='.isDigit = false by decide)).symm]
  refine .ofChars String.toList_ofList ?_ (by decide)
  show tokenAt ('-' :: d :: rest) = some (.mark, ['-'], d :: rest)
  simp [tokenAt, startsWord_other (c := '-') (by decide) (by decide), hmark]

end Typewright.Source
