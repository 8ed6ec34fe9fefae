import Typewright.Json.Read
import Typewright.Json.Write
import Typewright.Proofs.Objects

/-!
Reading back what was written.

A value is `Plain` when it has no reals in it and none of its objects gives a name twice. Such a value is read from its text
over several lines as it was (`read_pretty`), whatever texts it holds and however deep it nests. Reals are left out because
their text is another matter; a name given twice is written twice and read once.

Reading carries a position for its messages, and what it is does not matter when nothing goes wrong. So a reading is said to
give a value and to leave the rest of a text at some position (`Leaves`). What may follow a value in such a text is known,
too: nothing, a comma, or a line end (`Closes`). A number needs that to end where it should.

- Strings: one character after the other, with those that are escaped (`readChars_written`), up to the closing quote
  (`readString_text`).
- Numbers: the digits of a whole number are read as that number (`readNumber_digits`), and what starts with a digit or a
  minus sign is no word that is a value by itself (`readScalar_int`).
- Lists and objects: a value is `ReadBack` when it is read at every depth with more steps than its text has characters. A
  list is when its items are (`readBack_list`), and an object when its values are (`readBack_object`), by an induction over
  the items with what has been read so far as the accumulator.

`Plain.readBack` puts them together, by the constructors of a value. Files also have their line ends unified when they are
read; a written text has none that this would change (`prettyAt_no_return`).
-/

namespace Typewright.Json

/-- A value without reals whose objects give each name once. -/
inductive Plain : Json → Prop
  | null : Plain .null
  | bool (b : Bool) : Plain (.bool b)
  | int (n : Int) : Plain (.int n)
  | text (s : String) : Plain (.text s)
  | list {items : List Json} : (∀ v ∈ items, Plain v) → Plain (.list items)
  | object {fields : Object} : fields.names.Nodup → (∀ f ∈ fields, Plain f.2) → Plain (.object fields)

/-- The reading gives `a` and stops before `rest`. -/
def Leaves {α : Type} (r : Except Fault (α × Cursor)) (a : α) (rest : List Char) : Prop :=
  ∃ position, r = .ok (a, ⟨rest, position⟩)

theorem skip_append (cs rest : List Char) (position : Nat) :
    (Cursor.mk (cs ++ rest) position).skip cs.length = ⟨rest, position + cs.length⟩ := by
  simp [Cursor.skip]

theorem skip_one (c : Char) (rest : List Char) (position : Nat) :
    (Cursor.mk (c :: rest) position).skip 1 = ⟨rest, position + 1⟩ := rfl

/-! ## Blanks -/

theorem skipBlanks_append {blanks rest : List Char} (hb : ∀ c ∈ blanks, isJsonBlank c = true)
    (hr : ∀ c ∈ rest.head?, isJsonBlank c = false) (position : Nat) :
    (Cursor.mk (blanks ++ rest) position).skipBlanks = ⟨rest, position + blanks.length⟩ := by
  have ht : (blanks ++ rest).takeWhile isJsonBlank = blanks := by
    rw [List.takeWhile_append_of_pos hb]
    cases rest with
    | nil => simp
    | cons c more => simp [hr c (by simp)]
  rw [Cursor.skipBlanks, ht, skip_append]

theorem freshLine_blank (depth : Nat) : ∀ c ∈ (freshLine depth).toList, isJsonBlank c = true := by
  intro c hc
  simp only [freshLine, String.toList_ofList, List.mem_cons, List.mem_replicate] at hc
  rcases hc with rfl | ⟨-, rfl⟩ <;> decide

theorem freshLine_length (depth : Nat) : 0 < (freshLine depth).toList.length := by
  simp [freshLine]

/-! ## Texts -/

theorem hexNumber_control : ∀ n < 0x20, (Text.hexDigits 4 n).length = 4 ∧ Text.hexNumber? (Text.hexDigits 4 n) = some n := by
  decide

/-- A control character is read back from its code. -/
theorem readEscapedUnit_control {c : Char} (hc : c.toNat < 0x20) {rest : List Char} (hr : rest ≠ []) (position : Nat) :
    Leaves (readEscapedUnit ⟨'u' :: (Text.hexDigits 4 c.toNat ++ rest), position⟩) c rest := by
  obtain ⟨hl, hn⟩ := hexNumber_control c.toNat hc
  have hlen : ¬ ('u' :: (Text.hexDigits 4 c.toNat ++ rest)).length < 6 := by
    have := List.length_pos_iff.mpr hr
    simp [hl]
    omega
  have hu : readUnit ⟨'u' :: (Text.hexDigits 4 c.toNat ++ rest), position⟩ = .ok (c.toNat, ⟨rest, position + 5⟩) := by
    have ht : (Text.hexDigits 4 c.toNat ++ rest).take 4 = Text.hexDigits 4 c.toNat := List.take_left' hl
    have hd : (Text.hexDigits 4 c.toNat ++ rest).drop 4 = rest := List.drop_left' hl
    simp only [readUnit, hlen, if_false, List.drop_succ_cons, List.drop_zero, ht, hn, Cursor.skip, hd]
  have hs : isHighSurrogate c.toNat = false := by
    simp only [isHighSurrogate, Bool.and_eq_false_iff, decide_eq_false_iff_not]
    omega
  have hch : charOfUnit c.toNat = c := by
    have : ¬ (0xD800 ≤ c.toNat) := by omega
    simp [charOfUnit, this, Char.ofNat_toNat]
  refine ⟨position + 5, ?_⟩
  rw [readEscapedUnit, hu]
  simp only [hs, Bool.false_and, Bool.false_eq_true, if_false, hch]
  split <;> rfl

/-- One written character is read as that character. -/
theorem readChars_written (start fuel : Nat) (c : Char) {rest : List Char} (hr : rest ≠ []) (position : Nat) :
    ∃ next, readChars start (fuel + 1) ⟨writtenChar c ++ rest, position⟩ =
      (readChars start fuel ⟨rest, next⟩).map fun r => (c :: r.1, r.2) := by
  unfold writtenChar
  by_cases h : (c == '"' || c == '\\') = true
  · refine ⟨position + 2, ?_⟩
    simp only [Bool.or_eq_true, beq_iff_eq] at h
    rcases h with rfl | rfl <;> rfl
  rw [if_neg h]
  simp only [Bool.or_eq_true, beq_iff_eq, not_or] at h
  by_cases hn : (c == '\n') = true
  · obtain rfl : c = '\n' := by simpa using hn
    exact ⟨position + 2, rfl⟩
  rw [if_neg hn]
  by_cases hn : (c == '\r') = true
  · obtain rfl : c = '\r' := by simpa using hn
    exact ⟨position + 2, rfl⟩
  rw [if_neg hn]
  by_cases hn : (c == '\t') = true
  · obtain rfl : c = '\t' := by simpa using hn
    exact ⟨position + 2, rfl⟩
  rw [if_neg hn]
  by_cases hn : (c == '\x08') = true
  · obtain rfl : c = '\x08' := by simpa using hn
    exact ⟨position + 2, rfl⟩
  rw [if_neg hn]
  by_cases hn : (c == '\x0c') = true
  · obtain rfl : c = '\x0c' := by simpa using hn
    exact ⟨position + 2, rfl⟩
  rw [if_neg hn]
  by_cases hc : c.toNat < 0x20
  · rw [if_pos hc]
    obtain ⟨next, hu⟩ := readEscapedUnit_control hc hr (position + 1)
    refine ⟨next, ?_⟩
    simp only [readChars, List.cons_append, skip_one, hu]
  · rw [if_neg hc]
    refine ⟨position + 1, ?_⟩
    obtain ⟨hq, hb⟩ := h
    simp only [List.cons_append, List.nil_append, readChars]
    split
    case h_6 heq =>
      obtain ⟨rfl, rfl⟩ := List.cons.inj heq
      rw [if_neg hc]
      rfl
    all_goals simp_all

theorem readChars_text (start : Nat) (cs rest : List Char) (fuel position : Nat) (hf : cs.length < fuel) :
    Leaves (readChars start fuel ⟨cs.flatMap writtenChar ++ '"' :: rest, position⟩) cs rest := by
  induction cs generalizing fuel position with
  | nil =>
    obtain ⟨n, rfl⟩ := Nat.exists_eq_add_of_lt hf
    exact ⟨position + 1, rfl⟩
  | cons c cs ih =>
    obtain ⟨n, rfl⟩ : ∃ n, fuel = n + 1 := ⟨fuel - 1, by omega⟩
    rw [List.flatMap_cons, List.append_assoc]
    have hr : cs.flatMap writtenChar ++ '"' :: rest ≠ [] := by simp
    obtain ⟨next, hc⟩ := readChars_written start n c hr position
    obtain ⟨last, hl⟩ := ih n next (by simp at hf; omega)
    exact ⟨last, by rw [hc, hl]; rfl⟩

theorem length_le_flatMap_written (cs : List Char) : cs.length ≤ (cs.flatMap writtenChar).length := by
  induction cs with
  | nil => simp
  | cons c cs ih =>
    have : 0 < (writtenChar c).length := by
      unfold writtenChar
      repeat' split
      all_goals simp
    simp only [List.flatMap_cons, List.length_append, List.length_cons]
    omega

theorem readString_text (s : String) (rest : List Char) (position : Nat) :
    Leaves (readString ⟨(writtenText s).toList ++ rest, position⟩) s rest := by
  have hw : (writtenText s).toList ++ rest = '"' :: (s.toList.flatMap writtenChar ++ '"' :: rest) := by
    simp [writtenText]
  have hl := length_le_flatMap_written s.toList
  obtain ⟨last, h⟩ := readChars_text position s.toList rest
    ('"' :: (s.toList.flatMap writtenChar ++ '"' :: rest)).length (position + 1)
    (by simp only [List.length_cons, List.length_append]; omega)
  refine ⟨last, ?_⟩
  simp only [readString, hw, skip_one, h, Except.map, String.ofList_toList]

/-! ## Numbers and words -/

/-- What may follow a value in a text over several lines: nothing, a comma, or a line end. -/
def Closes (rest : List Char) : Prop := ∀ c ∈ rest.head?, c = ',' ∨ c = '\n'

theorem head_toDigits (n : Nat) : ∃ d ds, Nat.toDigits 10 n = d :: ds ∧ d.isDigit = true ∧ (d = '0' → n = 0) := by
  induction n using Nat.strongRecOn with
  | ind n ih =>
    by_cases h : n < 10
    · refine ⟨n.digitChar, [], Nat.toDigits_of_lt_base h, ?_⟩
      have all : ∀ m < 10, m.digitChar.isDigit = true ∧ (m.digitChar = '0' → m = 0) := by decide
      exact all n h
    · obtain ⟨d, ds, hd, hdig, hz⟩ := ih (n / 10) (by omega)
      rw [Nat.toDigits_of_base_le (by omega) (by omega), hd]
      exact ⟨d, _, rfl, hdig, fun e => by have := hz e; omega⟩

theorem digitsValue_toDigits (n : Nat) : digitsValue (Nat.toDigits 10 n) = n := by
  have h := Nat.ofDigitChars_ten_toDigits (n := n)
  rw [Nat.ofDigitChars_eq_foldl] at h
  exact h

theorem wholeDigits_toDigits (n : Nat) {rest : List Char} (hr : Closes rest) :
    wholeDigits (Nat.toDigits 10 n ++ rest) = Nat.toDigits 10 n := by
  obtain ⟨d, ds, hd, hdig, hz⟩ := head_toDigits n
  by_cases h0 : d = '0'
  · rw [hz h0]
    rfl
  · have hall : ∀ c ∈ Nat.toDigits 10 n, c.isDigit = true := fun c hc =>
      Nat.isDigit_of_mem_toDigits (by omega) (by omega) hc
    have hrest : rest.takeWhile Char.isDigit = [] := by
      cases rest with
      | nil => rfl
      | cons c more => rcases hr c (by simp) with rfl | rfl <;> rfl
    have ht : (Nat.toDigits 10 n ++ rest).takeWhile Char.isDigit = Nat.toDigits 10 n := by
      rw [List.takeWhile_append_of_pos hall, hrest, List.append_nil]
    rw [hd, List.cons_append] at ht ⊢
    unfold wholeDigits
    split
    · rename_i heq
      exact absurd (List.cons.inj heq).1 h0
    · exact ht

/-- What follows a whole number is neither a fraction nor an exponent. -/
theorem closes_number {rest : List Char} (hr : Closes rest) : fractionDigits rest = [] ∧ exponentPart rest = none := by
  cases rest with
  | nil => exact ⟨rfl, rfl⟩
  | cons c more => rcases hr c (by simp) with rfl | rfl <;> exact ⟨rfl, rfl⟩

theorem readNumber_digits (n : Nat) {rest : List Char} (hr : Closes rest) (position : Nat) :
    Leaves (readNumber ⟨Nat.toDigits 10 n ++ rest, position⟩) (.int n) rest ∧
      Leaves (readNumber ⟨'-' :: (Nat.toDigits 10 n ++ rest), position⟩) (.int (-n)) rest := by
  obtain ⟨d, ds, hd, hdig, -⟩ := head_toDigits n
  have hw := wholeDigits_toDigits n hr
  have hne : (Nat.toDigits 10 n).isEmpty = false := by simp [hd]
  have hminus : (Nat.toDigits 10 n ++ rest).head? ≠ some '-' := by
    rw [hd]
    simp only [List.cons_append, List.head?_cons, ne_eq, Option.some.injEq]
    rintro rfl
    exact absurd hdig (by decide)
  have hneg : ((Nat.toDigits 10 n ++ rest).head? == some '-') = false := by simpa using hminus
  have hdrop : (Nat.toDigits 10 n ++ rest).drop (Nat.toDigits 10 n).length = rest := List.drop_left
  obtain ⟨hf, he⟩ := closes_number hr
  have hv := digitsValue_toDigits n
  constructor
  · refine ⟨position + (0 + (Nat.toDigits 10 n).length + 0 + 0), ?_⟩
    simp only [readNumber, hneg, Bool.false_eq_true, if_false, hw, hne, hdrop, hf, he, hv, List.isEmpty_nil, if_true,
      List.drop_zero, Option.isNone_none, Bool.and_self, Option.map_none, Option.getD_none, Cursor.skip, Nat.zero_add,
      Nat.add_zero]
  · refine ⟨position + (1 + (Nat.toDigits 10 n).length + 0 + 0), ?_⟩
    have hdrop' : ('-' :: (Nat.toDigits 10 n ++ rest)).drop (1 + (Nat.toDigits 10 n).length) = rest := by
      rw [Nat.add_comm, List.drop_succ_cons, hdrop]
    simp only [readNumber, List.head?_cons, beq_self_eq_true, if_true, List.drop_succ_cons, List.drop_zero, hw, hne,
      Bool.false_eq_true, if_false, hdrop, hf, he, hv, List.isEmpty_nil, Option.isNone_none, Bool.and_self,
      Option.map_none, Option.getD_none, Cursor.skip, Nat.add_zero, hdrop']

/-- The text of a number starts with a digit, or with a sign and a digit. -/
theorem toString_int (n : Int) :
    (∃ m : Nat, n = m ∧ (toString n).toList = Nat.toDigits 10 m) ∨
      ∃ m : Nat, n = -m ∧ (toString n).toList = '-' :: Nat.toDigits 10 m := by
  cases n with
  | ofNat m => exact .inl ⟨m, rfl, Nat.toList_repr⟩
  | negSucc m =>
    refine .inr ⟨m + 1, rfl, ?_⟩
    change ("-" ++ Nat.repr (m + 1)).toList = _
    rw [String.toList_append, Nat.toList_repr]
    rfl

/-- No word starts like a number. -/
theorem no_constant {d : Char} (hd : d.isDigit = true) (more : List Char) :
    constants.find? (fun w => w.1.isPrefixOf (d :: more)) = none ∧
      constants.find? (fun w => w.1.isPrefixOf ('-' :: d :: more)) = none := by
  have hne : ∀ c : Char, c.isDigit = false → (c == d) = false := by
    intro c hc
    rw [beq_eq_false_iff_ne]
    rintro rfl
    rw [hd] at hc
    cases hc
  constructor
  · simp [constants, List.isPrefixOf, hne]
  · simp [constants, List.isPrefixOf, hne]

theorem readScalar_int (n : Int) {rest : List Char} (hr : Closes rest) (position : Nat) :
    Leaves (readScalar ⟨(toString n).toList ++ rest, position⟩) (.int n) rest := by
  rcases toString_int n with ⟨m, rfl, ht⟩ | ⟨m, rfl, ht⟩
  · obtain ⟨d, ds, hd, hdig, -⟩ := head_toDigits m
    have hc := (no_constant hdig (ds ++ rest)).1
    obtain ⟨p, hp⟩ := (readNumber_digits m hr position).1
    refine ⟨p, ?_⟩
    rw [← List.cons_append, ← hd] at hc
    rw [ht, readScalar, hc]
    exact hp
  · obtain ⟨d, ds, hd, hdig, -⟩ := head_toDigits m
    have hc := (no_constant hdig (ds ++ rest)).2
    obtain ⟨p, hp⟩ := (readNumber_digits m hr position).2
    refine ⟨p, ?_⟩
    rw [← List.cons_append, ← hd] at hc
    rw [ht, readScalar, List.cons_append, hc]
    exact hp

theorem readScalar_word {w : List Char} {v : Json} {rest : List Char} (position : Nat)
    (hw : constants.find? (fun k => k.1.isPrefixOf (w ++ rest)) = some (w, v)) :
    Leaves (readScalar ⟨w ++ rest, position⟩) v rest := by
  refine ⟨position + w.length, ?_⟩
  rw [readScalar, hw]
  simp only [skip_append]

/-! ## Values -/

/-- The text of a value starts with a character that is no blank and closes nothing. -/
theorem prettyAt_head {v : Json} (hv : Plain v) (depth : Nat) :
    ∃ c cs, (prettyAt depth v).toList = c :: cs ∧ isJsonBlank c = false ∧ c ≠ ']' ∧ c ≠ Char.ofNat 0xFEFF := by
  cases hv with
  | null => exact ⟨'n', "ull".toList, by simp [prettyAt], by decide, by decide, by decide⟩
  | bool b =>
    cases b
    · exact ⟨'f', "alse".toList, by simp [prettyAt], by decide, by decide, by decide⟩
    · exact ⟨'t', "rue".toList, by simp [prettyAt], by decide, by decide, by decide⟩
  | int n =>
    have digit : ∀ d : Char, d.isDigit = true → isJsonBlank d = false ∧ d ≠ ']' ∧ d ≠ Char.ofNat 0xFEFF := by
      intro d hd
      refine ⟨?_, by rintro rfl; exact absurd hd (by decide), by rintro rfl; exact absurd hd (by decide)⟩
      cases hb : isJsonBlank d
      · rfl
      · simp only [isJsonBlank, Bool.or_eq_true, beq_iff_eq] at hb
        rcases hb with ((rfl | rfl) | rfl) | rfl <;> exact absurd hd (by decide)
    rw [prettyAt]
    rcases toString_int n with ⟨m, rfl, ht⟩ | ⟨m, rfl, ht⟩
    · obtain ⟨d, ds, hd, hdig, -⟩ := head_toDigits m
      exact ⟨d, ds, ht.trans hd, digit d hdig⟩
    · exact ⟨'-', _, ht, by decide, by decide, by decide⟩
  | text s => exact ⟨'"', _, by rw [prettyAt, writtenText, String.toList_ofList, List.cons_append], by decide,
    by decide, by decide⟩
  | list hitems =>
    rename_i items
    cases items with
    | nil => exact ⟨'[', [']'], by simp [prettyAt], by decide, by decide, by decide⟩
    | cons v rest => exact ⟨'[', _, by rw [prettyAt]; simp only [String.toList_append]; rfl, by decide, by decide, by decide⟩
  | object hnames hfields =>
    rename_i fields
    cases fields with
    | nil => exact ⟨'\x7b', ['\x7d'], by simp [prettyAt], by decide, by decide, by decide⟩
    | cons f rest => exact ⟨'\x7b', _, by rw [prettyAt]; simp only [String.toList_append]; rfl, by decide, by decide, by decide⟩

/-- The value is read from its text at every depth, given more steps than the text has characters. -/
def ReadBack (v : Json) : Prop :=
  ∀ depth fuel position rest, Closes rest → (prettyAt depth v).toList.length < fuel →
    Leaves (readValue fuel ⟨(prettyAt depth v).toList ++ rest, position⟩) v rest

/-- Behind an item stands a comma with the next one, or the line of the closing bracket. -/
theorem closes_items (depth : Nat) (items : List Json) (last : Nat) (rest : List Char) :
    Closes ((prettyItems depth items).toList ++ ((freshLine last).toList ++ rest)) := by
  intro c hc
  cases items with
  | nil =>
    rw [prettyItems, freshLine] at hc
    simp at hc
    exact .inr hc.symm
  | cons v items =>
    rw [prettyItems] at hc
    simp at hc
    exact .inl hc.symm

theorem closes_fields (depth : Nat) (fields : Object) (last : Nat) (rest : List Char) :
    Closes ((prettyFields depth fields).toList ++ ((freshLine last).toList ++ rest)) := by
  intro c hc
  cases fields with
  | nil =>
    rw [prettyFields, freshLine] at hc
    simp at hc
    exact .inr hc.symm
  | cons f fields =>
    rw [prettyFields] at hc
    simp at hc
    exact .inl hc.symm

/-- At a fresh line the blanks are passed over. -/
theorem skip_freshLine (depth : Nat) {c : Char} (hc : isJsonBlank c = false) (rest : List Char) (position : Nat) :
    ∃ next, (Cursor.mk ((freshLine depth).toList ++ c :: rest) position).skipBlanks = ⟨c :: rest, next⟩ :=
  ⟨_, skipBlanks_append (freshLine_blank depth) (by simpa using hc) position⟩

theorem skip_nothing {c : Char} (hc : isJsonBlank c = false) (rest : List Char) (position : Nat) :
    (Cursor.mk (c :: rest) position).skipBlanks = ⟨c :: rest, position⟩ :=
  @skipBlanks_append [] (c :: rest) (by simp) (by simpa using hc) position

theorem readItems_pretty (depth last : Nat) (rest : List Char) (items : List Json) (v : Json) (fuel position : Nat)
    (hv : Plain v ∧ ReadBack v) (hitems : ∀ w ∈ items, Plain w ∧ ReadBack w)
    (hf : (prettyAt depth v).toList.length + (prettyItems depth items).toList.length + 1 < fuel) :
    Leaves (readItems fuel ⟨(prettyAt depth v).toList ++
      ((prettyItems depth items).toList ++ ((freshLine last).toList ++ ']' :: rest)), position⟩) (v :: items) rest := by
  induction items generalizing v fuel position with
  | nil =>
    obtain ⟨fuel, rfl⟩ : ∃ n, fuel = n + 1 := ⟨fuel - 1, by omega⟩
    obtain ⟨p, hp⟩ := hv.2 depth fuel position _ (closes_items depth [] last (']' :: rest)) (by omega)
    obtain ⟨q, hq⟩ := skip_freshLine last (show isJsonBlank ']' = false by decide) rest p
    refine ⟨q + 1, ?_⟩
    rw [readItems, hp]
    simp only [prettyItems, String.toList_empty, List.nil_append, hq, List.head?_cons, beq_self_eq_true, if_true, skip_one]
  | cons w items ih =>
    obtain ⟨fuel, rfl⟩ : ∃ n, fuel = n + 1 := ⟨fuel - 1, by omega⟩
    obtain ⟨p, hp⟩ := hv.2 depth fuel position _ (closes_items depth (w :: items) last (']' :: rest)) (by omega)
    obtain ⟨c, cs, hc, hblank, -⟩ := prettyAt_head (hitems w (by simp)).1 depth
    have hcut : (prettyItems depth (w :: items)).toList ++ ((freshLine last).toList ++ ']' :: rest) =
        ',' :: ((freshLine depth).toList ++ c :: (cs ++
          ((prettyItems depth items).toList ++ ((freshLine last).toList ++ ']' :: rest)))) := by
      rw [prettyItems, String.toList_append, String.toList_append, String.toList_append, hc]
      simp
    obtain ⟨q, hq⟩ := skip_freshLine depth hblank (cs ++
      ((prettyItems depth items).toList ++ ((freshLine last).toList ++ ']' :: rest))) (p + 1)
    have hlen : (prettyAt depth w).toList.length + (prettyItems depth items).toList.length + 1 < fuel := by
      have := freshLine_length depth
      simp only [prettyItems, String.toList_append, List.length_append] at hf
      omega
    obtain ⟨e, he⟩ := ih w fuel q (hitems w (by simp)) (fun x hx => hitems x (by simp [hx])) hlen
    refine ⟨e, ?_⟩
    rw [hc, List.cons_append] at he
    rw [readItems, hp]
    simp only [hcut, skip_nothing (show isJsonBlank ',' = false by decide), List.head?_cons, skip_one, hq, he]
    rfl

/-- A name, its colon and its value. -/
theorem readFields_field (depth : Nat) (o : Object) (name : String) (v : Json) (fuel position : Nat) {rest : List Char}
    (hv : Plain v ∧ ReadBack v) (hr : Closes rest) (hf : (prettyAt depth v).toList.length < fuel) :
    ∃ p, readFields (fuel + 1) o ⟨(writtenText name).toList ++ (':' :: ' ' :: ((prettyAt depth v).toList ++ rest)), position⟩ =
      (let next := (Cursor.mk rest p).skipBlanks
       if next.rest.head? == some '\x7d' then .ok (o.insert name v, next.skip 1)
       else if next.rest.head? != some ',' then .error ⟨.comma, next.position⟩
       else readFields fuel (o.insert name v) (next.skip 1).skipBlanks) := by
  obtain ⟨m, hm⟩ := readString_text name (':' :: ' ' :: ((prettyAt depth v).toList ++ rest)) position
  obtain ⟨c, cs, hc, hblank, -⟩ := prettyAt_head hv.1 depth
  have hblanks : (Cursor.mk (' ' :: ((prettyAt depth v).toList ++ rest)) (m + 1)).skipBlanks =
      ⟨(prettyAt depth v).toList ++ rest, m + 1 + 1⟩ :=
    @skipBlanks_append [' '] _ (by simp [isJsonBlank]) (by rw [hc]; simpa using hblank) (m + 1)
  obtain ⟨p, hp⟩ := hv.2 depth fuel (m + 1 + 1) rest hr hf
  have hquote : ((writtenText name).toList ++ (':' :: ' ' :: ((prettyAt depth v).toList ++ rest))).head? = some '"' := by
    rw [writtenText, String.toList_ofList]
    rfl
  refine ⟨p, ?_⟩
  rw [readFields]
  simp only [hquote, bne_self_eq_false, Bool.false_eq_true, if_false, hm,
    skip_nothing (show isJsonBlank ':' = false by decide), List.head?_cons, skip_one, hblanks, hp]

theorem readFields_pretty (depth last : Nat) (rest : List Char) (fields o : Object) (name : String) (v : Json)
    (fuel position : Nat) (hv : Plain v ∧ ReadBack v) (hfields : ∀ f ∈ fields, Plain f.2 ∧ ReadBack f.2)
    (hnames : (o ++ (name, v) :: fields).names.Nodup)
    (hf : (prettyAt depth v).toList.length + (prettyFields depth fields).toList.length + 1 < fuel) :
    Leaves (readFields fuel o ⟨(writtenText name).toList ++ (':' :: ' ' :: ((prettyAt depth v).toList ++
      ((prettyFields depth fields).toList ++ ((freshLine last).toList ++ '\x7d' :: rest)))), position⟩)
      (o ++ (name, v) :: fields) rest := by
  induction fields generalizing o name v fuel position with
  | nil =>
    obtain ⟨fuel, rfl⟩ : ∃ n, fuel = n + 1 := ⟨fuel - 1, by omega⟩
    have hnew : name ∉ o.names := by
      simp only [Object.names, List.map_append, List.map_cons, List.map_nil] at hnames
      exact fun h => (List.nodup_append.mp hnames).2.2 name h name (by simp) rfl
    obtain ⟨p, hp⟩ := readFields_field depth o name v fuel position hv
      (closes_fields depth [] last ('\x7d' :: rest)) (by omega)
    obtain ⟨q, hq⟩ := skip_freshLine last (show isJsonBlank '\x7d' = false by decide) rest p
    refine ⟨q + 1, ?_⟩
    rw [hp]
    simp only [prettyFields, String.toList_empty, List.nil_append, hq, List.head?_cons, beq_self_eq_true, if_true,
      skip_one, Object.insert_new hnew]
  | cons f fields ih =>
    obtain ⟨next, w⟩ := f
    obtain ⟨fuel, rfl⟩ : ∃ n, fuel = n + 1 := ⟨fuel - 1, by omega⟩
    have hnew : name ∉ o.names := by
      simp only [Object.names, List.map_append, List.map_cons] at hnames
      exact fun h => (List.nodup_append.mp hnames).2.2 name h name (by simp) rfl
    obtain ⟨p, hp⟩ := readFields_field depth o name v fuel position hv
      (closes_fields depth ((next, w) :: fields) last ('\x7d' :: rest)) (by omega)
    obtain ⟨cs, hcs⟩ : ∃ cs, (writtenText next).toList = '"' :: cs := ⟨_, by rw [writtenText, String.toList_ofList]; rfl⟩
    have hcut : (prettyFields depth ((next, w) :: fields)).toList ++ ((freshLine last).toList ++ '\x7d' :: rest) =
        ',' :: ((freshLine depth).toList ++ '"' :: (cs ++ (':' :: ' ' :: ((prettyAt depth w).toList ++
          ((prettyFields depth fields).toList ++ ((freshLine last).toList ++ '\x7d' :: rest)))))) := by
      rw [prettyFields]
      simp only [String.toList_append, hcs]
      simp
    obtain ⟨q, hq⟩ := skip_freshLine depth (show isJsonBlank '"' = false by decide) (cs ++ (':' :: ' ' ::
      ((prettyAt depth w).toList ++ ((prettyFields depth fields).toList ++ ((freshLine last).toList ++ '\x7d' :: rest)))))
      (p + 1)
    have hlen : (prettyAt depth w).toList.length + (prettyFields depth fields).toList.length + 1 < fuel := by
      have := freshLine_length depth
      simp only [prettyFields, String.toList_append, List.length_append] at hf
      omega
    have hgrow : o ++ (name, v) :: (next, w) :: fields = (o ++ [(name, v)]) ++ (next, w) :: fields := by simp
    obtain ⟨e, he⟩ := ih (o ++ [(name, v)]) next w fuel q (hfields (next, w) (by simp))
      (fun x hx => hfields x (by simp [hx])) (hgrow ▸ hnames) hlen
    refine ⟨e, ?_⟩
    rw [hcs, List.cons_append] at he
    rw [hp, hgrow]
    simp only [hcut, skip_nothing (show isJsonBlank ',' = false by decide), List.head?_cons, skip_one, hq,
      Object.insert_new hnew, he]
    rfl

theorem readBack_word {v : Json} {w : List Char} (hw : ∀ depth, (prettyAt depth v).toList = w)
    (hc : ∀ rest, constants.find? (fun k => k.1.isPrefixOf (w ++ rest)) = some (w, v))
    (hs : ∀ fuel rest position, readValue (fuel + 1) ⟨w ++ rest, position⟩ = readScalar ⟨w ++ rest, position⟩) :
    ReadBack v := by
  intro depth fuel position rest _ hf
  obtain ⟨fuel, rfl⟩ : ∃ n, fuel = n + 1 := ⟨fuel - 1, by omega⟩
  rw [hw, hs]
  exact readScalar_word position (hc rest)

theorem readBack_int (n : Int) : ReadBack (.int n) := by
  intro depth fuel position rest hr hf
  obtain ⟨fuel, rfl⟩ : ∃ n, fuel = n + 1 := ⟨fuel - 1, by omega⟩
  rw [prettyAt]
  -- a digit or a sign opens neither a string nor a list nor an object
  have hs : readValue (fuel + 1) ⟨(toString n).toList ++ rest, position⟩ =
      readScalar ⟨(toString n).toList ++ rest, position⟩ := by
    have opening : ∃ c cs, (toString n).toList ++ rest = c :: cs ∧ (c.isDigit = true ∨ c = '-') := by
      rcases toString_int n with ⟨m, -, ht⟩ | ⟨m, -, ht⟩
      · obtain ⟨d, ds, hd, hdig, -⟩ := head_toDigits m
        exact ⟨d, ds ++ rest, by rw [ht, hd]; rfl, .inl hdig⟩
      · exact ⟨'-', _, by rw [ht]; rfl, .inr rfl⟩
    obtain ⟨c, cs, hcs, hc⟩ := opening
    rw [hcs, readValue]
    split
    all_goals first
      | rfl
      | simp_all
  rw [hs]
  exact readScalar_int n hr position

theorem readBack_list {items : List Json} (h : ∀ v ∈ items, Plain v ∧ ReadBack v) : ReadBack (.list items) := by
  intro depth fuel position rest hr hf
  obtain ⟨fuel, rfl⟩ : ∃ n, fuel = n + 1 := ⟨fuel - 1, by omega⟩
  cases items with
  | nil =>
    refine ⟨position + 1 + 1, ?_⟩
    rw [prettyAt]
    change readValue (fuel + 1) ⟨'[' :: ']' :: rest, position⟩ = _
    rw [readValue]
    simp only [skip_one, skip_nothing (show isJsonBlank ']' = false by decide), List.head?_cons, beq_self_eq_true, if_true]
  | cons v items =>
    obtain ⟨c, cs, hc, hblank, hclose, -⟩ := prettyAt_head (h v (by simp)).1 (depth + 1)
    have hcut : (prettyAt depth (.list (v :: items))).toList ++ rest =
        '[' :: ((freshLine (depth + 1)).toList ++ c :: (cs ++ ((prettyItems (depth + 1) items).toList ++
          ((freshLine depth).toList ++ ']' :: rest)))) := by
      rw [prettyAt]
      simp only [String.toList_append, hc]
      simp
    obtain ⟨q, hq⟩ := skip_freshLine (depth + 1) hblank (cs ++ ((prettyItems (depth + 1) items).toList ++
      ((freshLine depth).toList ++ ']' :: rest))) (position + 1)
    obtain ⟨e, he⟩ := readItems_pretty (depth + 1) depth rest items v fuel q (h v (by simp))
      (fun w hw => h w (by simp [hw])) (by
        simp only [prettyAt, String.toList_append, List.length_append] at hf
        have := freshLine_length depth
        have := freshLine_length (depth + 1)
        omega)
    refine ⟨e, ?_⟩
    rw [hc, List.cons_append] at he
    have hopen : (some c == some ']') = false := by simpa using hclose
    rw [hcut, readValue]
    simp only [skip_one, hq, List.head?_cons, hopen, Bool.false_eq_true, if_false, he]
    rfl

theorem readBack_object {fields : Object} (hnames : fields.names.Nodup) (h : ∀ f ∈ fields, Plain f.2 ∧ ReadBack f.2) :
    ReadBack (.object fields) := by
  intro depth fuel position rest hr hf
  obtain ⟨fuel, rfl⟩ : ∃ n, fuel = n + 1 := ⟨fuel - 1, by omega⟩
  cases fields with
  | nil =>
    refine ⟨position + 1 + 1, ?_⟩
    rw [prettyAt]
    change readValue (fuel + 1) ⟨'\x7b' :: '\x7d' :: rest, position⟩ = _
    rw [readValue]
    simp only [skip_one, skip_nothing (show isJsonBlank '\x7d' = false by decide), List.head?_cons, beq_self_eq_true, if_true]
  | cons f fields =>
    obtain ⟨name, v⟩ := f
    obtain ⟨cs, hcs⟩ : ∃ cs, (writtenText name).toList = '"' :: cs := ⟨_, by rw [writtenText, String.toList_ofList]; rfl⟩
    have hcut : (prettyAt depth (.object ((name, v) :: fields))).toList ++ rest =
        '\x7b' :: ((freshLine (depth + 1)).toList ++ '"' :: (cs ++ (':' :: ' ' :: ((prettyAt (depth + 1) v).toList ++
          ((prettyFields (depth + 1) fields).toList ++ ((freshLine depth).toList ++ '\x7d' :: rest)))))) := by
      rw [prettyAt]
      simp only [String.toList_append, hcs]
      simp
    obtain ⟨q, hq⟩ := skip_freshLine (depth + 1) (show isJsonBlank '"' = false by decide) (cs ++ (':' :: ' ' ::
      ((prettyAt (depth + 1) v).toList ++ ((prettyFields (depth + 1) fields).toList ++
        ((freshLine depth).toList ++ '\x7d' :: rest))))) (position + 1)
    obtain ⟨e, he⟩ := readFields_pretty (depth + 1) depth rest fields [] name v fuel q (h (name, v) (by simp))
      (fun f hf => h f (by simp [hf])) hnames (by
        simp only [prettyAt, String.toList_append, List.length_append] at hf
        have := freshLine_length depth
        have := freshLine_length (depth + 1)
        omega)
    refine ⟨e, ?_⟩
    rw [hcs, List.cons_append] at he
    rw [hcut, readValue]
    simp only [skip_one, hq, List.head?_cons, he]
    rfl

theorem Plain.readBack {v : Json} (hv : Plain v) : ReadBack v := by
  induction hv with
  | null => exact @readBack_word .null "null".toList (fun _ => by rw [prettyAt]) (fun _ => rfl) (fun _ _ _ => rfl)
  | bool b =>
    cases b
    · exact @readBack_word (.bool false) "false".toList (fun _ => by simp [prettyAt]) (fun _ => rfl) (fun _ _ _ => rfl)
    · exact @readBack_word (.bool true) "true".toList (fun _ => by simp [prettyAt]) (fun _ => rfl) (fun _ _ _ => rfl)
  | int n => exact readBack_int n
  | text s =>
    intro depth fuel position rest _ hf
    obtain ⟨fuel, rfl⟩ : ∃ n, fuel = n + 1 := ⟨fuel - 1, by omega⟩
    obtain ⟨p, hp⟩ := readString_text s rest position
    refine ⟨p, ?_⟩
    obtain ⟨cs, hcs⟩ : ∃ cs, (writtenText s).toList = '"' :: cs := ⟨_, by rw [writtenText, String.toList_ofList]; rfl⟩
    rw [hcs, List.cons_append] at hp
    rw [prettyAt, hcs, List.cons_append, readValue]
    simp only [hp]
    rfl
  | list hitems ih => exact readBack_list fun v hv => ⟨hitems v hv, ih v hv⟩
  | object hnames hfields ih => exact readBack_object hnames fun f hf => ⟨hfields f hf, ih f hf⟩

/-- A plain value is read back from its text. -/
theorem read_pretty {v : Json} (hv : Plain v) : read v.pretty.toList = .ok v := by
  obtain ⟨c, cs, hc, hblank, -, hmark⟩ := prettyAt_head hv 0
  have hmark : ((prettyAt 0 v).toList.head? == some (Char.ofNat 0xFEFF)) = false := by rw [hc]; simpa using hmark
  have hstart : (Cursor.mk (prettyAt 0 v).toList 0).skipBlanks = ⟨(prettyAt 0 v).toList, 0⟩ := by
    rw [hc, skip_nothing hblank]
  obtain ⟨p, hp⟩ := hv.readBack 0 (2 * (prettyAt 0 v).toList.length + 2) 0 [] (by simp [Closes]) (by omega)
  rw [List.append_nil] at hp
  simp only [read, pretty, hmark, Bool.false_eq_true, if_false, hstart, hp]
  rfl

/-! ## Line ends -/

theorem writtenChar_no_return (c : Char) : '\r' ∉ writtenChar c := by
  have control : ∀ n < 0x20, '\r' ∉ Text.hexDigits 4 n := by decide
  unfold writtenChar
  repeat' split
  · rename_i h
    intro hmem
    simp only [List.mem_cons, List.not_mem_nil, or_false] at hmem
    rcases hmem with hmem | rfl
    · exact absurd hmem (by decide)
    · exact absurd h (by decide)
  all_goals try decide
  · rename_i h
    have := control c.toNat h
    simpa using this
  · rename_i h _ _ _ _
    intro hmem
    simp only [List.mem_singleton] at hmem
    subst hmem
    exact h rfl

theorem writtenText_no_return (s : String) : '\r' ∉ (writtenText s).toList := by
  simp only [writtenText, String.toList_ofList, List.mem_append, List.mem_cons, List.mem_flatMap]
  rintro ((h | ⟨c, -, h⟩) | h | h)
  · exact absurd h (by decide)
  · exact writtenChar_no_return c h
  · exact absurd h (by decide)
  · exact absurd h (by simp)

theorem freshLine_no_return (depth : Nat) : '\r' ∉ (freshLine depth).toList := by
  simp [freshLine]

/-- The text of a plain value holds no carriage return. -/
theorem prettyAt_no_return {v : Json} (hv : Plain v) : ∀ depth, '\r' ∉ (prettyAt depth v).toList := by
  induction hv with
  | null => intro depth; rw [prettyAt]; decide
  | bool b => intro depth; cases b <;> simp [prettyAt]
  | int n =>
    intro depth
    have digits : ∀ m, '\r' ∉ Nat.toDigits 10 m := fun m h =>
      absurd (Nat.isDigit_of_mem_toDigits (by omega) (by omega) h) (by decide)
    rw [prettyAt]
    rcases toString_int n with ⟨m, -, ht⟩ | ⟨m, -, ht⟩
    · rw [ht]
      exact digits m
    · rw [ht]
      simpa using digits m
  | text s => intro depth; rw [prettyAt]; exact writtenText_no_return s
  | list hitems ih =>
    rename_i items
    have items_no_return : ∀ depth (rest : List Json), (∀ w ∈ rest, ∀ depth, '\r' ∉ (prettyAt depth w).toList) →
        '\r' ∉ (prettyItems depth rest).toList := by
      intro depth rest hrest
      induction rest with
      | nil => simp [prettyItems]
      | cons w rest ih =>
        simp [prettyItems, freshLine_no_return, hrest w (by simp) depth, ih fun x hx => hrest x (by simp [hx])]
    intro depth
    cases items with
    | nil => simp [prettyAt]
    | cons v rest =>
      simp [prettyAt, freshLine_no_return, ih v (by simp), items_no_return _ rest fun x hx => ih x (by simp [hx])]
  | object hnames hfields ih =>
    rename_i fields
    have fields_no_return : ∀ depth (rest : Object), (∀ f ∈ rest, ∀ depth, '\r' ∉ (prettyAt depth f.2).toList) →
        '\r' ∉ (prettyFields depth rest).toList := by
      intro depth rest hrest
      induction rest with
      | nil => simp [prettyFields]
      | cons f rest ih =>
        simp [prettyFields, freshLine_no_return, writtenText_no_return, hrest f (by simp) depth,
          ih fun x hx => hrest x (by simp [hx])]
    intro depth
    cases fields with
    | nil => simp [prettyAt]
    | cons f rest =>
      simp [prettyAt, freshLine_no_return, writtenText_no_return, ih f (by simp),
        fields_no_return _ rest fun x hx => ih x (by simp [hx])]

end Typewright.Json
