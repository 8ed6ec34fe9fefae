import Typewright.Proofs.JsonText

/-!
What passes from texts to values in writing. Settings and fields can be values of any kind, and a value is written by
joining: its texts, quoted when they stand inside something else, braces around the fields of an object, and words and
numbers, which are plain.

A property of texts is `Inherited` when plain texts have it and joining, quoting and bracing keep it. Then a value in
writing has it as soon as all its texts do (`Inherited.shown`), and so does a value that is repeated as an indent is
(`Inherited.repeated`). Having no line ends is such a property, and having balanced braces; for either the only thing left
to prove is what joining, quoting and bracing do.

Numbers are the part with an argument in it: digits, signs, points and exponents are plain, for integers (`plain_int`), for
decimals in either notation (`plain_write`) and for the reals that are no numbers (`plain_real`). The texts of a value are
those in it at any depth, the names of fields among them (`Json.texts`).
-/

namespace Typewright

/-! ## Plain characters -/

namespace Text

def isPlain (c : Char) : Bool := 0x20 ≤ c.toNat && c.toNat ≤ 0x7e && c != '\x7b' && c != '\x7d'

def allPlain (s : String) : Bool := s.toList.all isPlain

theorem plain_toDigits {b : Nat} (hb : 1 < b) (hb' : b ≤ 16) (n : Nat) : ∀ c ∈ b.toDigits n, isPlain c = true := by
  have digit : ∀ d < 16, isPlain d.digitChar = true := by decide
  induction n using Nat.strongRecOn with
  | ind n ih =>
    intro c hc
    rw [Nat.toDigits_eq_if hb] at hc
    split at hc
    · rename_i hn
      obtain rfl := List.mem_singleton.mp hc
      exact digit n (by omega)
    · rename_i hn
      rcases List.mem_append.mp hc with hc | hc
      · exact ih (n / b) (Nat.div_lt_self (by omega) hb) c hc
      · obtain rfl := List.mem_singleton.mp hc
        exact digit (n % b) (by have := Nat.mod_lt n (show b > 0 by omega); omega)

theorem plain_zeros (k : Nat) : ∀ c ∈ List.replicate k '0', isPlain c = true := by
  intro c hc
  rw [List.eq_of_mem_replicate hc]
  decide

theorem plain_hexDigits (width n : Nat) : ∀ c ∈ hexDigits width n, isPlain c = true :=
  List.forall_mem_append.mpr ⟨plain_zeros _, plain_toDigits (by decide) (by decide) n⟩

theorem plain_int (n : Int) : allPlain (toString n) = true := by
  have digits : ∀ m, ∀ c ∈ Nat.toDigits 10 m, isPlain c = true := plain_toDigits (by decide) (by decide)
  rw [allPlain, List.all_eq_true]
  rcases Json.toString_int n with ⟨m, -, h⟩ | ⟨m, -, h⟩
  · exact h ▸ digits m
  · exact h ▸ List.forall_mem_cons.mpr ⟨by decide, digits m⟩

theorem plain_write (style : Decimal.Style) (n : Nat) (p : Int) : ∀ c ∈ style.write n p, isPlain c = true := by
  have digits : ∀ m, ∀ c ∈ Nat.toDigits 10 m, isPlain c = true := plain_toDigits (by decide) (by decide)
  have first : ∀ k, ∀ c ∈ (Nat.toDigits 10 n).take k, isPlain c = true := fun k c hc => digits n c (List.mem_of_mem_take hc)
  have last : ∀ k, ∀ c ∈ (Nat.toDigits 10 n).drop k, isPlain c = true := fun k c hc => digits n c (List.mem_of_mem_drop hc)
  obtain ⟨hpoint, hzero, he⟩ : isPlain '.' = true ∧ isPlain '0' = true ∧ isPlain 'e' = true := by decide
  unfold Decimal.Style.write
  simp only
  split
  · split
    · simp only [List.forall_mem_append, List.forall_mem_cons]
      exact ⟨⟨digits n, plain_zeros _⟩, hpoint, hzero, by simp⟩
    split
    · exact List.forall_mem_append.mpr ⟨first _, List.forall_mem_cons.mpr ⟨hpoint, last _⟩⟩
    · simp only [List.forall_mem_append, List.forall_mem_cons]
      exact ⟨⟨hzero, hpoint, plain_zeros _⟩, digits n⟩
  · have hfraction : ∀ c ∈ (if (Nat.toDigits 10 n).length == 1 then [] else '.' :: (Nat.toDigits 10 n).drop 1),
        isPlain c = true := by
      split
      · simp
      · exact List.forall_mem_cons.mpr ⟨hpoint, last 1⟩
    have hsign : ∀ b : Prop, [Decidable b] → isPlain (if b then '+' else '-') = true := by
      intro b _
      split <;> decide
    simp only [List.forall_mem_append, List.forall_mem_cons, Decimal.padLeft]
    exact ⟨⟨first 1, hfraction⟩, he, hsign _, plain_zeros _, digits _⟩

theorem plain_real (x : Decimal.Binary64) : allPlain x.text = true := by
  cases x with
  | nan => decide
  | infinite s => cases s <;> decide
  | finite s m e =>
    rw [allPlain, Decimal.Binary64.text, String.toList_ofList, List.all_append, Bool.and_eq_true]
    refine ⟨?_, List.all_eq_true.mpr (plain_write _ _ _)⟩
    cases s <;> decide

end Text

/-! ## The texts of a value -/

namespace Json

mutual

def texts : Json → List String
  | .text s => [s]
  | .list items => itemTexts items
  | .object fields => fieldTexts fields
  | .null | .bool _ | .int _ | .real _ => []

def itemTexts : List Json → List String
  | [] => []
  | v :: rest => texts v ++ itemTexts rest

def fieldTexts : List (String × Json) → List String
  | [] => []
  | (name, v) :: rest => name :: (texts v ++ fieldTexts rest)

end

theorem itemTexts_eq (items : List Json) : itemTexts items = items.flatMap texts := by
  induction items with
  | nil => rfl
  | cons v rest ih => rw [itemTexts, ih, List.flatMap_cons]

end Json

/-! ## Inheritance -/

/-- The property passes from texts to what is written of them. -/
structure Inherited (P : String → Prop) : Prop where
  plain {s : String} : Text.allPlain s = true → P s
  append {s t : String} : P s → P t → P (s ++ t)
  braced {s : String} : P s → P ("\x7b" ++ s ++ "\x7d")
  quoted {s : String} : P s → P (Text.quoted s)

namespace Inherited

variable {P : String → Prop}

theorem empty (h : Inherited P) : P "" := h.plain rfl

theorem join (h : Inherited P) {texts : List String} (ht : ∀ s ∈ texts, P s) : P (String.join texts) := by
  induction texts with
  | nil => exact h.empty
  | cons s rest ih =>
    rw [List.forall_mem_cons] at ht
    rw [String.join_cons]
    exact h.append ht.1 (ih ht.2)

theorem intercalate (h : Inherited P) {separator : String} (hs : P separator) {texts : List String} (ht : ∀ s ∈ texts, P s) :
    P (String.intercalate separator texts) := by
  induction texts with
  | nil => exact h.empty
  | cons s rest ih =>
    rw [List.forall_mem_cons] at ht
    cases rest with
    | nil =>
      rw [String.intercalate_singleton]
      exact ht.1
    | cons t rest =>
      rw [String.intercalate_cons_cons]
      exact h.append (h.append ht.1 hs) (ih ht.2)

theorem commaSeparated (h : Inherited P) {texts : List String} (ht : ∀ s ∈ texts, P s) : P (Json.commaSeparated texts) := by
  fun_induction Json.commaSeparated texts with
  | case1 => exact h.empty
  | case2 s => exact ht s (by simp)
  | case3 s rest _ ih =>
    rw [List.forall_mem_cons] at ht
    exact h.append (h.append ht.1 (h.plain (by decide))) (ih ht.2)

mutual

theorem quotedValue (h : Inherited P) : (v : Json) → (∀ s ∈ v.texts, P s) → P v.quoted
  | .null, _ => h.plain (by decide)
  | .bool b, _ => by cases b <;> exact h.plain (by decide)
  | .int n, _ => h.plain (Text.plain_int n)
  | .real x, _ => h.plain (Text.plain_real x)
  | .text s, hv => h.quoted (hv s (by simp [Json.texts]))
  | .list items, hv => by
    rw [Json.quoted]
    exact h.append (h.append (h.plain (by decide)) (h.commaSeparated (h.quotedItems items hv))) (h.plain (by decide))
  | .object fields, hv => by
    rw [Json.quoted]
    exact h.braced (h.commaSeparated (h.quotedFields fields hv))

theorem quotedItems (h : Inherited P) : (items : List Json) → (∀ s ∈ Json.itemTexts items, P s) →
    ∀ s ∈ Json.quotedItems items, P s
  | [], _ => by simp [Json.quotedItems]
  | v :: rest, hv => by
    rw [Json.itemTexts, List.forall_mem_append] at hv
    rw [Json.quotedItems, List.forall_mem_cons]
    exact ⟨h.quotedValue v hv.1, h.quotedItems rest hv.2⟩

theorem quotedFields (h : Inherited P) : (fields : List (String × Json)) → (∀ s ∈ Json.fieldTexts fields, P s) →
    ∀ s ∈ Json.quotedFields fields, P s
  | [], _ => by simp [Json.quotedFields]
  | (name, v) :: rest, hv => by
    rw [Json.fieldTexts, List.forall_mem_cons, List.forall_mem_append] at hv
    rw [Json.quotedFields, List.forall_mem_cons]
    exact ⟨h.append (h.append (h.quoted hv.1) (h.plain (by decide))) (h.quotedValue v hv.2.1), h.quotedFields rest hv.2.2⟩

end

theorem shown (h : Inherited P) {v : Json} (hv : ∀ s ∈ v.texts, P s) : P v.shown := by
  cases v with
  | text s => exact hv s (by simp [Json.texts])
  | _ => exact h.quotedValue _ hv

/-- A value taken any number of times has what its texts have. -/
theorem repeated (h : Inherited P) {v : Json} (hv : ∀ s ∈ v.texts, P s) {n : Int} {text : String}
    (hn : v.repeated n = .ok text) : P text := by
  cases v with
  | null => cases hn
  | object fields => cases hn
  | bool b => cases hn; exact h.plain (Text.plain_int _)
  | int k => cases hn; exact h.plain (Text.plain_int _)
  | real x => cases hn; exact h.plain (Text.plain_real _)
  | text s =>
    cases hn
    exact h.join fun t ht => (List.eq_of_mem_replicate ht) ▸ hv s (by simp [Json.texts])
  | list items =>
    cases hn
    refine h.shown fun s hs => hv s ?_
    rw [Json.texts, Json.itemTexts_eq] at hs ⊢
    obtain ⟨v, hv, hs⟩ := List.mem_flatMap.mp hs
    obtain ⟨copy, hc, hv⟩ := List.mem_flatten.mp hv
    rw [List.eq_of_mem_replicate hc] at hv
    exact List.mem_flatMap.mpr ⟨v, hv, hs⟩

end Inherited

end Typewright
