import Typewright.Proofs.Foresight
import Typewright.Proofs.JsonText
import Typewright.Proofs.Spelling
import Typewright.Proofs.WordTexts

/-!
Plain declarations and what they are spelled with.

A declaration is `Plain` when every text in it is one the language has a place for. Of each kind of text it is said what
that is:
- a name is a word that is no keyword (`isName`), and an identifier one that is no keyword anywhere (`isIdentifier`), not
  even in a query or a pattern;
- a type is an identifier or a type that has a keyword (`isTypeName`);
- a value is an identifier or a whole number, perhaps with a minus sign (`Json.IsValue`);
- modifiers and accesses are the common ones (`plainModifiers`), bases are identifiers with commas between them, and
  namespaces and imports are names with points between them;
- bodies are empty, and no required collection is missing.

What a constructor may give as its return type is left open in `Method.Plain`, since it is not a type that is written there
but the name that the constructor goes by. Constants, properties, methods and nested types may come in any number, and
nesting may go to any depth.

The lexemes of a plain declaration are given part by part, in the order they are written in, from an attribute
(`Attribute.lexemes`) to a file (`Declaration.fileLexemes`). That the written text is cut into just these is `lex_file`;
that they are matched as what they were is `file_types`.
-/

namespace Typewright

open Source

/-! ## Texts -/

/-- A word that is no keyword. -/
def isName (s : String) : Bool := isWordText s && !isReserved s

/-- A name that is no keyword anywhere. -/
def isIdentifier (s : String) : Bool := isName s && !(contextualWords.contains s)

theorem isIdentifier.isWordText {s : String} (h : isIdentifier s = true) : isWordText s = true := by
  rw [isIdentifier, isName, Bool.and_eq_true, Bool.and_eq_true] at h
  exact h.1.1

def isTypeName (s : String) : Bool := isIdentifier s || predefinedTypes.contains s

/-- A whole number, perhaps with a minus sign. -/
def isDecimal (s : String) : Bool :=
  match s.toList with
  | '-' :: ds => isDigits (String.ofList ds)
  | _ => isDigits s

def parts (sep : Char) (s : String) : List String := (Text.splitAt sep s.toList).map String.ofList

/-- A separator goes before each list but the first. -/
theorem intercalate_cons {α : Type} (sep : α) (l : List α) (ls : List (List α)) :
    [sep].intercalate (l :: ls) = l ++ ls.flatMap (sep :: ·) := by
  induction ls generalizing l with
  | nil => simp [List.intercalate]
  | cons m ls ih => rw [List.intercalate_cons_cons, ih, List.flatMap_cons, List.append_assoc]; rfl

theorem parts_ne_nil (sep : Char) (s : String) : parts sep s ≠ [] := by
  simpa [parts] using Text.splitAt_ne_nil sep s.toList

theorem intercalate_splitAt (sep : Char) (cs : List Char) : [sep].intercalate (Text.splitAt sep cs) = cs := by
  induction cs with
  | nil => rfl
  | cons c rest ih =>
    obtain ⟨piece, more, hsplit⟩ := List.exists_cons_of_ne_nil (Text.splitAt_ne_nil sep rest)
    rw [hsplit, intercalate_cons] at ih
    rw [Text.splitAt, hsplit]
    split
    next hc => rw [intercalate_cons, List.nil_append, List.flatMap_cons, List.cons_append, ih, eq_of_beq hc]
    next => rw [intercalate_cons, List.cons_append, ih]

/-- The parts with the separators between them are the text. -/
theorem parts_chars (sep : Char) (s : String) : [sep].intercalate ((parts sep s).map String.toList) = s.toList := by
  have hof : String.toList ∘ String.ofList = id := by funext cs; exact String.toList_ofList
  rw [parts, List.map_map, hof, List.map_id, intercalate_splitAt]

def plainModifiers : List String := ["public", "private", "protected", "internal", "static", "sealed", "override"]

def Piece.Has (good : String → Prop) (p : Piece) : Prop := ∃ s, p = some s ∧ good s

/-- A value whose writing is a name or a whole number. -/
def Json.IsValue : Json → Prop
  | .text s => isIdentifier s = true ∨ isDecimal s = true
  | .int _ => True
  | _ => False

/-- The writing of a value is a name, digits, or digits behind a minus sign. -/
theorem Json.IsValue.cases {v : Json} (h : v.IsValue) :
    isIdentifier (Template.Library.printed v) = true ∨ isDigits (Template.Library.printed v) = true ∨
      ∃ ds, (Template.Library.printed v).toList = '-' :: ds ∧ isDigits (String.ofList ds) = true := by
  have decimal : ∀ {s : String}, isDecimal s = true →
      isDigits s = true ∨ ∃ ds, s.toList = '-' :: ds ∧ isDigits (String.ofList ds) = true := by
    intro s hs
    unfold isDecimal at hs
    split at hs
    · rename_i ds hds
      exact .inr ⟨ds, hds, hs⟩
    · exact .inl hs
  have digits : ∀ {s : String} (m : Nat), s.toList = Nat.toDigits 10 m → isDigits s = true := by
    intro s m hs
    rw [isDigits, hs, Bool.and_eq_true, List.all_eq_true, Bool.not_eq_true']
    refine ⟨?_, fun c hc => Nat.isDigit_of_mem_toDigits (by omega) (by omega) hc⟩
    obtain ⟨d, ds, hd, -⟩ := head_toDigits m
    rw [hd]
    rfl
  cases v with
  | text s =>
    rcases h with h | h
    · exact .inl h
    · exact .inr (decimal h)
  | int n =>
    rcases toString_int n with ⟨m, -, hm⟩ | ⟨m, -, hm⟩
    · exact .inr (.inl (digits m hm))
    · exact .inr (.inr ⟨_, hm, digits m String.toList_ofList⟩)
  | _ => exact absurd h id

/-! ## Plain declarations -/

structure Attribute.Plain (a : Attribute) : Prop where
  name : a.name.Has (isIdentifier · = true)
  arguments : ∀ x ∈ a.arguments.getD [], x.Has fun s => ∀ c ∈ s.toList, isQuotable c = true

structure Constant.Plain (c : Constant) : Prop where
  name : c.name.Has (isIdentifier · = true)
  type : c.type.Has (isTypeName · = true)
  access : c.access.Has (· ∈ plainModifiers)
  value : c.value.IsValue

structure Property.Plain (p : Property) : Prop where
  name : p.name.Has (isIdentifier · = true)
  type : p.type.Has (isTypeName · = true)
  access : p.access.Has (· ∈ plainModifiers)
  expression : p.isExpressionBodied = true → ∃ s, p.expression = .text s ∧ isIdentifier s = true

structure Parameter.Plain (p : Parameter) : Prop where
  name : p.name.Has (isIdentifier · = true)
  type : p.type.Has (isTypeName · = true)

/-- A plain method; what a constructor may give as its return type is left open. -/
structure Method.Plain (constructed : String → Bool) (m : Method) : Prop where
  name : m.isConstructor = false → m.name.Has (isIdentifier · = true)
  returnType : m.returnType.Has fun t => (if m.isConstructor then constructed t else isTypeName t) = true
  keywords : ∃ ks, m.keywords = some ks ∧ ∀ k ∈ ks, k.Has (· ∈ plainModifiers)
  parameters : ∃ ps, m.parameters = some ps ∧ ∀ p ∈ ps, p.Plain
  body : m.body.getD [] = []
  attributes : ∀ a ∈ m.attributes.getD [], a.Plain
  baseArguments : ∀ x ∈ m.baseArguments.getD [], x.Has (isIdentifier · = true)
  noBase : m.isConstructor = false → m.baseArguments.getD [] = []

/-- A plain type, without regard to the types nested in it. -/
structure Declaration.PlainType (constructed : String → Bool) (d : Declaration) : Prop where
  name : d.name.Has (isIdentifier · = true)
  imports : d.imports ≠ none
  keywords : ∃ ks, d.keywords = some ks ∧ ∀ k ∈ ks, k.Has (· ∈ plainModifiers)
  attributes : ∃ as, d.attributes = some as ∧ ∀ a ∈ as, a.Plain
  implementations : ∀ i, d.implementations = some i → ∀ p ∈ parts ',' i, isIdentifier p = true
  constants : ∀ c ∈ d.constants.getD [], c.Plain
  properties : ∀ p ∈ d.properties.getD [], p.Plain
  methods : ∀ m ∈ d.methods.getD [], m.Plain constructed
  bodies : d.isInterface = false → ∀ m ∈ d.methods.getD [], m.body ≠ none
  constructors : d.isInterface = true → ∀ m ∈ d.methods.getD [], m.isConstructor = false

structure Declaration.Plain (constructed : String → Bool) (d : Declaration) : Prop where
  everywhere : d.Everywhere (PlainType constructed)
  freestanding : d.isNested = false
  scope : d.namespace.Has fun n => ∀ p ∈ parts '.' n, isName p = true
  imported : ∀ x ∈ d.imports.getD [], x.Has fun n => ∀ p ∈ parts '.' n, isName p = true

/-! ## Lexemes -/

namespace Source.Lexeme

def word (w : String) : Lexeme := ⟨.word, w, false⟩

def mark (m : String) : Lexeme := ⟨.mark, m, false⟩

def commas (ls : List (List Lexeme)) : List Lexeme := [mark ","].intercalate ls

/-- Names with points between them, without blanks. -/
def dotted : List String → List Lexeme
  | [] => []
  | p :: ps => word p :: ps.flatMap fun q => [⟨.mark, ".", true⟩, ⟨.word, q, true⟩]

def ofValue (s : String) : List Lexeme :=
  match s.toList with
  | '-' :: ds => [mark "-", ⟨.number, String.ofList ds, false⟩]
  | _ => if isDigits s then [⟨.number, s, false⟩] else [word s]

theorem ofValue_word {s : String} (h : isWordText s = true) : ofValue s = [word s] := by
  obtain ⟨c, cs, hs, hd, -, hm⟩ := isWordText.head h
  unfold ofValue
  split
  · rename_i ds hds
    rw [hs] at hds
    exact absurd (List.cons.inj hds).1 hm
  · rw [if_neg]
    rw [isDigits, hs, List.all_cons, hd]
    simp

theorem ofValue_digits {s : String} (h : isDigits s = true) : ofValue s = [⟨.number, s, false⟩] := by
  unfold ofValue
  split
  · rename_i ds hds
    rw [isDigits, hds, List.all_cons, show '-'.isDigit = false by decide] at h
    simp at h
  · rw [if_pos h]

theorem ofValue_minus {s : String} {ds : List Char} (h : s.toList = '-' :: ds) :
    ofValue s = [mark "-", ⟨.number, String.ofList ds, false⟩] := by
  simp only [ofValue, h]

end Source.Lexeme

open Source.Lexeme Template.Library

def Attribute.quoted (arguments : List Piece) : String :=
  Text.addQuotes (String.intercalate "," (arguments.map Piece.shown))

def Attribute.lexemes (a : Attribute) : List Lexeme :=
  mark "[" :: word a.name.shown
    :: (match a.arguments.getD [] with
      | [] => []
      | arguments => [mark "(", ⟨.literal, quoted arguments, false⟩, mark ")"])
    ++ [mark "]"]

/-- The attribute as it is read back: its arguments are one quoted text. -/
def Attribute.inSource (a : Attribute) : Attribute where
  name := some a.name.shown
  arguments :=
    match a.arguments.getD [] with
    | [] => none
    | arguments => some [some (quoted arguments)]

def Constant.lexemes (c : Constant) : List Lexeme :=
  [word c.access.shown, word "const", word c.type.shown, word c.name.shown, mark "="] ++ ofValue (printed c.value) ++ [mark ";"]

def Property.lexemes (p : Property) : List Lexeme :=
  [word p.access.shown, word p.type.shown, word p.name.shown]
    ++ if p.isExpressionBodied then [mark "=>", word (printed p.expression), mark ";"]
      else [mark "\x7b", word "get", mark ";", word "set", mark ";", mark "\x7d"]

def Parameter.lexemes (p : Parameter) : List Lexeme :=
  (if p.isExtensionReceiver then [word "this"] else []) ++ [word p.type.shown, word p.name.shown]

namespace Method

def baseLexemes (m : Method) : List Lexeme :=
  match m.baseArguments.getD [] with
  | [] => []
  | arguments => mark ":" :: word "base" :: mark "(" :: commas (arguments.map fun x => [word x.shown]) ++ [mark ")"]

def tailLexemes (isInterface : Bool) (m : Method) : List Lexeme :=
  mark "(" :: commas ((m.parameters.getD []).map Parameter.lexemes) ++ mark ")" :: m.baseLexemes
    ++ if isInterface then [mark ";"] else [mark "\x7b", mark "\x7d"]

def lexemes (isInterface : Bool) (m : Method) : List Lexeme :=
  (m.attributes.getD []).flatMap Attribute.lexemes ++ (m.keywords.getD []).map (word ·.shown)
    ++ word m.returnType.shown :: (if m.isConstructor then [] else [word m.name.shown]) ++ m.tailLexemes isInterface

end Method

namespace Declaration

def baseLexemes (d : Declaration) : List Lexeme :=
  match d.implementations with
  | some i => mark ":" :: commas ((parts ',' i).map ([word ·]))
  | none => []

def memberLexemes (d : Declaration) : List Lexeme :=
  (d.constants.getD []).flatMap Constant.lexemes ++ (d.properties.getD []).flatMap Property.lexemes
    ++ (d.methods.getD []).flatMap (Method.lexemes d.isInterface)

def lexemesAround (d : Declaration) (inner : List Lexeme) : List Lexeme :=
  (d.attributes.getD []).flatMap Attribute.lexemes ++ (d.keywords.getD []).map (word ·.shown)
    ++ word d.kindWord :: word d.name.shown :: d.baseLexemes ++ mark "\x7b" :: inner ++ d.memberLexemes ++ [mark "\x7d"]

mutual

def lexemes : Declaration → List Lexeme
  | ⟨name, «namespace», imports, keywords, attributes, implementations, properties, constants, methods, innerClasses,
      isInterface, isNested⟩ =>
    lexemesAround
      ⟨name, «namespace», imports, keywords, attributes, implementations, properties, constants, methods, innerClasses,
        isInterface, isNested⟩
      (lexemesOption innerClasses)

def lexemesOption : Option (List Declaration) → List Lexeme
  | none => []
  | some ds => lexemesAll ds

def lexemesAll : List Declaration → List Lexeme
  | [] => []
  | d :: rest => lexemes d ++ lexemesAll rest

end

theorem lexemesAll_eq (ds : List Declaration) : lexemesAll ds = ds.flatMap lexemes := by
  induction ds with
  | nil => simp [lexemesAll]
  | cons d rest ih => simp [lexemesAll, ih]

theorem lexemes_eq (d : Declaration) : d.lexemes = d.lexemesAround (d.nestedIn.flatMap lexemes) := by
  obtain ⟨_, _, _, _, _, _, _, _, _, innerClasses, _, _⟩ := d
  cases innerClasses with
  | none => simp [lexemes, lexemesOption, nestedIn]
  | some ds => simp [lexemes, lexemesOption, nestedIn, lexemesAll_eq]

def usingLexemes (x : Piece) : List Lexeme := word "using" :: dotted (parts '.' x.shown) ++ [mark ";"]

def fileLexemes (d : Declaration) : List Lexeme :=
  (d.imports.getD []).flatMap usingLexemes ++ word "namespace" :: dotted (parts '.' d.namespace.shown)
    ++ mark "\x7b" :: d.lexemes ++ [mark "\x7d"]

end Declaration

end Typewright
