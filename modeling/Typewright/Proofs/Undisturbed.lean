import Typewright.Proofs.LineTexts
import Typewright.Proofs.Skeleton
import Typewright.Settings.Store
import Typewright.Text.Split

/-!
Code under settings that give no warning. A declaration is `Undisturbed` by settings when its text has the lines it has
under the default ones, up to white space at their heads, and the comment of the settings as the first line of a file
(`SameCode`). Lines end in a line feed, or in a carriage return and one (`Text.lines`).

The warnings look for characters that are not blank in the indent, for a line ending other than the usual ones and for the
mark of a comment (`warnings_eq_nil_iff`), but not for line feeds. Those are what disturbs: a text has one more line than it
has line feeds (`length_lines`), so each one in an indent or a comment adds a line. The count of lines gives one direction:
what is undisturbed has no line feed that the default settings would not put there (`whole_of_undisturbed`). For the other,
when every entry of the layout is one line, so are the lines of the text, and taking the white space off their heads takes
the indents off (`lines_layoutText`, `sameCode_iff`).

Proved:
- `undisturbed_iff_no_line_feed`: for declarations whose texts hold no line ends, exactly which settings without warnings
  disturb. An indent with a line feed does as soon as there is anything to indent; a comment does with a line feed, or with
  a carriage return at its end that is taken for a part of the line ending.
- `ledger_keeps_its_code` and `line_feeds_disturb_without_warning`: settings of both kinds, all without a warning.
-/

namespace Typewright

/-! ## The lines of a text -/

namespace Text

def dropReturn (l : List Char) : List Char := if l.getLast? = some '\r' then l.dropLast else l

/-- The lines of a text, cut at the line feeds. A carriage return right before a line feed goes with it. -/
def lines (cs : List Char) : List (List Char) :=
  (splitAt '\n' cs).dropLast.map dropReturn ++ (splitAt '\n' cs).getLast?.toList

def unindented (l : List Char) : List Char := l.dropWhile isBlank

def Unbroken (s : String) : Prop := ∀ c ∈ s.toList, c ≠ '\n' ∧ c ≠ '\r'

-- By the characters of the text, not by all characters there are.
instance (s : String) : Decidable (Unbroken s) :=
  decidable_of_iff (s.toList.all fun c => c != '\n' && c != '\r') (by simp [Unbroken])

theorem splitAt_piece {separator : Char} {l : List Char} (h : separator ∉ l) (rest : List Char) :
    splitAt separator (l ++ separator :: rest) = l :: splitAt separator rest := by
  induction l with
  | nil => simp [splitAt]
  | cons c l ih =>
    rw [List.mem_cons, not_or] at h
    have hc : (c == separator) = false := by simpa using Ne.symm h.1
    rw [List.cons_append, splitAt, hc, ih h.2]
    rfl

theorem splitAt_pieces {separator : Char} {ls : List (List Char)} (h : ∀ l ∈ ls, separator ∉ l) :
    splitAt separator (ls.flatMap fun l => l ++ [separator]) = ls ++ [[]] := by
  induction ls with
  | nil => rfl
  | cons l rest ih =>
    rw [List.forall_mem_cons] at h
    rw [List.flatMap_cons, List.append_assoc, List.singleton_append, splitAt_piece h.1, ih h.2]
    rfl

theorem length_splitAt (separator : Char) (cs : List Char) : (splitAt separator cs).length = cs.count separator + 1 := by
  induction cs with
  | nil => rfl
  | cons c rest ih =>
    obtain ⟨piece, more, hsplit⟩ := List.exists_cons_of_ne_nil (splitAt_ne_nil separator rest)
    rw [splitAt, List.count_cons, ← Nat.add_right_comm, ← ih]
    split <;> simp [hsplit]

theorem lines_pieces {ls : List (List Char)} (h : ∀ l ∈ ls, '\n' ∉ l) :
    lines (ls.flatMap fun l => l ++ ['\n']) = ls.map dropReturn ++ [[]] := by
  rw [lines, splitAt_pieces h]
  simp

/-- A text has one more line than it has line feeds. -/
theorem length_lines (cs : List Char) : (lines cs).length = cs.count '\n' + 1 := by
  obtain ⟨piece, more, hsplit⟩ := List.exists_cons_of_ne_nil (splitAt_ne_nil '\n' cs)
  rw [← length_splitAt, lines, hsplit]
  simp [List.getLast?_cons]

theorem dropReturn_return (l : List Char) : dropReturn (l ++ ['\r']) = l := by
  simp [dropReturn]

theorem dropReturn_eq_self {l : List Char} : dropReturn l = l ↔ l.getLast? ≠ some '\r' := by
  unfold dropReturn
  split
  · rename_i h
    have hne : l ≠ [] := by
      rintro rfl
      cases h
    have hlength : l.dropLast.length ≠ l.length := by
      have := List.length_pos_of_ne_nil hne
      rw [List.length_dropLast]
      omega
    exact iff_of_false (fun e => hlength (congrArg List.length e)) (fun e => e h)
  · rename_i h
    exact iff_of_true rfl h

theorem unindented_append {i : List Char} (hi : ∀ c ∈ i, isBlank c = true) (t : List Char) :
    unindented (i ++ t) = unindented t := List.dropWhile_append_of_pos hi

/-- Dropping a carriage return can only touch the indentation of a line that has none in its text. -/
theorem unindented_dropReturn {i t : List Char} (hi : ∀ c ∈ i, isBlank c = true) (ht : '\r' ∉ t) :
    unindented (dropReturn (i ++ t)) = unindented t := by
  by_cases hne : t = []
  · subst hne
    have hblank : ∀ c ∈ dropReturn (i ++ []), isBlank c = true := by
      intro c hc
      apply hi c
      rw [List.append_nil] at hc
      unfold dropReturn at hc
      split at hc
      · exact (List.dropLast_sublist i).subset hc
      · exact hc
    simpa using unindented_append hblank []
  · have hlast : (i ++ t).getLast? ≠ some '\r' := by
      rw [List.getLast?_append_of_ne_nil _ hne]
      exact fun h => ht (List.mem_of_getLast? h)
    rw [dropReturn_eq_self.mpr hlast, unindented_append hi]

/-- A line as it is read when `ending` stands after it. -/
def asRead (ending : String) (l : List Char) : List Char := if ending = "\n" then dropReturn l else l

theorem asRead_eq_self {ending : String} {l : List Char} :
    asRead ending l = l ↔ (ending = "\n" → l.getLast? ≠ some '\r') := by
  unfold asRead
  split <;> simp_all [dropReturn_eq_self]

theorem unindented_asRead (ending : String) {i t : List Char} (hi : ∀ c ∈ i, isBlank c = true) (ht : '\r' ∉ t) :
    unindented (asRead ending (i ++ t)) = unindented t := by
  unfold asRead
  split
  · exact unindented_dropReturn hi ht
  · exact unindented_append hi t

theorem quotedChar_unbroken {quote : Char} (hq : quote ≠ '\n' ∧ quote ≠ '\r') (c : Char) :
    ∀ x ∈ quotedChar quote c, x ≠ '\n' ∧ x ≠ '\r' := by
  have plain : ∀ x, isPlain x = true → x ≠ '\n' ∧ x ≠ '\r' := by
    intro x hx
    constructor <;> rintro rfl <;> exact absurd hx (by decide)
  have hex : ∀ width n, ∀ x ∈ hexDigits width n, x ≠ '\n' ∧ x ≠ '\r' :=
    fun width n x hx => plain x (plain_hexDigits width n x hx)
  unfold quotedChar
  split
  · rename_i h
    have hc : c ≠ '\n' ∧ c ≠ '\r' := by
      rcases Bool.or_eq_true_iff.mp h with h | h <;> rw [beq_iff_eq.mp h]
      · exact hq
      · decide
    simpa using hc
  split
  · simp
  split
  · simp
  split
  · simp
  split
  · simp_all
  split
  · simpa using hex _ _
  split
  · simpa using hex _ _
  · simpa using hex _ _

/-- What is written of texts without line ends has none either. -/
theorem unbroken_inherited : Inherited Unbroken where
  plain hs c hc := by
    constructor <;> rintro rfl <;> exact absurd (List.all_eq_true.mp hs _ hc) (by decide)
  append hs ht := by
    rw [Unbroken, String.toList_append, List.forall_mem_append]
    exact ⟨hs, ht⟩
  braced hs := by
    have hopen : Unbroken "\x7b" := by decide
    have hclose : Unbroken "\x7d" := by decide
    simp only [Unbroken, String.toList_append, List.forall_mem_append]
    exact ⟨⟨hopen, hs⟩, hclose⟩
  quoted := by
    intro s _
    have hq : quoteFor s.toList ≠ '\n' ∧ quoteFor s.toList ≠ '\r' := by
      unfold quoteFor
      split <;> decide
    rw [Unbroken, quoted, String.toList_ofList, List.forall_mem_append, List.forall_mem_cons, List.forall_mem_flatMap]
    exact ⟨⟨hq, fun c _ => quotedChar_unbroken hq c⟩, by simpa using hq⟩

end Text

/-! ## The lines of a layout -/

namespace Entry

/-- How often an entry is indented in a declaration that starts at the very left. -/
def level : Entry → Nat
  | deep depth _ => depth
  | _ => 0

@[simp] theorem level_blank : blank.level = 0 := rfl

@[simp] theorem level_flush (text : String) : (flush text).level = 0 := rfl

@[simp] theorem level_deep (depth : Nat) (text : String) : (deep depth text).level = depth := rfl

theorem line_level (u : String) (x : Entry) : x.line u 0 = indentation u x.level ++ x.text := by
  cases x <;> simp [line, text]

end Entry

def breaks (u : String) (es : List Entry) : Nat := (es.flatMap fun x => (x.line u 0).toList).count '\n'

theorem breaks_eq_zero {u : String} {es : List Entry} : breaks u es = 0 ↔ ∀ x ∈ es, '\n' ∉ (x.line u 0).toList := by
  simp [breaks, List.count_eq_zero]

def readLines (u ending : String) (es : List Entry) : List (List Char) :=
  es.map fun x => Text.asRead ending (x.line u 0).toList

/-- A blank indent leaves no trace once the lines are unindented. -/
theorem unindented_readLines {u : String} (hu : Text.allBlank u = true) (ending : String) {es : List Entry}
    (h : ∀ x ∈ es, '\r' ∉ x.text.toList) :
    (readLines u ending es).map Text.unindented = es.map fun x => Text.unindented x.text.toList := by
  rw [readLines, List.map_map]
  refine List.map_congr_left fun x hx => ?_
  have hblank : ∀ c ∈ (indentation u x.level).toList, Text.isBlank c = true :=
    fun c hc => List.all_eq_true.mp hu c (mem_indentation.mp hc).2
  rw [Function.comp, Entry.line_level, String.toList_append]
  exact Text.unindented_asRead ending hblank (h x hx)

section Layout

variable {u ending : String} (he : ending = "\n" ∨ ending = "\r\n")

include he

/-- Every line of a layout ends with a line feed, and what is before it reads as the line. -/
theorem layoutText_pieces (es : List Entry) :
    ∃ before : List Char, '\n' ∉ before ∧ (∀ l, Text.dropReturn (l ++ before) = Text.asRead ending l) ∧
      (layoutText u ending 0 es).toList =
        (es.map fun x => (x.line u 0).toList ++ before).flatMap fun l => l ++ ['\n'] := by
  have chars : ∀ before, ending.toList = before ++ ['\n'] → (layoutText u ending 0 es).toList =
      (es.map fun x => (x.line u 0).toList ++ before).flatMap fun l => l ++ ['\n'] := by
    intro before hb
    simp [toList_layoutText, List.flatMap_map, hb]
  rcases he with rfl | rfl
  · exact ⟨[], by simp, fun l => by simp [Text.asRead], chars [] rfl⟩
  · exact ⟨['\r'], by decide, fun l => by simp [Text.asRead, Text.dropReturn_return], chars ['\r'] rfl⟩

theorem lines_layoutText {es : List Entry} (h : ∀ x ∈ es, '\n' ∉ (x.line u 0).toList) :
    Text.lines (layoutText u ending 0 es).toList = readLines u ending es ++ [[]] := by
  obtain ⟨before, hb, hread, hchars⟩ := layoutText_pieces (u := u) he es
  have hlines : ∀ l ∈ es.map fun x => (x.line u 0).toList ++ before, '\n' ∉ l := by
    intro l hl
    obtain ⟨x, hx, rfl⟩ := List.mem_map.mp hl
    rw [List.mem_append, not_or]
    exact ⟨h x hx, hb⟩
  rw [hchars, Text.lines_pieces hlines, List.map_map]
  simp [Function.comp_def, hread, readLines]

theorem length_lines_layoutText (es : List Entry) :
    (Text.lines (layoutText u ending 0 es).toList).length = breaks u es + es.length + 1 := by
  obtain ⟨before, hb, -, hchars⟩ := layoutText_pieces (u := u) he es
  have hcount : ∀ xs : List Entry, ((xs.map fun x => (x.line u 0).toList ++ before).flatMap fun l => l ++ ['\n']).count '\n' =
      breaks u xs + xs.length := by
    intro xs
    induction xs with
    | nil => rfl
    | cons x rest ih =>
      have hx : ((x.line u 0).toList ++ before ++ ['\n']).count '\n' = (x.line u 0).toList.count '\n' + 1 := by
        simp [List.count_append, List.count_eq_zero_of_not_mem hb]
      have hbreaks : breaks u (x :: rest) = (x.line u 0).toList.count '\n' + breaks u rest := by simp [breaks]
      rw [List.map_cons, List.flatMap_cons, List.count_append, hx, ih, hbreaks, List.length_cons]
      omega
  rw [Text.length_lines, hchars, hcount]

end Layout

/-! ## Warnings -/

namespace Settings

variable {s : Settings} {u e c : String} (hu : s.indent = .text u) (he : s.lineEnding = .text e) (hc : s.comment = .text c)

include hu he hc

/-- No warning is given when the indent is blank, the line ending one of the usual two and the comment empty or marked as one. -/
theorem warnings_eq_nil_iff :
    s.warnings = .ok [] ↔ Text.allBlank u = true ∧ (e = "\n" ∨ e = "\r\n") ∧ (c = "" ∨ "//".toList <+: c.toList) := by
  have single : ∀ {p : Prop} [Decidable p] {w : String}, (if p then [] else [w]) = [] ↔ p := by
    intro p _ w
    split <;> simp_all
  have hindent : s.indentWarning =
      .ok (if Text.allBlank u = true then [] else ["Indent should be whitespace only: " ++ Text.quoted u]) := by
    rw [indentWarning, hu]
    split
    · rename_i h
      obtain rfl : u = "" := by simpa [Json.truth] using h
      rfl
    · rfl
  have hending : s.lineEndingWarning =
      .ok (if e = "\n" ∨ e = "\r\n" then [] else ["Unusual line ending: " ++ Text.quoted e]) := by
    rw [lineEndingWarning, he]
    simp
  have hcomment : s.commentWarning =
      .ok (if c = "" ∨ "//".toList <+: c.toList then []
        else ["Auto-generation comment is not a line comment: " ++ Text.quoted c]) := by
    rw [commentWarning, hc]
    by_cases h : c = "" <;> simp [h, Json.truth]
  simp only [warnings, hindent, hending, hcomment, bind, Except.bind, pure, Except.pure, Except.ok.injEq,
    List.append_eq_nil_iff, single, and_assoc]

end Settings

/-! ## Declarations -/

/-- The same code, line by line and up to indentation. Where `first` is given it is the first line, whatever stands there in
    the other text. -/
def SameCode : Option (List Char) → List (List Char) → List (List Char) → Prop
  | none, ls, ms => ls.map Text.unindented = ms.map Text.unindented
  | some first, ls, ms => ∃ ls' m ms', ls = first :: ls' ∧ ms = m :: ms' ∧ ls'.map Text.unindented = ms'.map Text.unindented

theorem SameCode.length_eq {first : Option (List Char)} {ls ms : List (List Char)} (h : SameCode first ls ms) :
    ls.length = ms.length := by
  cases first with
  | none => simpa using congrArg List.length h
  | some first =>
    obtain ⟨ls', m, ms', rfl, rfl, h⟩ := h
    simpa using congrArg List.length h

namespace Declaration

open Script

/-- The text under the settings is that under the default ones, line by line and up to indentation; a file starts with the
    comment of the settings. -/
def Undisturbed (d : Declaration) (s : Settings) : Prop :=
  ∃ text plain, (d.render 0 s).outcome = .ok text ∧ (d.render 0 {}).outcome = .ok plain ∧
    SameCode (if d.isNested then none else some s.comment.shown.toList) (Text.lines text.toList) (Text.lines plain.toList)

def commented (comment : String) (d : Declaration) : List Entry :=
  if d.isNested then d.skeleton else .flush comment :: d.skeleton

def Bare (d : Declaration) : Prop :=
  d.nestedIn = [] ∧ d.constants.getD [] = [] ∧ d.properties.getD [] = [] ∧ d.methods.getD [] = []

section Rendered

variable {d : Declaration} (h : d.Renders)

include h

theorem outcome_commented {s : Settings} {u : String} (hu : s.indent = .text u) :
    (d.render 0 s).outcome = .ok (layoutText u s.lineEnding.shown 0 (d.commented s.comment.shown)) := by
  obtain ⟨ht, hc⟩ := (renders_iff d).mp h
  rw [commented, ← scriptLines_skeleton]
  exact outcome_complete ht hc 0 s u hu

theorem skeleton_unbroken (ht : d.Everywhere (TextsAre Text.Unbroken)) : ∀ x ∈ d.skeleton, Text.Unbroken x.text := by
  have hsteps : ∀ s ∈ d.script, s.Writes Text.Unbroken "" :=
    Text.unbroken_inherited.scriptSteps (by decide) (by decide) ht Text.unbroken_inherited.empty
  have hlines := Steps.layout_texts hsteps 0
  rw [Script.layout_script ((renders_iff d).mp h).1] at hlines
  intro x hx
  apply hlines x
  unfold skeleton at hx
  split at hx
  · exact hx
  · exact List.mem_of_mem_tail hx

end Rendered

section Levels

theorem level_map_eq_zero {α : Type} {xs : List α} {f : α → String} :
    (∀ x ∈ xs.map fun y => Entry.deep 1 (f y), x.level = 0) ↔ xs = [] := by
  cases xs <;> simp

theorem level_methodSection_eq_zero {i : Bool} {ms : Option (List Method)} :
    (∀ x ∈ methodSection i 1 ms, x.level = 0) ↔ ms.getD [] = [] := by
  unfold methodSection
  cases hms : ms.getD [] with
  | nil => simp
  | cons m rest =>
    have hmem : Entry.deep 1 (methodText i m) ∈ Entry.blank :: (m :: rest).flatMap (methodLines i 1) := by
      simp [methodLines]
    refine iff_of_false (fun h => ?_) (List.cons_ne_nil m rest)
    simpa using h _ hmem

variable {d : Declaration} (ht : d.TextArguments)

include ht

theorem headline_mem_typeLines (r : Nat) : .deep r (headline d) ∈ typeLines r d := by
  rw [typeLines_eq ht]
  simp [linesAround]

theorem level_typeLines_eq_zero : (∀ x ∈ typeLines 0 d, x.level = 0) ↔ d.Bare := by
  have hnested : (∀ x ∈ d.nestedIn.flatMap fun c => .blank :: typeLines 1 c ++ [.blank], x.level = 0) ↔ d.nestedIn = [] := by
    constructor
    · intro h
      refine List.eq_nil_iff_forall_not_mem.mpr fun c hc => ?_
      have hmem := headline_mem_typeLines ((everywhere_iff.mp ht).2 c hc) 1
      simpa using h (.deep 1 (headline c)) (List.mem_flatMap.mpr ⟨c, hc, by simp [hmem]⟩)
    · intro h
      simp [h]
  have hattributes : ∀ x ∈ attributeLines 0 d.attributes, x.level = 0 := by
    simp [attributeLines]
  rw [typeLines_eq ht]
  simp only [linesAround, Bare, List.forall_mem_append, List.forall_mem_cons, hnested, constantLines, propertyLines,
    Nat.zero_add, level_map_eq_zero, level_methodSection_eq_zero]
  simpa [and_assoc] using fun _ _ _ _ => hattributes

/-- Only a nested type with nothing in it has no indented line. -/
theorem level_skeleton_eq_zero : (∀ x ∈ d.skeleton, x.level = 0) ↔ d.isNested = true ∧ d.Bare := by
  unfold skeleton scriptLines
  cases d.isNested with
  | true => simp [← level_typeLines_eq_zero ht]
  | false =>
    have hmem := headline_mem_typeLines ht 1
    simp only [Bool.false_eq_true, if_false, false_and, iff_false]
    intro h
    simpa using h (.deep 1 (headline d)) (by simp [headLines, hmem])

end Levels

/-! ## What disturbs -/

/-- The lines of a declaration stay whole when no line feed is in the indent, or nothing is indented. -/
theorem skeleton_whole_iff {d : Declaration} (h : d.Renders) (ht : d.Everywhere (TextsAre Text.Unbroken)) (u : String) :
    (∀ x ∈ d.skeleton, '\n' ∉ (x.line u 0).toList) ↔ '\n' ∉ u.toList ∨ d.isNested = true ∧ d.Bare := by
  have hline : ∀ x ∈ d.skeleton, '\n' ∉ (x.line u 0).toList ↔ ('\n' ∉ u.toList ∨ x.level = 0) := by
    intro x hx
    have htext : '\n' ∉ x.text.toList := fun hn => (skeleton_unbroken h ht x hx _ hn).1 rfl
    rw [Entry.line_level, String.toList_append, List.mem_append, mem_indentation]
    tauto
  rw [← level_skeleton_eq_zero ((renders_iff d).mp h).1]
  by_cases hu : '\n' ∈ u.toList
  · simp only [hu, not_true, false_or] at hline ⊢
    exact forall₂_congr hline
  · simp only [hu, not_false_eq_true, true_or, iff_true] at hline ⊢
    exact hline

section Settings

variable {d : Declaration} {s : Settings} {u e c : String}

/-- Both texts are known, so only their lines have to be compared. -/
theorem undisturbed_iff_sameCode (h : d.Renders) (hu : s.indent = .text u) (he : s.lineEnding = .text e)
    (hc : s.comment = .text c) :
    d.Undisturbed s ↔ SameCode (if d.isNested then none else some c.toList)
      (Text.lines (layoutText u e 0 (d.commented c)).toList)
      (Text.lines (layoutText "\t" "\n" 0 (d.commented "// Auto-generated code")).toList) := by
  have htext := outcome_commented h hu
  have hplain := outcome_commented h (s := {}) rfl
  simp only [he, hc, Json.shown] at htext hplain
  simp only [Undisturbed, htext, hplain, hc, Json.shown, Except.ok.injEq]
  constructor
  · rintro ⟨_, _, rfl, rfl, hsame⟩
    exact hsame
  · intro hsame
    exact ⟨_, _, rfl, rfl, hsame⟩

theorem commented_whole_iff :
    (∀ x ∈ d.commented c, '\n' ∉ (x.line u 0).toList) ↔
      (∀ x ∈ d.skeleton, '\n' ∉ (x.line u 0).toList) ∧ (d.isNested = true ∨ '\n' ∉ c.toList) := by
  unfold commented
  cases d.isNested <;> simp [Entry.line, and_comm]

theorem commented_whole_default (h : d.Renders) (ht : d.Everywhere (TextsAre Text.Unbroken)) :
    ∀ x ∈ d.commented "// Auto-generated code", '\n' ∉ (x.line "\t" 0).toList :=
  commented_whole_iff.mpr ⟨(skeleton_whole_iff h ht "\t").mpr (.inl (by decide)), .inr (by decide)⟩

/-- A line feed too many adds a line, so a declaration that is undisturbed has none. -/
theorem whole_of_undisturbed (hu : s.indent = .text u) (he : s.lineEnding = .text e) (hc : s.comment = .text c)
    (hending : e = "\n" ∨ e = "\r\n") (h : d.Renders) (ht : d.Everywhere (TextsAre Text.Unbroken)) (hd : d.Undisturbed s) :
    ∀ x ∈ d.commented c, '\n' ∉ (x.line u 0).toList := by
  have hlength : (d.commented c).length = (d.commented "// Auto-generated code").length := by
    unfold commented
    split <;> rfl
  have hlines := ((undisturbed_iff_sameCode h hu he hc).mp hd).length_eq
  rw [length_lines_layoutText hending, length_lines_layoutText (.inl rfl),
    breaks_eq_zero.mpr (commented_whole_default h ht), hlength] at hlines
  exact breaks_eq_zero.mp (by omega)

/-- Where all lines are whole, the first of a file is the only one that can differ. -/
theorem sameCode_iff (hblank : Text.allBlank u = true) (he : e = "\n" ∨ e = "\r\n") {c' : String}
    (hskeleton : ∀ x ∈ d.skeleton, '\r' ∉ x.text.toList)
    (hwhole : ∀ x ∈ d.commented c, '\n' ∉ (x.line u 0).toList)
    (hplain : ∀ x ∈ d.commented c', '\n' ∉ (x.line "\t" 0).toList) :
    SameCode (if d.isNested then none else some c.toList) (Text.lines (layoutText u e 0 (d.commented c)).toList)
        (Text.lines (layoutText "\t" "\n" 0 (d.commented c')).toList) ↔
      (d.isNested = true ∨ (e = "\n" → c.toList.getLast? ≠ some '\r')) := by
  have hsame : (readLines u e d.skeleton ++ [[]]).map Text.unindented =
      (readLines "\t" "\n" d.skeleton ++ [[]]).map Text.unindented := by
    rw [List.map_append, List.map_append, unindented_readLines hblank e hskeleton,
      unindented_readLines (by decide) "\n" hskeleton]
  rw [lines_layoutText he hwhole, lines_layoutText (.inl rfl) hplain]
  unfold commented
  cases d.isNested with
  | true => simpa [SameCode] using hsame
  | false =>
    simp only [Bool.false_eq_true, if_false, false_or, ← Text.asRead_eq_self, SameCode]
    constructor
    · rintro ⟨ls, m, ms, hl, -, -⟩
      exact (List.cons.inj hl).1
    · intro hc
      exact ⟨_, _, _, congrArg (· :: _) hc, rfl, hsame⟩

/-- Under settings without warnings, a declaration whose texts hold no line ends is undisturbed exactly when the indent holds no
    line feed, or there is nothing to indent, and the comment at the head of its file, if it has one, holds none either and
    ends in no carriage return that would be taken for a part of the line ending. -/
theorem undisturbed_iff_no_line_feed (hu : s.indent = .text u) (he : s.lineEnding = .text e) (hc : s.comment = .text c)
    (hw : s.warnings = .ok []) (h : d.Renders) (ht : d.Everywhere (TextsAre Text.Unbroken)) :
    d.Undisturbed s ↔
      ('\n' ∉ u.toList ∨ d.isNested = true ∧ d.Bare) ∧
      (d.isNested = true ∨ '\n' ∉ c.toList ∧ (e = "\n" → c.toList.getLast? ≠ some '\r')) := by
  obtain ⟨hblank, hending, -⟩ := (Settings.warnings_eq_nil_iff hu he hc).mp hw
  have hskeleton : ∀ x ∈ d.skeleton, '\r' ∉ x.text.toList :=
    fun x hx hr => (skeleton_unbroken h ht x hx _ hr).2 rfl
  have hplain := commented_whole_default h ht
  constructor
  · intro hd
    have hwhole := whole_of_undisturbed hu he hc hending h ht hd
    have hsame := (undisturbed_iff_sameCode h hu he hc).mp hd
    have hfirst := (sameCode_iff hblank hending hskeleton hwhole hplain).mp hsame
    obtain ⟨hlines, hcomment⟩ := commented_whole_iff.mp hwhole
    exact ⟨(skeleton_whole_iff h ht u).mp hlines, by tauto⟩
  · rintro ⟨hlines, hcomment⟩
    have hwhole : ∀ x ∈ d.commented c, '\n' ∉ (x.line u 0).toList :=
      commented_whole_iff.mpr ⟨(skeleton_whole_iff h ht u).mpr hlines, by tauto⟩
    exact (undisturbed_iff_sameCode h hu he hc).mpr
      ((sameCode_iff hblank hending hskeleton hwhole hplain).mpr (by tauto))

end Settings

theorem ledger_renders : ledger.Renders := (renders_iff ledger).mpr ⟨ledger_texts, ledger_complete⟩

theorem ledger_unbroken : ledger.Everywhere (TextsAre Text.Unbroken) := by
  have hline : { name := some "Line", isNested := true : Declaration }.Everywhere (TextsAre Text.Unbroken) :=
    everywhere_iff.mpr ⟨by unfold TextsAre; decide, by simp [nestedIn]⟩
  have hpage : ledgerPage.Everywhere (TextsAre Text.Unbroken) := by
    refine everywhere_iff.mpr ⟨by unfold TextsAre; decide, fun c hc => ?_⟩
    obtain rfl := List.mem_singleton.mp hc
    exact hline
  have hindex : ledgerIndex.Everywhere (TextsAre Text.Unbroken) :=
    everywhere_iff.mpr ⟨by unfold TextsAre; decide, by simp [ledgerIndex, nestedIn]⟩
  refine everywhere_iff.mpr ⟨by unfold TextsAre; decide, fun c hc => ?_⟩
  rcases List.mem_pair.mp hc with rfl | rfl
  · exact hpage
  · exact hindex

def wideSettings : Settings where
  indent := .text " \r"
  lineEnding := .text "\r\n"
  comment := .text "// Books\r"

/-- Carriage returns do not disturb where every line has one of its own. -/
theorem ledger_keeps_its_code :
    wideSettings.warnings = .ok [] ∧ ledger.Renders ∧ ledger.Everywhere (TextsAre Text.Unbroken) ∧
      ledger.Undisturbed wideSettings := by
  have hw : wideSettings.warnings = .ok [] := rfl
  refine ⟨hw, ledger_renders, ledger_unbroken, ?_⟩
  rw [undisturbed_iff_no_line_feed rfl rfl rfl hw ledger_renders ledger_unbroken]
  exact ⟨.inl (by decide), .inr ⟨by decide, by decide⟩⟩

/-- A line feed in a comment or in an indent gives no warning, but an additional line. -/
theorem line_feeds_disturb_without_warning :
    ledger.Renders ∧ ledger.Everywhere (TextsAre Text.Unbroken) ∧
      { comment := .text "// Books\nusing Ink;" : Settings }.warnings = .ok [] ∧
      ¬ ledger.Undisturbed { comment := .text "// Books\nusing Ink;" } ∧
      { indent := .text "\n" : Settings }.warnings = .ok [] ∧ ¬ ledger.Undisturbed { indent := .text "\n" } := by
  refine ⟨ledger_renders, ledger_unbroken, rfl, fun hd => ?_, rfl, fun hd => ?_⟩
  · have hwhole := whole_of_undisturbed rfl rfl rfl (.inl rfl) ledger_renders ledger_unbroken hd
    exact absurd (commented_whole_iff.mp hwhole).2 (by decide)
  · have hwhole := whole_of_undisturbed rfl rfl rfl (.inl rfl) ledger_renders ledger_unbroken hd
    have hlines := (skeleton_whole_iff ledger_renders ledger_unbroken "\n").mp (commented_whole_iff.mp hwhole).1
    exact absurd hlines (by simp [ledger])

end Declaration

end Typewright
