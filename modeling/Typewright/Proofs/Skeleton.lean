import Typewright.Proofs.TypeLines

/-!
The lines of a declaration, laid out once for all depths and settings.

Whether a declaration is written at all does not depend on the depth or the settings, as long as the indent is a text
(`renders_iff`): it is written exactly if it lacks nothing and its attributes have texts as arguments. Then one list of
entries, its `skeleton`, tells the text for each of them.
- Only the head of a file stands at the very left: the imports and the line of the namespace (`headTexts`), below the
  comment, which comes from the settings and is the one entry that is not the declaration's own.
- All other lines are blank or move with the depth (`Entry.moves`), those of a method's body also when they are empty: an
  empty line of a body is indented, a blank line between members is not.
- The body of a method stands between two braces, one level further in, wherever the method is (`body_in_type`).

A type inside another one has the entries it has on its own, further in (`typeLines_shift`). So its text can be cut out of
the text around it: what comes before it is the text up to the brace that opens the type (`openingLines`), and what comes
after it is the rest of the declaration without it (`closingLines`).

Proved:
- `one_layout_for_all_settings`: for every declaration that is written somewhere, under all settings with a text as indent
  and at all depths.
- `nested_written_as_alone`: the nested declarations, each as it is written on its own one or two levels further in, are
  what stands between the opening and the closing.
- `layout_of_a_ledger`, `nested_in_a_ledger`: both for a class with two classes in it.
-/

namespace Typewright

/-! ## Declarations that are written -/

theorem joinFrom_ok {separator : String} {n : Nat} {xs : List Piece} {ys : List String}
    (h : joinFrom separator n xs = .ok ys) : ∀ x ∈ xs, x ≠ none := by
  induction xs generalizing n ys with
  | nil => intro x hx; cases hx
  | cons x rest ih =>
    cases x with
    | none => cases h
    | some s =>
      rw [joinFrom] at h
      cases hr : joinFrom separator (n + 1) rest with
      | error m =>
        rw [hr] at h
        cases h
      | ok zs =>
        intro y hy
        rcases List.mem_cons.mp hy with rfl | hy
        · simp
        · exact ih hr y hy

/-- An attribute that can be written has all its arguments. -/
theorem Attribute.hasTexts_of_mark {a : Attribute} (h : (Step.mark a).fault? = none) : a.HasTexts := by
  unfold HasTexts
  rw [Step.fault?, Attribute.text] at h
  cases ha : a.arguments.getD [] with
  | nil => intro x hx; cases hx
  | cons x rest =>
    rw [ha] at h
    cases hj : joinFrom "," 0 (x :: rest) with
    | ok ys => exact joinFrom_ok hj
    | error m =>
      simp only [joinTexts, hj, Except.map] at h
      cases h

namespace Declaration

namespace Script

theorem mem_methods {i : Bool} {ms : Option (List Method)} {m : Method} (hm : m ∈ ms.getD []) {s : Step}
    (hs : s ∈ method i m) : s ∈ methods i ms := by
  unfold methods
  cases h : ms.getD [] with
  | nil =>
    rw [h] at hm
    cases hm
  | cons n rest =>
    rw [h] at hm
    exact List.mem_cons_of_mem _ (List.mem_flatMap.mpr ⟨m, hm, hs⟩)

theorem textArguments_of_type {d : Declaration} (h : ∀ s ∈ type d, s.fault? = none) : d.TextArguments := by
  induction d using nested_induction with
  | h d ih =>
    rw [type_eq] at h
    refine everywhere_iff.mpr ⟨fun a ha => Attribute.hasTexts_of_mark (h _ ?_), fun c hc => ih c hc fun s hs => h s ?_⟩
    · rcases List.mem_append.mp ha with ha | ha
      · simp [typeAround, attributes, ha]
      · obtain ⟨m, hm, ha⟩ := List.mem_flatMap.mp ha
        have hmark : Step.mark a ∈ methods d.isInterface d.methods := mem_methods hm (by simp [method, attributes, ha])
        simp [typeAround, hmark]
    · have hinner : s ∈ d.nestedIn.flatMap innerSteps := List.mem_flatMap.mpr ⟨c, hc, by simp [innerSteps, nested, hs]⟩
      simp [typeAround, hinner]

theorem mem_script {d : Declaration} {s : Step} (hs : s ∈ type d) : s ∈ d.script := by
  unfold script
  split
  · simp [nested, hs]
  · simp [freestanding, hs]

end Script

def Renders (d : Declaration) : Prop := ∃ (k : Int) (s : Settings) (text : String), (d.render k s).outcome = .ok text

theorem Renders.faultless {d : Declaration} (h : d.Renders) : Steps.fault? d.script = none := by
  obtain ⟨k, s, text, h⟩ := h
  obtain ⟨e, e', -, he⟩ := carried_out h
  exact Steps.fault_of_emit he

/-- It hangs on the declaration alone whether it is written. -/
theorem renders_iff (d : Declaration) : d.Renders ↔ d.TextArguments ∧ d.Everywhere fun c => ¬ c.Incomplete := by
  constructor
  · intro h
    have hf := h.faultless
    have ht : d.TextArguments :=
      Script.textArguments_of_type fun s hs => List.findSome?_eq_none_iff.mp hf s (Script.mem_script hs)
    rw [Steps.fault_eq_head, faults_script d ht, List.head?_eq_none_iff, List.map_eq_nil_iff] at hf
    exact ⟨ht, (lacks_eq_nil d).mp hf⟩
  · rintro ⟨ht, hc⟩
    exact ⟨0, {}, _, outcome_complete ht hc 0 {} "\t" rfl⟩

end Declaration

/-! ## One layout for all depths -/

namespace Entry

def flush? : Entry → Option String
  | flush text => some text
  | _ => none

/-- The entry moves with the depth at which its declaration starts. -/
def moves : Entry → Bool
  | deep _ _ => true
  | _ => false

end Entry

theorem indentation_add (u : String) (m n : Nat) : indentation u (m + n) = indentation u m ++ indentation u n := by
  induction m with
  | zero => simp
  | succ m ih => rw [Nat.add_right_comm, indentation_succ, indentation_succ, ih, String.append_assoc]

theorem Entry.line_start (u : String) (k : Nat) (x : Entry) :
    x.line u k = (if x.moves then indentation u k else "") ++ x.line u 0 := by
  cases x with
  | blank => simp [line, moves]
  | flush text => simp [line, moves]
  | deep depth text => simp [line, moves, indentation_add, String.append_assoc]

def Step.atLeft : Step → Bool
  | .comment | .header _ => true
  | _ => false

theorem Steps.layout_flush {comment : String} {r : Nat} {steps : List Step} (h : ∀ s ∈ steps, s.atLeft = false) :
    (layout comment r steps).filterMap Entry.flush? = [] := by
  induction steps generalizing r with
  | nil => rfl
  | cons s rest ih =>
    have hs : (s.entries comment r).filterMap Entry.flush? = [] := by
      have := h s (by simp)
      cases s with
      | comment => cases this
      | header text => cases this
      | mark a => cases ha : a.text <;> simp [Step.entries, ha, Except.toOption, Entry.flush?]
      | member name scope => cases hm : memberText name scope <;> simp [Step.entries, hm, Except.toOption, Entry.flush?]
      | _ => rfl
    rw [layout, List.filterMap_append, hs, ih fun t ht => h t (by simp [ht])]
    rfl

namespace Declaration

namespace Script

theorem method_atLeft (i : Bool) (m : Method) : ∀ s ∈ method i m, s.atLeft = false := by
  have hbody : ∀ s ∈ body i m, s.atLeft = false := by
    unfold body
    cases i with
    | true => simp
    | false =>
      simp only [Bool.false_eq_true, if_false, List.forall_mem_append, List.forall_mem_cons, List.forall_mem_map]
      exact ⟨⟨rfl, rfl, fun _ _ => rfl⟩, rfl, by simp⟩
  simp only [method, List.forall_mem_append, List.forall_mem_cons, attributes, List.forall_mem_map]
  exact ⟨⟨⟨rfl, rfl, fun _ _ => rfl⟩, rfl, hbody⟩, rfl, by simp⟩

theorem methods_atLeft (i : Bool) (ms : Option (List Method)) : ∀ s ∈ methods i ms, s.atLeft = false := by
  unfold methods
  split
  · simp
  · exact List.forall_mem_cons.mpr ⟨rfl, List.forall_mem_flatMap.mpr fun m _ => method_atLeft i m⟩

/-- Nothing of a type stands at the very left. -/
theorem type_atLeft (d : Declaration) : ∀ s ∈ type d, s.atLeft = false := by
  induction d using nested_induction with
  | h d ih =>
    have hinner : ∀ s ∈ d.nestedIn.flatMap innerSteps, s.atLeft = false := by
      refine List.forall_mem_flatMap.mpr fun c hc => ?_
      simp only [innerSteps, nested, requirements, List.cons_append, List.nil_append, List.forall_mem_append,
        List.forall_mem_cons]
      exact ⟨rfl, rfl, rfl, rfl, rfl, ih c hc, rfl, by simp⟩
    rw [type_eq]
    simp only [typeAround, attributes, constants, properties, List.forall_mem_append, List.forall_mem_cons,
      List.forall_mem_map]
    exact ⟨⟨⟨⟨⟨fun _ _ => rfl, rfl, rfl, hinner⟩, fun _ _ => rfl⟩, fun _ _ => rfl⟩, methods_atLeft _ _⟩, rfl, by simp⟩

def typeOpening (r : Nat) (d : Declaration) : List Entry :=
  attributeLines r d.attributes ++ [.deep r (headline d), .deep r "\x7b"]

def typeClosing (r : Nat) (d : Declaration) : List Entry :=
  constantLines (r + 1) d.constants ++ propertyLines (r + 1) d.properties ++ methodSection d.isInterface (r + 1) d.methods
    ++ [.deep r "\x7d"]

theorem linesAround_eq (r : Nat) (d : Declaration) (inner : List Entry) :
    linesAround r d inner = typeOpening r d ++ inner ++ typeClosing r d := by
  simp [linesAround, typeOpening, typeClosing]

/-- The body of a method stands in the lines of every type around it as a block, whatever its lines are. -/
theorem body_in_type {c d : Declaration} (hw : c.Within d) (ht : d.TextArguments) (hi : c.isInterface = false) {m : Method}
    (hm : m ∈ c.methods.getD []) (r : Nat) : ∃ n, bodyLines false n m <:+: typeLines r d := by
  induction hw generalizing r with
  | self =>
    -- From the inside out: the body, its method, the methods of the type.
    have hlines : bodyLines false (r + 1) m <:+: methodLines false (r + 1) m :=
      ⟨attributeLines (r + 1) m.attributes ++ [.deep (r + 1) (methodText false m)], [.blank], by simp [methodLines]⟩
    have hmethod : methodLines false (r + 1) m <:+: methodSection c.isInterface (r + 1) c.methods := by
      unfold methodSection
      rw [hi]
      cases hms : c.methods.getD [] with
      | nil =>
        rw [hms] at hm
        cases hm
      | cons n rest =>
        rw [hms] at hm
        simp only [List.flatMap_def]
        exact List.infix_cons (List.infix_of_mem_flatten (List.mem_map_of_mem hm))
    have hsection : methodSection c.isInterface (r + 1) c.methods <:+: typeLines r c := by
      rw [typeLines_eq ht, linesAround]
      exact List.infix_append _ _ _
    exact ⟨r + 1, hlines.trans (hmethod.trans hsection)⟩
  | @nested e d he hw ih =>
    obtain ⟨n, h⟩ := ih ((everywhere_iff.mp ht).2 e he) (r + 1)
    have hinner : typeLines (r + 1) e <:+: typeLines r d := by
      have hblock : Entry.blank :: typeLines (r + 1) e ++ [.blank] <:+:
          d.nestedIn.flatMap fun c => .blank :: typeLines (r + 1) c ++ [.blank] := by
        rw [List.flatMap_def]
        exact List.infix_of_mem_flatten (List.mem_map_of_mem he)
      have htype : (d.nestedIn.flatMap fun c => .blank :: typeLines (r + 1) c ++ [.blank]) <:+: typeLines r d := by
        rw [typeLines_eq ht, linesAround_eq]
        exact List.infix_append _ _ _
      have hlines : typeLines (r + 1) e <:+: Entry.blank :: typeLines (r + 1) e ++ [.blank] := List.infix_append [_] _ _
      exact hlines.trans (hblock.trans htype)
    exact ⟨n, h.trans hinner⟩

end Script

open Script

/-- The lines of a file's head after the comment; a declaration inside something else has none. -/
def headTexts (d : Declaration) : List String :=
  if d.isNested then []
  else (d.imports.getD []).map (fun i => "using " ++ i.shown ++ ";") ++ ["namespace " ++ d.namespace.shown]

/-- The entries of a declaration, but for the comment at the head of a file. -/
def skeleton (d : Declaration) : List Entry := if d.isNested then scriptLines "" d else (scriptLines "" d).tail

theorem scriptLines_skeleton (comment : String) (d : Declaration) :
    scriptLines comment d = if d.isNested then d.skeleton else .flush comment :: d.skeleton := by
  unfold skeleton scriptLines
  cases d.isNested <;> rfl

theorem skeleton_flush (d : Declaration) : d.skeleton.filterMap Entry.flush? = d.headTexts := by
  have htype : ∀ r, (typeLines r d).filterMap Entry.flush? = [] := fun r => Steps.layout_flush (type_atLeft d)
  unfold skeleton scriptLines headTexts
  cases d.isNested with
  | true => simpa [Entry.flush?] using htype 0
  | false =>
    cases hi : d.imports.getD [] with
    | nil => simp [headLines, hi, List.filterMap_cons, Entry.flush?, htype]
    | cons i rest => simp [headLines, hi, List.filterMap_cons, Entry.flush?, htype, Function.comp_def]

/-- One list of entries tells the text at every depth and under all settings. Only the head of a file is at the very left,
    with the comment as the one entry that is not the declaration's own; all other lines are blank or move with the depth,
    those of a method's body also when they are empty. -/
theorem one_layout_for_all_settings {d : Declaration} (h : d.Renders) :
    ∃ entries : List Entry,
      (∀ (k : Nat) (s : Settings) (u : String), s.indent = .text u →
        (d.render k s).outcome = .ok (layoutText u s.lineEnding.shown k
          (if d.isNested then entries else .flush s.comment.shown :: entries))) ∧
      (∀ (k : Nat) (u ending : String), layoutText u ending k entries =
        String.join (entries.map fun x => (if x.moves then indentation u k else "") ++ x.line u 0 ++ ending)) ∧
      entries.filterMap Entry.flush? = d.headTexts ∧
      ∀ (c : Declaration) (m : Method), c.Within d → c.isInterface = false → m ∈ c.methods.getD [] →
        ∃ r, .deep r "\x7b" :: (m.body.getD []).map (fun l => .deep (r + 1) l.shown) ++ [.deep r "\x7d"] <:+: entries := by
  obtain ⟨ht, hc⟩ := (renders_iff d).mp h
  refine ⟨d.skeleton, fun k s u hu => ?_, fun k u ending => ?_, skeleton_flush d, fun c m hw hi hm => ?_⟩
  · rw [outcome_complete ht hc k s u hu, scriptLines_skeleton]
  · simp only [layoutText, ← Entry.line_start]
  · have htype : ∃ r, typeLines r d <:+: d.skeleton := by
      unfold skeleton scriptLines
      cases d.isNested with
      | true => exact ⟨0, List.infix_cons (List.infix_refl _)⟩
      | false => exact ⟨1, (headLines "" d).tail ++ [.deep 0 "\x7b"], [.deep 0 "\x7d"], by simp [headLines]⟩
    obtain ⟨r, hr⟩ := htype
    obtain ⟨n, hn⟩ := body_in_type hw ht hi hm r
    exact ⟨n, hn.trans hr⟩

def ledgerPage : Declaration :=
  { name := some "Page", innerClasses := some [{ name := some "Line", isNested := true }] }

def ledgerIndex : Declaration := { name := some "Index", isInterface := true, isNested := true }

def ledger : Declaration where
  name := some "Ledger"
  «namespace» := some "Books"
  imports := some [some "System"]
  methods := some [{ name := some "Total", returnType := some "int", body := some [some "", some "return 1;"] }]
  innerClasses := some [ledgerPage, ledgerIndex]

theorem ledger_texts : ledger.TextArguments := by
  have hline : { name := some "Line", isNested := true : Declaration }.TextArguments :=
    everywhere_iff.mpr ⟨by simp [allAttributes], by simp [nestedIn]⟩
  have hpage : ledgerPage.TextArguments := by
    refine everywhere_iff.mpr ⟨by simp [ledgerPage, allAttributes], fun c hc => ?_⟩
    obtain rfl := List.mem_singleton.mp hc
    exact hline
  have hindex : ledgerIndex.TextArguments :=
    everywhere_iff.mpr ⟨by simp [ledgerIndex, allAttributes], by simp [ledgerIndex, nestedIn]⟩
  refine everywhere_iff.mpr ⟨by simp [ledger, allAttributes], fun c hc => ?_⟩
  rcases List.mem_pair.mp hc with rfl | rfl
  · exact hpage
  · exact hindex

theorem ledger_complete : ledger.Everywhere fun c => ¬ c.Incomplete := (lacks_eq_nil ledger).mp rfl

/-- The empty line of the body is one of the entries that move. -/
theorem layout_of_a_ledger :
    ledger.Renders ∧ ∃ entries : List Entry,
      (∀ (k : Nat) (s : Settings) (u : String), s.indent = .text u →
        (ledger.render k s).outcome = .ok (layoutText u s.lineEnding.shown k (.flush s.comment.shown :: entries))) ∧
      entries.filterMap Entry.flush? = ["using System;", "namespace Books"] ∧
      ∃ r, [.deep r "\x7b", .deep (r + 1) "", .deep (r + 1) "return 1;", .deep r "\x7d"] <:+: entries := by
  have h : ledger.Renders := (renders_iff ledger).mpr ⟨ledger_texts, ledger_complete⟩
  obtain ⟨entries, hall, -, hflush, hbody⟩ := one_layout_for_all_settings h
  exact ⟨h, entries, hall, hflush, hbody ledger _ (.self _) rfl (.head _)⟩

end Declaration

/-! ## A type inside another one -/

namespace Declaration

open Script

theorem indent_of_outcome {d : Declaration} {k : Int} {s : Settings} {text : String} (h : (d.render k s).outcome = .ok text) :
    ∃ i, s.indent.Repeats i := by
  have hopen : Step.openBlock ∈ d.script := mem_script (by rw [type_eq]; simp [typeAround])
  obtain ⟨e, e', hi, he⟩ := carried_out h
  exact hi ▸ Steps.indent_of_emit hopen he

/-- How much deeper than its declaration a type starts. -/
def typeDepth (d : Declaration) : Nat := if d.isNested then 0 else 1

def openingLines (comment : String) (d : Declaration) : List Entry :=
  (if d.isNested then [.blank] else headLines comment d ++ [.deep 0 "\x7b"]) ++ typeOpening d.typeDepth d

def closingLines (d : Declaration) : List Entry :=
  typeClosing d.typeDepth d ++ if d.isNested then [] else [.deep 0 "\x7d"]

theorem scriptLines_around {d : Declaration} (ht : d.TextArguments) (comment : String) :
    scriptLines comment d = openingLines comment d
      ++ (d.nestedIn.flatMap fun c => .blank :: typeLines (d.typeDepth + 1) c ++ [.blank]) ++ closingLines d := by
  unfold scriptLines openingLines closingLines typeDepth
  cases d.isNested <;> simp [typeLines_eq ht, linesAround_eq]

theorem layoutTextBy_append (i : Int → String) (ending : String) (k : Nat) (a b : List Entry) :
    layoutTextBy i ending k (a ++ b) = layoutTextBy i ending k a ++ layoutTextBy i ending k b := by
  simp [layoutTextBy, String.join_append]

/-- The text of a type further in is the one it has at a greater depth. -/
theorem typeLines_shift (i : Int → String) (ending : String) (k n : Nat) (c : Declaration) :
    layoutTextBy i ending k (typeLines n c) = layoutTextBy i ending (k + n) (typeLines 0 c) := by
  have hline : ∀ m es, layoutTextBy i ending m es = String.join ((es.map (Entry.lineBy i m)).map (· ++ ending)) := by
    intro m es
    rw [List.map_map]
    rfl
  rw [hline, hline]
  exact congrArg (fun ls => String.join (ls.map (· ++ ending))) (Steps.layout_shift "" i k n (type c) (level_type c 0).1)

/-- What is inside a type, between its blank lines, is what its declarations are written as at their depth. -/
theorem layoutTextBy_nested (i : Int → String) (ending : String) (k n : Nat) (cs : List Declaration) :
    layoutTextBy i ending k (cs.flatMap fun c => .blank :: typeLines n c ++ [.blank]) =
      String.join ((cs.map fun c => layoutTextBy i ending (k + n) (.blank :: typeLines 0 c)).map (· ++ ending)) := by
  have hblank : ∀ m, layoutTextBy i ending m [.blank] = ending := fun m => by simp [layoutTextBy, Entry.lineBy]
  induction cs with
  | nil => rfl
  | cons c rest ih =>
    have hc : layoutTextBy i ending k (.blank :: typeLines n c ++ [.blank]) =
        layoutTextBy i ending (k + n) (.blank :: typeLines 0 c) ++ ending := by
      rw [← List.singleton_append, ← List.singleton_append (l := typeLines 0 c)]
      simp only [layoutTextBy_append, typeLines_shift i ending k n c, hblank]
    rw [List.flatMap_cons, layoutTextBy_append, ih, hc]
    simp [String.join_cons]

theorem outcome_without_nested {d : Declaration} (h : d.Renders) (k : Nat) {s : Settings} {i : Int → String}
    (hi : s.indent.Repeats i) :
    ({ d with innerClasses := none }.render k s).outcome =
      .ok (layoutTextBy i s.lineEnding.shown k (openingLines s.comment.shown d)
        ++ layoutTextBy i s.lineEnding.shown k (closingLines d)) := by
  obtain ⟨ht, hc⟩ := (renders_iff d).mp h
  have ht' : { d with innerClasses := none }.TextArguments :=
    everywhere_iff.mpr ⟨(everywhere_iff.mp ht).1, by simp [nestedIn]⟩
  have hc' : { d with innerClasses := none }.Everywhere fun c => ¬ c.Incomplete :=
    everywhere_iff.mpr ⟨(everywhere_iff.mp hc).1, by simp [nestedIn]⟩
  rw [outcome_lines ht' hc' k hi, scriptLines_around ht', ← layoutTextBy_append]
  simp only [nestedIn, Option.getD_none, List.flatMap_nil, List.append_nil]
  rfl

theorem outcome_of_nested {c d : Declaration} (h : d.Renders) (hcd : c ∈ d.nestedIn) (k : Nat) {s : Settings}
    {i : Int → String} (hi : s.indent.Repeats i) :
    ({ c with isNested := true }.render k s).outcome =
      .ok (layoutTextBy i s.lineEnding.shown k (.blank :: typeLines 0 c)) := by
  obtain ⟨ht, hc⟩ := (renders_iff d).mp h
  have ht' : { c with isNested := true }.TextArguments :=
    everywhere_iff.mpr (everywhere_iff.mp ((everywhere_iff.mp ht).2 c hcd))
  have hc' : { c with isNested := true }.Everywhere fun c => ¬ c.Incomplete :=
    everywhere_iff.mpr (everywhere_iff.mp ((everywhere_iff.mp hc).2 c hcd))
  have htype : type { c with isNested := true } = type c := by
    rw [type_eq, type_eq]
    rfl
  rw [outcome_lines ht' hc' k hi, scriptLines, typeLines, htype]
  rfl

/-- What is nested in a type is written as it is on its own, further in; it stands right after the brace that opens the type,
    and the text around it is that of the declaration without it. -/
theorem nested_written_as_alone {d : Declaration} {k : Nat} {s : Settings} {text : String}
    (h : (d.render k s).outcome = .ok text) :
    ∃ (i : Int → String) (opening closing : String) (inner : List String),
      s.indent.Repeats i ∧
      opening = layoutTextBy i s.lineEnding.shown k (openingLines s.comment.shown d) ∧
      ({ d with innerClasses := none }.render k s).outcome = .ok (opening ++ closing) ∧
      List.Forall₂ (fun c t => ({ c with isNested := true }.render (k + if d.isNested then 1 else 2 : Nat) s).outcome = .ok t)
        d.nestedIn inner ∧
      text = opening ++ String.join (inner.map (· ++ s.lineEnding.shown)) ++ closing := by
  obtain ⟨i, hi⟩ := indent_of_outcome h
  have hd : d.Renders := ⟨k, s, text, h⟩
  have hdepth : (k + if d.isNested then 1 else 2) = k + (d.typeDepth + 1) := by
    unfold typeDepth
    split <;> rfl
  refine ⟨i, _, layoutTextBy i s.lineEnding.shown k (closingLines d),
    d.nestedIn.map fun c => layoutTextBy i s.lineEnding.shown (k + (d.typeDepth + 1)) (.blank :: typeLines 0 c), hi, rfl,
    outcome_without_nested hd k hi, ?_, ?_⟩
  · rw [List.forall₂_map_right_iff, List.forall₂_same, hdepth]
    exact fun c hc => outcome_of_nested hd hc _ hi
  · obtain ⟨ht, hc⟩ := (renders_iff d).mp hd
    -- The lines of all three texts are known; only the cut is left to be compared.
    rw [outcome_lines ht hc k hi, scriptLines_around ht, layoutTextBy_append, layoutTextBy_append, layoutTextBy_nested] at h
    exact (Except.ok.inj h).symm

/-- Both nested declarations are two levels further in, whether they are marked as nested or not. -/
theorem nested_in_a_ledger :
    ∃ text, (ledger.render 1 {}).outcome = .ok text ∧
      ∃ (page index opening closing : String),
        ({ ledger with innerClasses := none }.render 1 {}).outcome = .ok (opening ++ closing) ∧
        ({ ledgerPage with isNested := true }.render 3 {}).outcome = .ok page ∧
        (ledgerIndex.render 3 {}).outcome = .ok index ∧
        text = opening ++ (page ++ "\n" ++ (index ++ "\n")) ++ closing := by
  have h := outcome_complete ledger_texts ledger_complete 1 {} "\t" rfl
  obtain ⟨i, opening, closing, inner, -, -, hwithout, hinner, htext⟩ := nested_written_as_alone h
  refine ⟨_, h, ?_⟩
  obtain _ | ⟨hpage, _ | ⟨hindex, hnil⟩⟩ := hinner
  cases hnil
  refine ⟨_, _, opening, closing, hwithout, hpage, hindex, ?_⟩
  rw [htext]
  simp [Json.shown]

end Declaration

end Typewright
