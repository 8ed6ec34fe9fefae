import Typewright.Proofs.SettingsFile

/-!
Settings in layers.

The defaults of a language lie under the fields of a file, and these under overrides. Under each name the topmost layer that
has it stands (`layered`, `find?_layers`); nothing is merged below the names. Only then the names are told apart: three of
them are settings, `custom` holds entries, and every other one becomes an entry itself, over an entry of that name
(`ofObject_object`). So no name is lost, and a `custom` object hides those of the layers below it as a whole.

What a file brings in (`Brings`) is the object that is read from it, and no file brings nothing. That an object gives no
name twice is needed of the overrides, which are handed over as one; of a file it is proved (`readFile_nodup`), by following
the reader of JSON text through every value.

An entry under `custom` may also be no object. Then there is nothing to take entries from: it stays as it is if no other
name asks to become an entry, and is refused otherwise (`load_simple`).

Proved, in one statement about every language, file and set of overrides (`merged_by_one_precedence`):
- the three settings and the custom entries are what the layers say, name by name;
- entries that overrides bring in under `custom` do not hide the other names of the file, which are entries, too;
- a file under overrides comes to the same as both merged into one set of overrides;
- what happens when `custom` is null, a truth value or a number.

`custom_object_is_hidden_as_a_whole` is a case where the overrides have a `custom` object and the file has another.
-/

namespace Typewright

/-! ## Names that are read -/

namespace Json

theorem readFields_nodup {fuel : Nat} {o result : Object} {c after : Cursor} (h : readFields fuel o c = .ok (result, after))
    (ho : o.names.Nodup) : result.names.Nodup := by
  induction fuel generalizing o c with
  | zero =>
    rw [readFields] at h
    cases h
  | succ fuel ih =>
    have hinsert : ∀ name v, (o.insert name v).names.Nodup := fun name v => Object.nodup_merge [(name, v)] ho
    rw [readFields] at h
    split at h
    · cases h
    split at h
    · cases h
    rename_i name _ _
    dsimp only at h
    split at h
    · cases h
    split at h
    · cases h
    rename_i v _ _
    split at h
    · cases h
      exact hinsert name v
    split at h
    · cases h
    exact ih h (hinsert name v)

theorem readNumber_ne_object {c after : Cursor} {o : Object} : readNumber c ≠ .ok (.object o, after) := by
  intro h
  unfold readNumber at h
  extract_lets negative body whole afterWhole fraction fractionLength exponent length value at h
  split at h
  · cases h
  · have hvalue : value = .object o := congrArg Prod.fst (Except.ok.inj h)
    unfold value at hvalue
    split at hvalue <;> cases hvalue

theorem readScalar_ne_object {c after : Cursor} {o : Object} : readScalar c ≠ .ok (.object o, after) := by
  intro h
  unfold readScalar at h
  split at h
  · rename_i w hw
    have hconstants : ∀ w ∈ constants, w.2.kindName ≠ "dict" := by decide
    have hvalue : w.2 = .object o := congrArg Prod.fst (Except.ok.inj h)
    exact hconstants w (List.mem_of_find?_eq_some hw) (by rw [hvalue]; rfl)
  · exact readNumber_ne_object h

theorem readValue_nodup {fuel : Nat} {c after : Cursor} {o : Object} (h : readValue fuel c = .ok (.object o, after)) :
    o.names.Nodup := by
  cases fuel with
  | zero =>
    rw [readValue] at h
    cases h
  | succ fuel =>
    rw [readValue] at h
    split at h
    · cases h
    · cases hs : readString c <;> rw [hs] at h <;> cases h
    · dsimp only at h
      split at h
      · cases h
        exact List.nodup_nil
      · cases hr : readFields fuel [] (c.skip 1).skipBlanks with
        | error e =>
          rw [hr] at h
          cases h
        | ok r =>
          rw [hr] at h
          cases h
          exact readFields_nodup hr List.nodup_nil
    · dsimp only at h
      split at h
      · cases h
      · cases hr : readItems fuel (c.skip 1).skipBlanks <;> rw [hr] at h <;> cases h
    · exact absurd h readScalar_ne_object

/-- A name that is read again takes the place of the first, so no object that is read has a name twice. -/
theorem read_nodup {source : List Char} {o : Object} (h : read source = .ok (.object o)) : o.names.Nodup := by
  unfold read at h
  split at h
  · cases h
  split at h
  · cases h
  rename_i v after hvalue
  dsimp only at h
  split at h
  · cases h
    exact readValue_nodup hvalue
  · cases h

end Json

namespace Settings

open Files

/-- No file of settings that is read has a name twice. -/
theorem readFile_nodup {files : Tree} {path : Path} {o : Object} (h : readFile files path = .ok o) : o.names.Nodup := by
  have hcontent : ∀ c, readContent path c = .ok o → o.names.Nodup := by
    intro c hc
    unfold readContent at hc
    split at hc
    · cases hc
    split at hc
    · cases hc
    · rename_i hread
      cases hc
      exact Json.read_nodup hread
    · cases hc
  unfold readFile at h
  split at h
  · cases h
  · cases h
  split at h
  · cases h
  split at h
  · cases h
  · cases h
  · exact hcontent _ h

/-! ## Layers -/

/-- The fields that a file brings in; without a file there are none. -/
def Brings (files : Tree) (file : Option String) (fields : Object) : Prop :=
  match file with
  | none => fields = []
  | some path => if path.isEmpty then fields = [] else readFile files (.ofString path) = .ok fields

/-- Overrides as they are passed on, null when there are none. -/
def passed : Option Object → Json
  | none => .null
  | some o => .object o

/-- What a name stands for under a language: in the overrides, else in the file, else by default. -/
def layered (language : String) (file overrides : Object) (name : String) : Option Json :=
  (overrides.find? name).or ((file.find? name).or ((defaults language).find? name))

def layers (language : String) (file overrides : Object) : Object := ((defaults language).merge file).merge overrides

theorem Brings.nodup {files : Tree} {file : Option String} {fields : Object} (h : Brings files file fields) :
    fields.names.Nodup := by
  unfold Brings at h
  split at h
  · subst h
    exact List.nodup_nil
  split at h
  · subst h
    exact List.nodup_nil
  · exact readFile_nodup h

theorem override_object (o overrides : Object) : override o (.object overrides) = .ok (o.merge overrides) := by
  unfold override
  cases overrides <;> rfl

theorem resolve_passed (language : String) (file : Object) (overrides : Option Object) :
    resolve language file (passed overrides) = ofObject (layers language file (overrides.getD [])) := by
  cases overrides with
  | none => rfl
  | some overrides =>
    rw [resolve, passed, override_object]
    rfl

/-- Loading goes by the three layers. -/
theorem load_layers {files : Tree} {file : Option String} {fields : Object} (h : Brings files file fields) (language : String)
    (overrides : Option Object) :
    load files language (passed overrides) file = (ofObject (layers language fields (overrides.getD []))).mapError .misuse := by
  unfold Brings at h
  cases file with
  | none =>
    subst h
    simp only [load, resolve_passed]
  | some path =>
    simp only at h
    split at h
    · rename_i hempty
      subst h
      simp only [load, hempty, if_true, resolve_passed]
    · rename_i hpath
      simp only [load, hpath, Bool.false_eq_true, if_false, h, resolve_passed]

/-- The fields of a file and overrides come to the same as one object of overrides. -/
theorem load_joined {files : Tree} {file : Option String} {fields : Object} (hf : Brings files file fields)
    (overrides : Option Object) (language : String) :
    load files language (passed overrides) file = load files language (.object (fields.merge (overrides.getD []))) none := by
  have hnone : Brings files none [] := rfl
  have hjoined := load_layers hnone language (some (fields.merge (overrides.getD [])))
  rw [load_layers hf]
  refine Eq.trans ?_ hjoined.symm
  rw [layers, Object.merge_merge _ hf.nodup]
  rfl

theorem find?_layers (language : String) {file overrides : Object} (hf : file.names.Nodup) (ho : overrides.names.Nodup)
    (name : String) : (layers language file overrides).find? name = layered language file overrides name := by
  rw [layers, Object.find?_merge _ ho, Object.find?_merge _ hf, layered]

/-! ## Settings and entries -/

theorem isFieldName_iff {name : String} : isFieldName name = true ↔ name ∈ fieldNames := List.contains_iff_mem

theorem find?_unshadowed (o : Object) (name : String) :
    (unshadowed o).find? name = if name ∈ fieldNames then none else o.find? name := by
  rw [unshadowed, Object.find?_filterNames]
  by_cases h : name ∈ fieldNames
  · rw [if_pos h, isFieldName_iff.mpr h]
    rfl
  · have hno : isFieldName name = false := Bool.eq_false_iff.mpr (mt isFieldName_iff.mp h)
    rw [if_neg h, hno]
    rfl

theorem nodup_unshadowed {o : Object} (h : o.names.Nodup) : (unshadowed o).names.Nodup := Object.filterNames_nodup h _

theorem unshadowed_eq_nil {o : Object} : unshadowed o = [] ↔ ¬ ∃ name, (o.find? name).isSome = true ∧ name ∉ fieldNames := by
  constructor
  · rintro h ⟨name, hname, hfield⟩
    have hnone := find?_unshadowed o name
    rw [h, if_neg hfield] at hnone
    rw [← hnone] at hname
    cases hname
  · intro h
    refine List.filter_eq_nil_iff.mpr fun f hf hfield => h ⟨f.1, ?_, ?_⟩
    · exact Object.isSome_find?.mpr (List.mem_map_of_mem hf)
    · intro hm
      simp [isFieldName_iff.mpr hm] at hfield

theorem ofObject_eq (o : Object) :
    ofObject o =
      if (unshadowed o).isEmpty then .ok (ofKnown o)
      else (ofKnown o).custom.fields.map fun own => { ofKnown o with custom := .object (own.merge (unshadowed o)) } := rfl

/-- With entries under `custom`, what is no setting is written over them. -/
theorem ofObject_object {o entries : Object} (h : (ofKnown o).custom = .object entries) :
    ofObject o = .ok { ofKnown o with custom := .object (entries.merge (unshadowed o)) } := by
  rw [ofObject_eq]
  split
  · rename_i hempty
    rw [List.isEmpty_iff.mp hempty, show entries.merge [] = entries from rfl, ← h]
  · rw [h]
    rfl

/-- With a value under `custom` that holds no entries, there is no place for anything that is no setting. -/
theorem ofObject_refused {o : Object} {m : Misuse} (h : (ofKnown o).custom.fields = .error m) :
    ofObject o = if unshadowed o = [] then .ok (ofKnown o) else .error m := by
  rw [ofObject_eq]
  by_cases hnil : unshadowed o = []
  · rw [if_pos hnil, if_pos (List.isEmpty_iff.mpr hnil)]
  · rw [if_neg hnil, if_neg (fun e => hnil (List.isEmpty_iff.mp e)), h]
    rfl

/-- The entries under a name: what is no setting goes before what `custom` holds. -/
theorem find?_entries (o entries : Object) (ho : o.names.Nodup) (name : String) :
    (entries.merge (unshadowed o)).find? name =
      if name ∈ fieldNames then entries.find? name else (o.find? name).or (entries.find? name) := by
  rw [Object.find?_merge _ (nodup_unshadowed ho), find?_unshadowed]
  split <;> rfl

theorem nodup_defaults (language : String) : (defaults language).names.Nodup := by
  unfold defaults
  split <;> decide

theorem find?_defaults (language : String) {name : String} (h : name ∉ fieldNames) : (defaults language).find? name = none := by
  refine Object.find?_eq_none.mpr fun hm => h ?_
  unfold defaults at hm
  split at hm
  · exact List.mem_of_mem_dropLast hm
  · cases hm

/-- The three settings are what the names stand for, or what they are by default. -/
def Follows (s : Settings) (m : String → Option Json) : Prop :=
  s.indent = (m "indent").getD (.text "\t") ∧ s.lineEnding = (m "line_ending").getD (.text "\n") ∧
    s.comment = (m "auto_generation_comment").getD (.text "// Auto-generated code")

end Settings

/-- Null, a truth value or a number: no value to take entries from. -/
def Json.isSimple : Json → Bool
  | .null | .bool _ | .int _ | .real _ => true
  | _ => false

theorem Json.fields_simple {v : Json} (h : v.isSimple = true) : v.fields = .error (.notIterable v.kindName) := by
  cases v with
  | text | list | object => cases h
  | null | bool | int | real => rfl

namespace Settings

open Files

section Loaded

variable {files : Tree} {file : Option String} {fields : Object} (hf : Brings files file fields) {overrides : Option Object}
  (ho : (overrides.getD []).names.Nodup) (language : String)

include hf ho

theorem follows_layers (custom : Json) :
    Follows { ofKnown (layers language fields (overrides.getD [])) with custom }
    (layered language fields (overrides.getD [])) := by
  simp only [Follows, ofKnown, find?_layers language hf.nodup ho, and_self]

/-- Entries under `custom` are kept, and over them stands what is no setting. -/
theorem load_entries {own : Object}
    (h : (layered language fields (overrides.getD []) "custom").getD (.object []) = .object own) :
    ∃ (s : Settings) (entries : Object), load files language (passed overrides) file = .ok s ∧ s.custom = .object entries ∧
      Follows s (layered language fields (overrides.getD [])) ∧
      ∀ x, entries.find? x =
        if x ∈ fieldNames then own.find? x else (layered language fields (overrides.getD []) x).or (own.find? x) := by
  have hcustom : (ofKnown (layers language fields (overrides.getD []))).custom = .object own := by
    change ((layers language fields (overrides.getD [])).find? "custom").getD (.object []) = _
    rw [find?_layers language hf.nodup ho, h]
  have hnodup : (layers language fields (overrides.getD [])).names.Nodup :=
    Object.nodup_merge _ (Object.nodup_merge _ (nodup_defaults language))
  have hload := load_layers hf language overrides
  rw [ofObject_object hcustom] at hload
  refine ⟨_, _, hload, rfl, follows_layers hf ho language _, fun x => ?_⟩
  rw [find?_entries _ _ hnodup, find?_layers language hf.nodup ho]

theorem load_simple {v : Json} (h : layered language fields (overrides.getD []) "custom" = some v) (hv : v.isSimple = true) :
    ((∃ x, (layered language fields (overrides.getD []) x).isSome = true ∧ x ∉ fieldNames) →
        load files language (passed overrides) file = .error (.misuse (.notIterable v.kindName))) ∧
      ((¬ ∃ x, (layered language fields (overrides.getD []) x).isSome = true ∧ x ∉ fieldNames) →
        ∃ s, load files language (passed overrides) file = .ok s ∧ s.custom = v ∧
          Follows s (layered language fields (overrides.getD []))) := by
  have hcustom : (ofKnown (layers language fields (overrides.getD []))).custom = v := by
    change ((layers language fields (overrides.getD [])).find? "custom").getD (.object []) = _
    rw [find?_layers language hf.nodup ho, h]
    rfl
  have hrefused := ofObject_refused (hcustom ▸ Json.fields_simple hv)
  have hnil := @unshadowed_eq_nil (layers language fields (overrides.getD []))
  simp only [find?_layers language hf.nodup ho] at hnil
  rw [load_layers hf, hrefused]
  refine ⟨fun hx => ?_, fun hx => ⟨_, ?_, hcustom, follows_layers hf ho language _⟩⟩
  · rw [if_neg fun e => hnil.mp e hx, hcustom]
    rfl
  · rw [if_pos (hnil.mpr hx)]
    rfl

end Loaded

/-- Under each name the overrides go before the file and the file before the defaults. What is no setting is an entry, over
    the entries that stand under `custom`; where these are no entries at all, there must be nothing that is no setting. -/
theorem merged_by_one_precedence {files : Tree} {file : Option String} {fields : Object} (hf : Brings files file fields)
    (overrides : Option Object) (ho : (overrides.getD []).names.Nodup) (language : String) :
    let merged := layered language fields (overrides.getD [])
    let loaded := load files language (passed overrides) file
    (∀ own : Object, (merged "custom").getD (.object []) = .object own →
      ∃ (s : Settings) (entries : Object), loaded = .ok s ∧ s.custom = .object entries ∧ s.Follows merged ∧
        (∀ x, x ∈ entries.names ↔ (merged x).isSome = true ∧ x ∉ fieldNames ∨ x ∈ own.names) ∧
        ∀ x, entries.find? x = if x ∈ fieldNames then own.find? x else (merged x).or (own.find? x)) ∧
    (∀ own : Object, (overrides.getD []).find? "custom" = some (.object own) →
      ∃ (s : Settings) (entries : Object), loaded = .ok s ∧ s.custom = .object entries ∧
        (∀ x ∈ fields.names, x ∉ fieldNames → entries.find? x = ((overrides.getD []).find? x).or (fields.find? x)) ∧
        ∀ x ∈ entries.names, x ∈ own.names ∨ x ∉ fieldNames ∧ (x ∈ fields.names ∨ x ∈ (overrides.getD []).names)) ∧
    loaded = load files language (.object (fields.merge (overrides.getD []))) none ∧
    ∀ v, merged "custom" = some v → v.isSimple = true →
      ((∃ x, (merged x).isSome = true ∧ x ∉ fieldNames) → loaded = .error (.misuse (.notIterable v.kindName))) ∧
      ((¬ ∃ x, (merged x).isSome = true ∧ x ∉ fieldNames) → ∃ s, loaded = .ok s ∧ s.custom = v ∧ s.Follows merged) := by
  intro merged loaded
  refine ⟨fun own hown => ?_, fun own hown => ?_, load_joined hf overrides language, fun v hv hsimple =>
    load_simple hf ho language hv hsimple⟩
  · obtain ⟨s, entries, hload, hcustom, hfollows, hfind⟩ := load_entries hf ho language hown
    refine ⟨s, entries, hload, hcustom, hfollows, fun x => ?_, hfind⟩
    rw [← Object.isSome_find?, ← Object.isSome_find?, hfind x]
    by_cases hx : x ∈ fieldNames
    · simp [hx]
    · simp [hx, merged]
  · have hmerged : (merged "custom").getD (.object []) = .object own := by simp [merged, layered, hown]
    obtain ⟨s, entries, hload, hcustom, -, hfind⟩ := load_entries hf ho language hmerged
    have hlower : ∀ x, x ∉ fieldNames → merged x = ((overrides.getD []).find? x).or (fields.find? x) := by
      intro x hx
      simp [merged, layered, find?_defaults language hx]
    refine ⟨s, entries, hload, hcustom, fun x hx hfield => ?_, fun x hx => ?_⟩
    · obtain ⟨v, hv⟩ := Option.isSome_iff_exists.mp (Object.isSome_find?.mpr hx)
      have hx' := hfind x
      rw [if_neg hfield] at hx'
      rw [hx']
      change (merged x).or _ = _
      rw [hlower x hfield, hv]
      cases (overrides.getD []).find? x <;> rfl
    · have hsome := Object.isSome_find?.mpr hx
      rw [hfind x] at hsome
      by_cases hfield : x ∈ fieldNames
      · rw [if_pos hfield] at hsome
        exact .inl (Object.isSome_find?.mp hsome)
      · rw [if_neg hfield] at hsome
        change ((merged x).or _).isSome = true at hsome
        rw [hlower x hfield, Option.isSome_or, Option.isSome_or, Bool.or_eq_true, Bool.or_eq_true, Object.isSome_find?,
          Object.isSome_find?, Object.isSome_find?] at hsome
        rcases hsome with (hover | hfile) | hown
        · exact .inr ⟨hfield, .inr hover⟩
        · exact .inr ⟨hfield, .inl hfile⟩
        · exact .inl hown

/-- A file with a `custom` object and a name that is no setting: overrides with a `custom` object hide the one, not the other. -/
theorem custom_object_is_hidden_as_a_whole :
    ∃ files fields, Brings files (some "site.json") fields ∧ fields.find? "custom" = some (.object [("a", .int 1)]) ∧
      ∃ (s : Settings) (entries : Object),
        load files "csharp" (passed (some [("custom", .object [("b", .int 2)])])) (some "site.json") = .ok s ∧
          s.custom = .object entries ∧ entries.find? "a" = none ∧ entries.find? "b" = some (.int 2) ∧
          entries.find? "note" = some (.text "kept") := by
  have hplain : Json.Plain (.object [("custom", .object [("a", .int 1)]), ("note", .text "kept")]) := by
    refine .object (by decide) fun f hf => ?_
    simp only [List.mem_cons, List.not_mem_nil, or_false] at hf
    rcases hf with rfl | rfl
    · refine .object (by decide) fun f hf => ?_
      obtain rfl := List.mem_singleton.mp hf
      exact .int _
    · exact .text _
  have hw : Tree.empty.Writable (.ofString "site.json") := ⟨["site.json"], by cbv, by decide +kernel⟩
  have hjson : (Path.ofString "site.json").isJson = true := by decide +kernel
  obtain ⟨files, -, hread⟩ := readFile_save (sample_holds hplain) hjson (by decide +kernel) hw
  have hbrings : Brings files (some "site.json") _ := hread
  obtain ⟨s, entries, hload, hcustom, -, -, hfind⟩ := (merged_by_one_precedence hbrings
    (some [("custom", .object [("b", .int 2)])]) (by decide) "csharp").1 [("b", .int 2)] rfl
  exact ⟨files, _, hbrings, rfl, s, entries, hload, hcustom, (hfind "a").trans rfl, (hfind "b").trans rfl,
    (hfind "note").trans rfl⟩

end Settings

end Typewright
