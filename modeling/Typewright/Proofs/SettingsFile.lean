import Mathlib
import Typewright.Proofs.FileChanges
import Typewright.Proofs.JsonText
import Typewright.Proofs.Objects
import Typewright.Settings.Store

/-!
Settings through a file.

Settings are saved as one flat object, with the custom entries beside the fields, and are loaded by their names. Between the
two stand a text and a tree of files.
- A file that can be written (`Writable`) is found again where it was written (`look_write`): through directories that are
  there, to a place where no directory stands.
- The flat object is read back field by field (`readFile_save`), since settings of plain values are written as text that is
  read as it was.
- Loading takes the custom entries apart again (`resolve_flat`). An entry under the name of a field was written over that
  field, and one under `custom` is taken for all of the entries, which is never what it was inside of.

So the way there and back is the identity exactly where no entry has such a name; each of the four does harm in its own way,
and the converse goes through them (`unshadowed_of_resolve`).

Proved, for every path with the suffix and every language: `reloads_iff_unshadowed`. That the settings can be saved at all
is part of it. `nested_entry_reloads_custom_entry_does_not` has an entry with an object deeper in it, and one that is called
`custom`.
-/

namespace Typewright

/-! ## The file -/

namespace Files.Tree

/-- The path leads through directories to a place where no directory stands. -/
def Writable (t : Tree) (p : Path) : Prop := ∃ place, t.locate p = .ok place ∧ t.entry? place ≠ some .directory

/-- These are the paths that a file can be written to, whatever it is to hold. -/
theorem writable_iff (t : Tree) (p : Path) (c : Content) : t.Writable p ↔ ∃ t', t.write p c = .ok t' := by
  constructor
  · rintro ⟨place, hplace, hentry⟩
    exact ⟨_, write_eq_ok.mpr ⟨place, hplace, hentry, rfl⟩⟩
  · rintro ⟨t', h⟩
    obtain ⟨place, hplace, hentry, -⟩ := write_eq_ok.mp h
    exact ⟨place, hplace, hentry⟩

/-- What is written is what stands there afterwards. -/
theorem look_write {t : Tree} {p : Path} (h : t.Writable p) (c : Content) :
    ∃ t' stamp, t.write p c = .ok t' ∧ t'.look p = .ok (.file c stamp) := by
  obtain ⟨t', hwrite⟩ := (t.writable_iff p c).mp h
  obtain ⟨place, hplace, hentry, ht'⟩ := write_eq_ok.mp hwrite
  have hfound : t'.entry? place = some (.file c (t.clock + 1)) := by
    subst ht'
    exact (t.entry?_put (place_ne_nil hentry) _ place).trans (if_pos rfl)
  refine ⟨t', t.clock + 1, hwrite, ?_⟩
  rw [look, (later_write hwrite).locate hplace]
  simp only [hfound]

end Files.Tree

namespace Settings

open Files

/-! ## The flat object -/

def plainFields (s : Settings) : Object :=
  [("indent", s.indent), ("line_ending", s.lineEnding), ("auto_generation_comment", s.comment)]

structure Holds (s : Settings) (entries : Object) : Prop where
  indent : Json.Plain s.indent
  lineEnding : Json.Plain s.lineEnding
  comment : Json.Plain s.comment
  custom : s.custom = .object entries
  entries : Json.Plain (.object entries)

theorem Holds.nodup {s : Settings} {entries : Object} (h : s.Holds entries) : entries.names.Nodup := by
  cases h.entries with
  | object hnames _ => exact hnames

theorem Holds.flat {s : Settings} {entries : Object} (h : s.Holds entries) : s.flat = .ok (s.plainFields.merge entries) := by
  rw [Settings.flat, h.custom]
  rfl

theorem nodup_flat (s : Settings) (entries : Object) : (s.plainFields.merge entries).names.Nodup :=
  Object.nodup_merge entries (by simp [plainFields, Object.names])

theorem Holds.plain_flat {s : Settings} {entries : Object} (h : s.Holds entries) :
    Json.Plain (.object (s.plainFields.merge entries)) := by
  refine .object (nodup_flat s entries) fun f hf => ?_
  rcases Object.mem_merge hf with ⟨g, hg, e⟩ | ⟨g, hg, e⟩
  · rw [e]
    simp only [plainFields, List.mem_cons, List.not_mem_nil, or_false] at hg
    rcases hg with rfl | rfl | rfl
    · exact h.indent
    · exact h.lineEnding
    · exact h.comment
  · rw [e]
    cases h.entries with
    | object _ hvalues => exact hvalues g hg

/-- The saved file holds the flat object. -/
theorem readFile_save {s : Settings} {entries : Object} (h : s.Holds entries) {files : Tree} {path : String}
    (hjson : (Path.ofString path).isJson = true) (hnul : '\x00' ∉ (Path.ofString path).text.toList)
    (hw : files.Writable (.ofString path)) :
    ∃ files', save files s path = .ok files' ∧
      readFile files' (.ofString path) = .ok (s.plainFields.merge entries) := by
  have hnul' : (Path.ofString path).text.toList.contains '\x00' = false := by simpa using hnul
  let text := (Json.object (s.plainFields.merge entries)).pretty
  obtain ⟨files', stamp, hwrite, hlook⟩ := Tree.look_write hw (.text text)
  have hcontent : readContent (.ofString path) (.text text) = .ok (s.plainFields.merge entries) := by
    have hread : Content.read (.text text) = .ok text := by
      rw [Content.read, Text.unifyLineEnds_eq_self text.toList (Json.prettyAt_no_return h.plain_flat 0), String.ofList_toList]
    simp only [readContent, hread, text, Json.read_pretty h.plain_flat]
  refine ⟨files', ?_, ?_⟩
  · rw [save, fileText, h.flat]
    simp only [Except.map, hnul', Bool.false_eq_true, if_false, hwrite, text]
  · simp only [readFile, isThere, hnul', Bool.false_eq_true, if_false, hlook, hjson, Bool.not_true, hcontent]

/-! ## Taking the flat object apart -/

/-- The custom entries that have the name of no field. -/
def unshadowed (entries : Object) : Object := entries.filterNames fun n => !isFieldName n

theorem unshadowed_eq_self {entries : Object} (h : ∀ name ∈ entries.names, isFieldName name = false) :
    unshadowed entries = entries := by
  refine List.filter_eq_self.mpr fun f hf => ?_
  simp [h f.1 (List.mem_map_of_mem hf)]

theorem extras_flat {s : Settings} {entries : Object} (h : entries.names.Nodup) (language : String) :
    ((defaults language).merge (s.plainFields.merge entries)).filterNames (fun n => !isFieldName n) =
      unshadowed entries := by
  have hdefaults : (defaults language).filterNames (fun n => !isFieldName n) = [] := by
    unfold defaults
    split <;> rfl
  have hplain : s.plainFields.filterNames (fun n => !isFieldName n) = [] := rfl
  have hnodup : (unshadowed entries).names.Nodup := Object.filterNames_nodup h _
  rw [Object.filterNames_merge, Object.filterNames_merge, hdefaults, hplain]
  change Object.merge [] (Object.merge [] (unshadowed entries)) = _
  have hself : Object.merge [] (unshadowed entries) = unshadowed entries := Object.merge_new hnodup
  rw [hself, hself]

/-- The fields of the loaded settings: what a custom entry wrote over, and else what was saved. -/
def known (s : Settings) (entries : Object) : Settings where
  indent := (entries.find? "indent").getD s.indent
  lineEnding := (entries.find? "line_ending").getD s.lineEnding
  comment := (entries.find? "auto_generation_comment").getD s.comment
  custom := (entries.find? "custom").getD (.object [])

theorem ofKnown_flat (s : Settings) {entries : Object} (h : entries.names.Nodup) (language : String) :
    ofKnown ((defaults language).merge (s.plainFields.merge entries)) = s.known entries := by
  have hfind : ∀ name, ((defaults language).merge (s.plainFields.merge entries)).find? name =
      ((entries.find? name).or (s.plainFields.find? name)).or ((defaults language).find? name) := by
    intro name
    rw [Object.find?_merge _ (nodup_flat s entries), Object.find?_merge _ h]
  have hcustom : (defaults language).find? "custom" = none := by
    unfold defaults
    split <;> rfl
  simp only [ofKnown, hfind, hcustom, known]
  congr 1
  · cases entries.find? "indent" <;> rfl
  · cases entries.find? "line_ending" <;> rfl
  · cases entries.find? "auto_generation_comment" <;> rfl
  · cases entries.find? "custom" <;> rfl

theorem resolve_flat (s : Settings) {entries : Object} (h : entries.names.Nodup) (language : String) :
    resolve language (s.plainFields.merge entries) .null =
      if (unshadowed entries).isEmpty then .ok (s.known entries)
      else (s.known entries).custom.fields.map fun own =>
        { s.known entries with custom := .object (own.merge (unshadowed entries)) } := by
  simp only [resolve, override, Json.truth, Bool.false_eq_true, if_false, ofObject, extras_flat h, ofKnown_flat s h]

theorem load_save {s : Settings} {entries : Object} (h : s.Holds entries) {files : Tree} {path : String}
    (hjson : (Path.ofString path).isJson = true) (hnul : '\x00' ∉ (Path.ofString path).text.toList)
    (hw : files.Writable (.ofString path)) :
    ∃ files', save files s path = .ok files' ∧ ∀ language, load files' language .null (some path) =
      (resolve language (s.plainFields.merge entries) .null).mapError .misuse := by
  obtain ⟨files', hsave, hread⟩ := readFile_save h hjson hnul hw
  have hpath : path.isEmpty = false := by
    cases he : path.isEmpty
    · rfl
    · rw [String.isEmpty_iff.mp he] at hjson
      exact absurd hjson (by decide +kernel)
  refine ⟨files', hsave, fun language => ?_⟩
  simp only [load, hpath, Bool.false_eq_true, if_false, hread]

/-! ## Which settings come back -/

theorem known_of_unshadowed {s : Settings} {entries : Object} (h : ∀ name ∈ entries.names, isFieldName name = false) :
    s.known entries = { s with custom := .object [] } := by
  have hnone : ∀ name, isFieldName name = true → entries.find? name = none := by
    intro name hname
    refine Object.find?_eq_none.mpr fun hm => ?_
    rw [h name hm] at hname
    cases hname
  simp [known, hnone "indent" rfl, hnone "line_ending" rfl, hnone "auto_generation_comment" rfl, hnone "custom" rfl]

theorem resolve_of_unshadowed {s : Settings} {entries : Object} (hs : s.Holds entries)
    (h : ∀ name ∈ entries.names, isFieldName name = false) (language : String) :
    resolve language (s.plainFields.merge entries) .null = .ok s := by
  rw [resolve_flat s hs.nodup, unshadowed_eq_self h, known_of_unshadowed h]
  have hback : s = { s with custom := .object entries } := by rw [← hs.custom]
  split
  · rename_i hempty
    rw [List.isEmpty_iff.mp hempty] at hback
    rw [← hback]
  · have hmerge : Object.merge [] entries = entries := Object.merge_new hs.nodup
    simp only [Json.fields, Except.map, hmerge]
    rw [← hback]

/-- If the settings come back, the entries are those of the field `custom`, and over them those that shadow nothing. -/
theorem entries_of_resolve {s : Settings} {entries : Object} (hs : s.Holds entries) {language : String}
    (h : resolve language (s.plainFields.merge entries) .null = .ok s) :
    ∃ own, (s.known entries).custom.fields = .ok own ∧ entries = own.merge (unshadowed entries) := by
  rw [resolve_flat s hs.nodup] at h
  split at h
  · rename_i hempty
    have hcustom : (s.known entries).custom = .object entries := by rw [Except.ok.inj h, hs.custom]
    refine ⟨entries, by rw [hcustom]; rfl, ?_⟩
    rw [List.isEmpty_iff.mp hempty]
    rfl
  · cases hown : (s.known entries).custom.fields with
    | error m =>
      rw [hown] at h
      cases h
    | ok own =>
      rw [hown] at h
      have hcustom := congrArg Settings.custom (Except.ok.inj h)
      rw [hs.custom] at hcustom
      exact ⟨own, rfl, (Json.object.inj hcustom).symm⟩

theorem unshadowed_of_resolve {s : Settings} {entries : Object} (hs : s.Holds entries) {language : String}
    (h : resolve language (s.plainFields.merge entries) .null = .ok s) :
    ∀ name ∈ entries.names, isFieldName name = false := by
  obtain ⟨own, hown, hentries⟩ := entries_of_resolve hs h
  have hnodup : (unshadowed entries).names.Nodup := Object.filterNames_nodup hs.nodup _
  cases hcustom : entries.find? "custom" with
  | some v =>
    -- the entry `custom` would hold itself
    have hv : (s.known entries).custom = v := by rw [known, hcustom]; rfl
    have hnone : (unshadowed entries).find? "custom" = none := by
      refine Object.find?_eq_none.mpr fun hm => ?_
      obtain ⟨f, hf, e⟩ := List.mem_map.mp hm
      have hname := (List.mem_filter.mp hf).2
      rw [e] at hname
      exact absurd hname (by decide)
    have hself : own.find? "custom" = some v := by
      rw [hentries, Object.find?_merge _ hnodup, hnone] at hcustom
      exact hcustom
    rw [hv] at hown
    exact absurd rfl (Json.field_ne hown hself)
  | none =>
    have hempty : own = [] := by
      rw [known, hcustom] at hown
      exact (Except.ok.inj hown).symm
    rw [hempty, show Object.merge [] (unshadowed entries) = unshadowed entries from Object.merge_new hnodup] at hentries
    intro name hname
    rw [hentries] at hname
    obtain ⟨f, hf, rfl⟩ := List.mem_map.mp hname
    simpa using (List.mem_filter.mp hf).2

/-- Saved settings are loaded as they were exactly when no custom entry has the name of a field. -/
theorem reloads_iff_unshadowed {s : Settings} {entries : Object} (hs : s.Holds entries) {files : Tree} {path : String}
    (hjson : (Path.ofString path).isJson = true) (hnul : '\x00' ∉ (Path.ofString path).text.toList)
    (hw : files.Writable (.ofString path)) :
    ∃ files', save files s path = .ok files' ∧ ∀ language,
      (load files' language .null (some path) = .ok s ↔
        ∀ name ∈ entries.names, name ∉ ["indent", "line_ending", "auto_generation_comment", "custom"]) := by
  obtain ⟨files', hsave, hload⟩ := load_save hs hjson hnul hw
  have hnames : (∀ name ∈ entries.names, name ∉ ["indent", "line_ending", "auto_generation_comment", "custom"]) ↔
      ∀ name ∈ entries.names, isFieldName name = false := by
    simp [isFieldName, fieldNames]
  refine ⟨files', hsave, fun language => ?_⟩
  rw [hload, hnames]
  constructor
  · intro h
    refine @unshadowed_of_resolve s entries hs language ?_
    cases hr : resolve language (s.plainFields.merge entries) .null with
    | error m =>
      rw [hr] at h
      cases h
    | ok loaded =>
      rw [hr] at h
      cases h
      rfl
  · intro h
    rw [resolve_of_unshadowed hs h]
    rfl

def sample (entries : Object) : Settings := { comment := .null, custom := .object entries }

theorem sample_holds {entries : Object} (h : Json.Plain (.object entries)) : (sample entries).Holds entries :=
  ⟨.text _, .text _, .null, rfl, h⟩

/-- A nested field name is no shadow and comes back; an entry `custom` does not, even when it holds no entries. -/
theorem nested_entry_reloads_custom_entry_does_not :
    (∃ files', save .empty (sample [("note", .list [.text "\"a\"\r\n", .object [("indent", .int (-12))]])]) "site.json" =
        .ok files' ∧
      load files' "csharp" .null (some "site.json") =
        .ok (sample [("note", .list [.text "\"a\"\r\n", .object [("indent", .int (-12))]])])) ∧
    ∃ files', save .empty (sample [("custom", .object [])]) "site.json" = .ok files' ∧
      load files' "csharp" .null (some "site.json") ≠ .ok (sample [("custom", .object [])]) := by
  have hw : Tree.empty.Writable (.ofString "site.json") := ⟨["site.json"], by cbv, by decide +kernel⟩
  have hnote : Json.Plain (.object [("note", .list [.text "\"a\"\r\n", .object [("indent", .int (-12))]])]) := by
    refine .object (by decide) fun f hf => ?_
    obtain rfl := List.mem_singleton.mp hf
    refine .list fun v hv => ?_
    simp only [List.mem_cons, List.not_mem_nil, or_false] at hv
    rcases hv with rfl | rfl
    · exact .text _
    · refine .object (by decide) fun f hf => ?_
      obtain rfl := List.mem_singleton.mp hf
      exact .int _
  have hcustom : Json.Plain (.object [("custom", .object [])]) := by
    refine .object (by decide) fun f hf => ?_
    obtain rfl := List.mem_singleton.mp hf
    exact .object (by decide) (by simp)
  have hjson : (Path.ofString "site.json").isJson = true := by decide +kernel
  have hnul : '\x00' ∉ (Path.ofString "site.json").text.toList := by decide +kernel
  constructor
  · obtain ⟨files', hsave, h⟩ := reloads_iff_unshadowed (sample_holds hnote) hjson hnul hw
    exact ⟨files', hsave, (h "csharp").mpr (by decide)⟩
  · obtain ⟨files', hsave, h⟩ := reloads_iff_unshadowed (sample_holds hcustom) hjson hnul hw
    exact ⟨files', hsave, fun hload => absurd ((h "csharp").mp hload) (by decide)⟩

end Settings

end Typewright
