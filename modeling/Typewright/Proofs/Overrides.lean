import Typewright.Generator
import Typewright.Proofs.Precedence

/-!
Overrides of given settings.

A generator is made from settings and overrides (`create`). The settings are the layer below: a field is replaced by the
override of its name, and what is no setting is written over the custom entries. So making a generator is merging one more
layer (`overridden_layers`), and where `custom` is an object and stays one, there is always a generator (`create_object`).
The settings themselves are an argument with a name, and an override cannot bear that name.

Two sets of overrides one after the other come to the same as both together, down to the order of the custom entries,
because the second set only writes over what the first has left (`Object.merge_merge`). This needs that the second one has
no `custom` object, which would hide the entries that the first one has added, while in the merged set those are added after
it.

Proved: `overrides_compose`, which also says when there is a generator at all, that without overrides the settings stay as
they are, and that fields and entries with no override of their name are kept. `overrides_of_named_entries` is a case with
entries that bear the names of fields, a `custom` object, and entries written over one another.
-/

namespace Typewright

namespace Settings

def under (c : Settings) (o : Object) : Settings where
  indent := (o.find? "indent").getD c.indent
  lineEnding := (o.find? "line_ending").getD c.lineEnding
  comment := (o.find? "auto_generation_comment").getD c.comment
  custom := (o.find? "custom").getD c.custom

theorem ofKnown_under (c : Settings) {o : Object} (ho : o.names.Nodup) :
    ofKnown (layers "csharp" [] (c.toObject.merge o)) = c.under o := by
  have hnodup : (c.toObject.merge o).names.Nodup := Object.nodup_merge o (by simp [toObject, Object.names])
  have hempty : (Object.names []).Nodup := List.nodup_nil
  have hfind : ∀ name, (layers "csharp" [] (c.toObject.merge o)).find? name =
      ((o.find? name).or (c.toObject.find? name)).or ((defaults "csharp").find? name) := by
    intro name
    rw [find?_layers "csharp" hempty hnodup, layered, Object.find?_merge _ ho]
    rfl
  simp only [ofKnown, hfind, under]
  congr 1
  · cases o.find? "indent" <;> rfl
  · cases o.find? "line_ending" <;> rfl
  · cases o.find? "auto_generation_comment" <;> rfl
  · cases o.find? "custom" <;> rfl

theorem unshadowed_under (c : Settings) {o : Object} (ho : o.names.Nodup) :
    unshadowed (layers "csharp" [] (c.toObject.merge o)) = unshadowed o := by
  have hself : Object.merge [] (unshadowed o) = unshadowed o := Object.merge_new (nodup_unshadowed ho)
  have hbelow : (c.toObject.merge o).filterNames (fun n => !isFieldName n) = Object.merge [] (unshadowed o) :=
    Object.filterNames_merge c.toObject o _
  rw [unshadowed, layers, Object.filterNames_merge, hbelow, hself]
  exact hself

/-- Overriding settings is merging the overrides into them, also when there are none. -/
theorem overridden_layers (c : Settings) {o : Object} (ho : o.names.Nodup) :
    overridden (some c) o = ofObject (layers "csharp" [] (c.toObject.merge o)) := by
  cases o with
  | nil =>
    rw [ofObject_eq, ofKnown_under c ho, unshadowed_under c ho]
    rfl
  | cons f rest => exact resolve_passed "csharp" [] (some (c.toObject.merge (f :: rest)))

/-- Fields are replaced, and what is no setting is written over the entries. -/
theorem overridden_object {c : Settings} {o own : Object} (ho : o.names.Nodup) (h : (c.under o).custom = .object own) :
    overridden (some c) o = .ok { c.under o with custom := .object (own.merge (unshadowed o)) } := by
  have hcustom : (ofKnown (layers "csharp" [] (c.toObject.merge o))).custom = .object own := by rw [ofKnown_under c ho, h]
  rw [overridden_layers c ho, ofObject_object hcustom, ofKnown_under c ho, unshadowed_under c ho]

/-- Whatever stands under `custom`, the three settings are replaced or kept. -/
theorem overridden_settings {c s : Settings} {o : Object} (ho : o.names.Nodup) (h : overridden (some c) o = .ok s) :
    s.indent = (c.under o).indent ∧ s.lineEnding = (c.under o).lineEnding ∧ s.comment = (c.under o).comment := by
  rw [overridden_layers c ho, ofObject_eq, ofKnown_under c ho] at h
  split at h
  · cases h
    exact ⟨rfl, rfl, rfl⟩
  · cases hown : (c.under o).custom.fields with
    | error m =>
      rw [hown] at h
      cases h
    | ok own =>
      rw [hown] at h
      cases h
      exact ⟨rfl, rfl, rfl⟩

theorem under_custom {c : Settings} {entries o : Object} (hc : c.custom = .object entries)
    (ho : ∀ v, o.find? "custom" = some v → ∃ own, v = .object own) : ∃ own : Object, (c.under o).custom = .object own := by
  cases hv : o.find? "custom" with
  | none => exact ⟨entries, by rw [under, hv]; exact hc⟩
  | some v =>
    obtain ⟨own, rfl⟩ := ho v hv
    exact ⟨own, by rw [under, hv]; rfl⟩

/-- Overrides that leave `custom` alone, after others. -/
theorem overridden_overridden {c : Settings} {first second own : Object} (h₁ : first.names.Nodup) (h₂ : second.names.Nodup)
    (hown : (c.under first).custom = .object own) (hno : "custom" ∉ second.names) :
    overridden (some { c.under first with custom := .object (own.merge (unshadowed first)) }) second =
      overridden (some c) (first.merge second) := by
  have hnone : second.find? "custom" = none := Object.find?_eq_none.mpr hno
  have hnodup : (first.merge second).names.Nodup := Object.nodup_merge second h₁
  have hfind : ∀ name, (first.merge second).find? name = (second.find? name).or (first.find? name) :=
    Object.find?_merge first h₂
  have hjoined : (c.under (first.merge second)).custom = .object own := by
    change ((first.merge second).find? "custom").getD c.custom = _
    rw [hfind, hnone]
    exact hown
  have hlater : ({ c.under first with custom := .object (own.merge (unshadowed first)) } : Settings).under second =
      { c.under (first.merge second) with custom := .object (own.merge (unshadowed first)) } := by
    simp only [under, hfind, hnone, Option.getD_none]
    congr 1
    · cases second.find? "indent" <;> rfl
    · cases second.find? "line_ending" <;> rfl
    · cases second.find? "auto_generation_comment" <;> rfl
  have hentries : (own.merge (unshadowed first)).merge (unshadowed second) = own.merge (unshadowed (first.merge second)) := by
    rw [Object.merge_merge own (nodup_unshadowed h₁)]
    exact congrArg own.merge (Object.filterNames_merge first second _).symm
  rw [overridden_object hnodup hjoined, overridden_object h₂ (congrArg Settings.custom hlater), hlater, hentries]

end Settings

namespace Generator

open Settings

theorem create_eq (c : Settings) (o : Object) :
    create (some c) o =
      if "config" ∈ o.names then .error (.repeatedArgument "create_csharp_generator" "config")
      else (overridden (some c) o).map csharp := by
  unfold create Object.has
  by_cases h : "config" ∈ o.names
  · rw [if_pos h, if_pos (Object.isSome_find?.mpr h)]
  · rw [if_neg h, if_neg (mt Object.isSome_find?.mp h)]

/-- What is created under overrides has the overridden settings. -/
theorem create_ok {c : Settings} {o : Object} {g : Generator} (h : create (some c) o = .ok g) :
    overridden (some c) o = .ok g.settings := by
  rw [create_eq] at h
  split at h
  · cases h
  · cases hs : overridden (some c) o with
    | error m =>
      rw [hs] at h
      cases h
    | ok s =>
      rw [hs] at h
      cases h
      rfl

theorem create_object {c : Settings} {entries o : Object} (hc : c.custom = .object entries) (ho : o.names.Nodup)
    (hconfig : "config" ∉ o.names) (hcustom : ∀ v, o.find? "custom" = some v → ∃ own, v = .object own) :
    ∃ g, create (some c) o = .ok g := by
  obtain ⟨own, hown⟩ := under_custom hc hcustom
  rw [create_eq, if_neg hconfig, overridden_object ho hown]
  exact ⟨_, rfl⟩

/-- Settings that the overrides do not name stay as they are. -/
theorem settings_kept {c : Settings} {o : Object} {g : Generator} (ho : o.names.Nodup) (hg : create (some c) o = .ok g)
    {name : String} (hname : name ∈ ["indent", "line_ending", "auto_generation_comment"]) (hnot : name ∉ o.names) :
    g.settings.toObject.find? name = c.toObject.find? name := by
  obtain ⟨hindent, hending, hcomment⟩ := overridden_settings ho (create_ok hg)
  have hnone : o.find? name = none := Object.find?_eq_none.mpr hnot
  simp only [List.mem_cons, List.not_mem_nil, or_false] at hname
  rcases hname with rfl | rfl | rfl
  · change some g.settings.indent = some c.indent
    rw [hindent, under, hnone]
    rfl
  · change some g.settings.lineEnding = some c.lineEnding
    rw [hending, under, hnone]
    rfl
  · change some g.settings.comment = some c.comment
    rw [hcomment, under, hnone]
    rfl

/-- Custom entries that the overrides do not name stay as they are, unless all of them are replaced. -/
theorem entries_kept {c : Settings} {entries o : Object} {g : Generator} (hc : c.custom = .object entries)
    (ho : o.names.Nodup) (hg : create (some c) o = .ok g) (hcustom : "custom" ∉ o.names) :
    ∃ kept : Object, g.settings.custom = .object kept ∧
      ∀ x v, x ∉ o.names → entries.find? x = some v → kept.find? x = some v := by
  have hown : (c.under o).custom = .object entries := by rw [under, Object.find?_eq_none.mpr hcustom, ← hc]; rfl
  have hs := create_ok hg
  rw [overridden_object ho hown] at hs
  refine ⟨entries.merge (unshadowed o), by rw [← Except.ok.inj hs], fun x v hx hv => ?_⟩
  rw [find?_entries o entries ho, Object.find?_eq_none.mpr hx, hv]
  split <;> rfl

/-- Two sets of overrides, the second without a `custom` object, come to the same one after the other and together. No
    overrides change nothing, and any overrides leave alone what they do not name. -/
theorem overrides_compose {c : Settings} {entries : Object} (hc : c.custom = .object entries) {first second : Object}
    (h₁ : first.names.Nodup) (h₂ : second.names.Nodup)
    (hcustom : ∀ v, first.find? "custom" = some v → ∃ own, v = .object own) (hno : "custom" ∉ second.names) :
    ((create (some c) first).bind fun g => (create (some g.settings) second).map settings) =
        (create (some c) (first.merge second)).map settings ∧
      ("config" ∉ first.names → "config" ∉ second.names → ∃ g, create (some c) (first.merge second) = .ok g) ∧
      (create (some c) []).map settings = .ok c ∧
      ∀ o : Object, o.names.Nodup →
        ("config" ∉ o.names → (∀ v, o.find? "custom" = some v → ∃ own, v = .object own) → ∃ g, create (some c) o = .ok g) ∧
        ∀ g, create (some c) o = .ok g →
          (∀ name ∈ ["indent", "line_ending", "auto_generation_comment"], name ∉ o.names →
            g.settings.toObject.find? name = c.toObject.find? name) ∧
          ("custom" ∉ o.names → ∃ kept : Object, g.settings.custom = .object kept ∧
            ∀ x v, x ∉ o.names → entries.find? x = some v → kept.find? x = some v) := by
  obtain ⟨own, hown⟩ := under_custom hc hcustom
  have hnames : "config" ∈ (first.merge second).names ↔ "config" ∈ second.names ∨ "config" ∈ first.names := by
    rw [← Object.isSome_find?, ← Object.isSome_find?, ← Object.isSome_find?, Object.find?_merge first h₂, Option.isSome_or,
      Bool.or_eq_true]
  have hmerged : ∀ v, (first.merge second).find? "custom" = some v → ∃ own, v = .object own := by
    rw [Object.find?_merge first h₂, Object.find?_eq_none.mpr hno]
    exact hcustom
  refine ⟨?_, ?_, rfl, ?_⟩
  · rw [create_eq, create_eq]
    by_cases hfirst : "config" ∈ first.names
    · rw [if_pos hfirst, if_pos (hnames.mpr (.inr hfirst))]
      rfl
    · rw [if_neg hfirst, overridden_object h₁ hown]
      change (create (some { c.under first with custom := _ }) second).map settings = _
      rw [create_eq, overridden_overridden h₁ h₂ hown hno]
      by_cases hsecond : "config" ∈ second.names
      · rw [if_pos hsecond, if_pos (hnames.mpr (.inl hsecond))]
      · rw [if_neg hsecond, if_neg fun h => (hnames.mp h).elim hsecond hfirst]
  · intro hfirst hsecond
    exact create_object hc (Object.nodup_merge second h₁) (fun h => (hnames.mp h).elim hsecond hfirst) hmerged
  · intro o ho
    refine ⟨create_object hc ho, fun g hg => ⟨?_, entries_kept hc ho hg⟩⟩
    intro name hname hnot
    exact settings_kept ho hg hname hnot

/-- Entries under the names of fields, a replaced `custom` object, and entries written over one another. -/
theorem overrides_of_named_entries :
    let c : Settings := { indent := .text "  ", custom := .object [("indent", .int 4), ("k", .bool true)] }
    let first : Object := [("custom", .object [("z", .int 1)]), ("k", .int 5), ("line_ending", .text "\r\n")]
    let second : Object := [("z", .int 9), ("indent", .text " "), ("y", .null)]
    ((create (some c) first).bind fun g => (create (some g.settings) second).map settings) =
        (create (some c) (first.merge second)).map settings ∧
      (create (some c) (first.merge second)).map settings =
        .ok { indent := .text " ", lineEnding := .text "\r\n",
              custom := .object [("z", .int 9), ("k", .int 5), ("y", .null)] } := by
  intro c first second
  have hfirst : first.names.Nodup := by decide
  have hsecond : second.names.Nodup := by decide
  have hcustom : ∀ v, first.find? "custom" = some v → ∃ own, v = .object own := fun v hv => ⟨_, (Option.some.inj hv).symm⟩
  exact ⟨(overrides_compose (c := c) rfl hfirst hsecond hcustom (by decide)).1, rfl⟩

end Generator

end Typewright
