import Typewright.Json.Misuse

/-!
Fields of objects under writing and merging.

An object is a list of fields in the order in which their names first came. Writing a field changes it in its place or
appends it, and merging writes the fields of one object into another, in order. What settings come to under layers of
overrides, and what comes back from a file, hangs on the laws of the two.
- Which names there are (`names_insert`, `nodup_merge`), and what is found under them (`find?_merge`): the later value,
  where there are two.
- What stays under a choice of names (`filterNames_merge`), so that known fields and custom entries can be told apart before
  or after a merge.
- A merge of new names appends (`merge_new`); a merge of the same fields changes nothing (`insert_same`).
- It does not matter which of three objects are merged first (`merge_merge`), down to the order of the fields.

No value is one of the fields it stands for (`Json.field_ne`), however a value is read as fields: a value is larger than
what is in it. So settings whose custom entries are replaced by one of them are not what they were.
-/

namespace Typewright

namespace Object

theorem find?_eq_none {o : Object} {name : String} : o.find? name = none ↔ name ∉ o.names := by
  rw [find?, List.lookup_eq_none_iff, names]
  simp only [List.mem_map, not_exists, not_and, bne_iff_ne]
  exact ⟨fun h f hf e => h f hf e.symm, fun h f hf e => h f hf e.symm⟩

theorem mem_of_find? {o : Object} {name : String} {v : Json} (h : o.find? name = some v) : (name, v) ∈ o := by
  obtain ⟨before, after, rfl, -⟩ := List.lookup_eq_some_iff.mp h
  simp

theorem isSome_find? {o : Object} {name : String} : (o.find? name).isSome = true ↔ name ∈ o.names := by
  rw [Option.isSome_iff_ne_none, ne_eq, find?_eq_none, Decidable.not_not]

/-! ## One field -/

theorem names_insert (o : Object) (name : String) (v : Json) :
    (o.insert name v).names = if name ∈ o.names then o.names else o.names ++ [name] := by
  induction o with
  | nil => simp [insert, names]
  | cons f o ih =>
    obtain ⟨n, old⟩ := f
    by_cases hn : n = name
    · simp [insert, names, hn]
    · have ih' : List.map (·.1) (insert o name v) = if name ∈ List.map (·.1) o then List.map (·.1) o
          else List.map (·.1) o ++ [name] := ih
      by_cases hm : name ∈ List.map (·.1) o
      · simp [insert, names, hn, ih', hm]
      · simp [insert, names, hn, ih', hm, Ne.symm hn]

theorem mem_insert {o : Object} {name : String} {v : Json} {f : String × Json} (h : f ∈ o.insert name v) :
    f ∈ o ∨ f.2 = v := by
  induction o with
  | nil => simp_all [insert]
  | cons g o ih =>
    obtain ⟨n, old⟩ := g
    rw [insert] at h
    split at h
    · rcases List.mem_cons.mp h with rfl | h
      · exact .inr rfl
      · exact .inl (List.mem_cons_of_mem _ h)
    · rcases List.mem_cons.mp h with rfl | h
      · exact .inl List.mem_cons_self
      · exact (ih h).imp_left (List.mem_cons_of_mem _)

/-- A name that is new goes behind the others. -/
theorem insert_new {o : Object} {name : String} (h : name ∉ o.names) (v : Json) : o.insert name v = o ++ [(name, v)] := by
  induction o with
  | nil => rfl
  | cons f o ih =>
    obtain ⟨n, old⟩ := f
    simp only [names, List.map_cons, List.mem_cons, not_or] at h
    have hn : (n == name) = false := by simpa using fun e => h.1 e.symm
    rw [insert, hn, if_neg (by simp), ih h.2]
    rfl

theorem filterNames_insert (o : Object) (name : String) (v : Json) (p : String → Bool) :
    (o.insert name v).filterNames p = if p name then (o.filterNames p).insert name v else o.filterNames p := by
  induction o with
  | nil => cases h : p name <;> simp [insert, filterNames, h]
  | cons f o ih =>
    obtain ⟨n, old⟩ := f
    by_cases hn : n = name
    · subst hn
      cases h : p n <;> simp [insert, filterNames, h]
    · have ih' : List.filter (fun f => p f.1) (insert o name v) =
          if p name then insert (List.filter (fun f => p f.1) o) name v else List.filter (fun f => p f.1) o := ih
      cases h : p name <;> cases h' : p n <;> simp [insert, filterNames, hn, ih', h, h']

theorem find?_filterNames (o : Object) (p : String → Bool) (name : String) :
    (o.filterNames p).find? name = if p name then o.find? name else none := by
  induction o with
  | nil => simp [filterNames, find?]
  | cons f o ih =>
    obtain ⟨n, v⟩ := f
    have ih' : List.lookup name (o.filter fun f => p f.1) = if p name then List.lookup name o else none := ih
    by_cases hn : name = n
    · subst hn
      cases h : p name <;> simp [filterNames, find?, h, ih']
    · have hne : (name == n) = false := by simpa using hn
      cases h : p n <;> simp [filterNames, find?, h, ih', List.lookup_cons, hne]

/-- Of two values under one name the second stays. -/
theorem insert_same (o : Object) (name : String) (v w : Json) : (o.insert name v).insert name w = o.insert name w := by
  induction o with
  | nil => simp [insert]
  | cons f o ih =>
    obtain ⟨n, old⟩ := f
    by_cases hn : n = name
    · simp [insert, hn]
    · simp [insert, hn, ih]

/-- A name that is known keeps its place, so it does not matter whether another one is written before it. -/
theorem insert_comm {o : Object} {name other : String} (h : name ∈ o.names) (hne : name ≠ other) (v w : Json) :
    (o.insert other w).insert name v = (o.insert name v).insert other w := by
  induction o with
  | nil => cases h
  | cons f o ih =>
    obtain ⟨n, old⟩ := f
    by_cases hn : n = name
    · subst hn
      simp [insert, hne]
    · have hrest : name ∈ names o := by
        rcases List.mem_cons.mp h with e | hm
        · exact absurd e.symm hn
        · exact hm
      by_cases ho : n = other
      · simp [insert, ho, Ne.symm hne]
      · simp [insert, hn, ho, ih hrest]

/-! ## Merging -/

theorem merge_cons (o : Object) (f : String × Json) (rest : Object) :
    o.merge (f :: rest) = (o.insert f.1 f.2).merge rest := rfl

theorem nodup_merge {o : Object} (more : Object) (h : o.names.Nodup) : (o.merge more).names.Nodup := by
  induction more generalizing o with
  | nil => exact h
  | cons f rest ih =>
    rw [merge_cons]
    apply ih
    rw [names_insert]
    split
    · exact h
    · rename_i hm
      refine List.nodup_append.mpr ⟨h, by simp, ?_⟩
      rintro a ha b hb rfl
      rw [List.mem_singleton] at hb
      exact hm (hb ▸ ha)

theorem mem_merge {o more : Object} {f : String × Json} (h : f ∈ o.merge more) :
    (∃ g ∈ o, f.2 = g.2) ∨ ∃ g ∈ more, f.2 = g.2 := by
  induction more generalizing o with
  | nil => exact .inl ⟨f, h, rfl⟩
  | cons g rest ih =>
    rcases ih h with ⟨k, hk, e⟩ | ⟨k, hk, e⟩
    · rcases mem_insert hk with hk | hk
      · exact .inl ⟨k, hk, e⟩
      · exact .inr ⟨g, List.mem_cons_self, e.trans hk⟩
    · exact .inr ⟨k, List.mem_cons_of_mem _ hk, e⟩

/-- What the second object has stands, and else what the first has. -/
theorem find?_merge (o : Object) {more : Object} (h : more.names.Nodup) (name : String) :
    (o.merge more).find? name = (more.find? name).or (o.find? name) := by
  induction more generalizing o with
  | nil => rfl
  | cons f rest ih =>
    obtain ⟨n, v⟩ := f
    obtain ⟨hn, hrest⟩ := List.nodup_cons.mp h
    rw [merge_cons, ih _ hrest]
    by_cases hname : name = n
    · subst hname
      rw [find?_eq_none.mpr hn, find?_insert_same]
      simp [find?]
    · rw [find?_insert_other _ _ _ _ hname]
      have hne : (name == n) = false := by simpa using hname
      simp [find?, List.lookup_cons, hne]

theorem filterNames_merge (o more : Object) (p : String → Bool) :
    (o.merge more).filterNames p = (o.filterNames p).merge (more.filterNames p) := by
  induction more generalizing o with
  | nil => rfl
  | cons f rest ih =>
    rw [merge_cons, ih, filterNames_insert]
    by_cases h : p f.1 = true
    · simp [filterNames, h, merge_cons]
    · simp [filterNames, h]

theorem merge_new {o more : Object} (h : (o ++ more).names.Nodup) : o.merge more = o ++ more := by
  induction more generalizing o with
  | nil => simp [merge]
  | cons f rest ih =>
    have hnew : f.1 ∉ o.names := by
      simp only [names, List.map_append, List.map_cons] at h
      exact fun hm => (List.nodup_append.mp h).2.2 f.1 hm f.1 (by simp) rfl
    have hgrow : o ++ f :: rest = (o ++ [f]) ++ rest := by simp
    rw [merge_cons, insert_new hnew, ih (hgrow ▸ h), hgrow]

/-- A known name that is not among the fields to come may as well be written after them. -/
theorem merge_insert_known {o rest : Object} {name : String} (hknown : name ∈ o.names) (hrest : name ∉ rest.names)
    (v : Json) : (o.insert name v).merge rest = (o.merge rest).insert name v := by
  induction rest generalizing o with
  | nil => rfl
  | cons f rest ih =>
    have hne : name ≠ f.1 := fun e => hrest (e ▸ List.mem_cons_self)
    have hstill : name ∈ (o.insert f.1 f.2).names := by
      rw [names_insert]
      split
      · exact hknown
      · exact List.mem_append_left _ hknown
    rw [merge_cons, merge_cons, ← insert_comm hknown hne, ih hstill fun hm => hrest (List.mem_cons_of_mem _ hm)]

/-- A field may be written before a merge or after it. -/
theorem merge_insert (o : Object) {more : Object} (h : more.names.Nodup) (name : String) (v : Json) :
    o.merge (more.insert name v) = (o.merge more).insert name v := by
  induction more generalizing o with
  | nil => rfl
  | cons f rest ih =>
    obtain ⟨n, old⟩ := f
    obtain ⟨hn, hrest⟩ := List.nodup_cons.mp h
    by_cases he : n = name
    · subst he
      have hknown : n ∈ (o.insert n old).names := by
        rw [names_insert]
        split
        · assumption
        · exact List.mem_append_right _ (List.mem_singleton.mpr rfl)
      rw [insert, if_pos (by simp), merge_cons, merge_cons, ← merge_insert_known hknown hn, insert_same]
    · rw [insert, if_neg (by simpa using he), merge_cons, merge_cons, ih _ hrest]

/-- Merging two objects into a third one after the other, or the two together. -/
theorem merge_merge (o : Object) {first : Object} (h : first.names.Nodup) (second : Object) :
    (o.merge first).merge second = o.merge (first.merge second) := by
  induction second generalizing first with
  | nil => rfl
  | cons f rest ih =>
    have hnodup : (first.insert f.1 f.2).names.Nodup := nodup_merge [f] h
    rw [merge_cons, merge_cons, ← merge_insert o h, ih hnodup]

theorem filterNames_nodup {o : Object} (h : o.names.Nodup) (p : String → Bool) : (o.filterNames p).names.Nodup :=
  h.sublist (List.filter_sublist.map _)

end Object

/-! ## A value as fields -/

namespace Json

/-- What pairs bring into an object is a text or lies inside one of the pairs. -/
theorem insertPairs_inside {o result : Object} {index : Nat} {vs : List Json} (h : insertPairs o index vs = .ok result)
    {f : String × Json} (hf : f ∈ result) :
    f ∈ o ∨ (∃ s, f.2 = .text s) ∨ ∃ v ∈ vs, sizeOf f.2 < sizeOf v := by
  induction vs generalizing o index with
  | nil =>
    cases h
    exact .inl hf
  | cons v vs ih =>
    rw [insertPairs] at h
    split at h
    · cases h
    · rename_i key value hitems
      split at h
      · rename_i name hname
        rcases ih h with hin | htext | ⟨w, hw, hsize⟩
        · rcases Object.mem_insert hin with hin | hin
          · exact .inl hin
          -- the pair came from a list, a text or an object
          · cases v with
            | list items =>
              cases hitems
              refine .inr (.inr ⟨_, List.mem_cons_self, ?_⟩)
              rw [hin]
              simp
              omega
            | text s =>
              have hmem : value ∈ s.toList.map fun c => Json.text (String.singleton c) := by
                rw [Except.ok.inj hitems]
                simp
              obtain ⟨c, -, hc⟩ := List.mem_map.mp hmem
              exact .inr (.inl ⟨_, hin.trans hc.symm⟩)
            | object fs =>
              have hmem : value ∈ fs.map fun f => Json.text f.1 := by
                rw [Except.ok.inj hitems]
                simp
              obtain ⟨g, -, hg⟩ := List.mem_map.mp hmem
              exact .inr (.inl ⟨_, hin.trans hg.symm⟩)
            | null => cases hitems
            | bool b => cases hitems
            | int n => cases hitems
            | real x => cases hitems
        · exact .inr (.inl htext)
        · exact .inr (.inr ⟨w, List.mem_cons_of_mem _ hw, hsize⟩)
      · cases h
    · cases h

/-- No value is among the fields it stands for. -/
theorem field_ne {v w : Json} {o : Object} {name : String} (h : v.fields = .ok o) (hw : o.find? name = some w) : w ≠ v := by
  have hmem := Object.mem_of_find? hw
  rintro rfl
  cases w with
  | object fs =>
    cases h
    have := List.sizeOf_lt_of_mem hmem
    simp at this
    omega
  | list vs =>
    rcases insertPairs_inside h hmem with hin | ⟨s, hs⟩ | ⟨x, hx, hsize⟩
    · cases hin
    · cases hs
    · have := List.sizeOf_lt_of_mem hx
      simp at hsize
      omega
  | text s =>
    -- one character is never a pair
    rw [fields] at h
    cases hs : s.toList with
    | nil =>
      rw [hs] at h
      cases h
      cases hmem
    | cons c cs =>
      rw [hs, List.map_cons, insertPairs] at h
      simp [items] at h
  | null => cases h
  | bool b => cases h
  | int n => cases h
  | real x => cases h

end Json

end Typewright
