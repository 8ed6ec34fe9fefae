import Typewright.Proofs.Freshness

/-!
Which text wins after a template was added.

Memory is searched before files. But it is searched only when nothing that is kept is in use, and a template that was loaded
from a file stays in use as long as that file is the same. So adding a template hides the file, unless the library keeps a
template that was loaded from it; then it does so from the moment on at which the file is written or deleted.

Where the template that is kept under a name was loaded from is `keptFrom`. What a session still has of an earlier one,
where a text was added under a name and nothing else under it since, is the invariant (`Since`): either what is kept was
loaded from where it was loaded from then, or it is the added text, and the file that was in use then is not there as it
was. One step keeps it (`Since.step`), and so does a run (`Since.run`). In each of the two cases it is known what a
rendering uses (`Since.used`).

Proved, for every history before and after the text was added: `added_text_is_used_unless_file_was_loaded`. The name renders
what was added, except that the file goes on being used while it has the stamp it was loaded under.

`added_text_is_used_after_deletion` is a case where the text comes into use late. `a_loaded_file_hides_an_added_text` is one
where it does not: asking whether a template is there is enough to load it.
-/

namespace Typewright.Template

open Files

namespace Session

def keptFrom (s : Session) (name : String) : Option Origin := (List.lookup name s.library.cache).map Loaded.origin

theorem lookup_of_keptFrom {s : Session} {name : String} {o : Origin} (h : s.keptFrom name = some o) :
    ∃ t, List.lookup name s.library.cache = some t ∧ t.origin = o := Option.map_eq_some_iff.mp h

/-- When nothing kept is in use, the file is not the one that a kept template was loaded from. -/
theorem file_changed_of_stale {s : Session} {name : String} (hc : s.library.cached? s.files name = none) {stamp : Nat}
    (hk : s.keptFrom name = some (.file stamp)) (c : Content) : s.library.file? s.files name ≠ some (c, stamp) := by
  intro hfile
  obtain ⟨t, ht, ho⟩ := lookup_of_keptFrom hk
  have hfresh : s.library.isFresh s.files name t.origin = true := by simp [ho, Library.isFresh, hfile]
  simp [Library.cached?, ht, hfresh] at hc

/-- What is kept under a name changes only when a template of that name is found anew. -/
theorem keptFrom_load (s : Session) (other name : String) :
    keptFrom { s with library := (s.library.load s.files other).1 } name = s.keptFrom name ∨
      other = name ∧ s.library.cached? s.files name = none ∧ ∃ t, s.library.find s.files name = .ok t ∧
        keptFrom { s with library := (s.library.load s.files other).1 } name = some t.origin := by
  rcases s.library.load_cases s.files other with ⟨t, -, hl⟩ | ⟨hc, ⟨f, -, hl⟩ | ⟨t, hf, hl⟩⟩
  · exact .inl (by rw [hl])
  · exact .inl (by rw [hl])
  · rw [hl]
    by_cases h : other = name
    · subst h
      exact .inr ⟨rfl, hc, t, hf, by simp [keptFrom]⟩
    · exact .inl (by rw [keptFrom, lookup_replaced, if_neg (Ne.symm h), keptFrom])

theorem origin_of_find {l : Library} {files : Tree} {name content : String} (hm : List.lookup name l.memory = some content)
    {t : Loaded} (h : l.find files name = .ok t) : t.origin = .memory content := by
  rw [Library.find_eq, Library.found?, hm] at h
  simp only at h
  cases hn : (Source.memory content).nodes with
  | error f =>
    rw [hn] at h
    cases h
  | ok nodes =>
    rw [hn] at h
    cases h
    rfl

theorem file?_congr {l l' : Library} (hd : l.directory = l'.directory) (files : Tree) (name : String) :
    l.file? files name = l'.file? files name := by
  simp only [Library.file?, hd]

/-- What a session `t` still has of `s`, where `content` was added under a name and nothing else since: either the template that
    was kept then is still kept, or one read from `content` took its place after the file had changed. -/
structure Since (s t : Session) (name content : String) : Prop where
  files : s.files.Later t.files
  directory : t.library.directory = s.library.directory
  memory : List.lookup name t.library.memory = some content
  kept : t.keptFrom name = s.keptFrom name ∨
    t.keptFrom name = some (.memory content) ∧
      ∀ c stamp, s.keptFrom name = some (.file stamp) → t.library.file? t.files name ≠ some (c, stamp)

namespace Since

variable {s t : Session} {name content : String}

theorem load (h : Since s t name content) (other : String) :
    Since s { t with library := (t.library.load t.files other).1 } name content := by
  obtain ⟨hm, hd⟩ := load_frame t.library t.files other
  have hfile : (t.library.load t.files other).1.file? t.files name = t.library.file? t.files name := file?_congr hd _ _
  refine ⟨h.files, hd.trans h.directory, hm ▸ h.memory, ?_⟩
  simp only [hfile]
  rcases t.keptFrom_load other name with hk | ⟨-, hc, found, hf, hk⟩
  · rw [hk]
    exact h.kept
  · rw [hk, origin_of_find h.memory hf]
    refine .inr ⟨rfl, fun c stamp hs => ?_⟩
    rcases h.kept with hsame | ⟨-, hchanged⟩
    · exact file_changed_of_stale hc (hsame.trans hs) c
    · exact hchanged c stamp hs

theorem change (hs : s.Coherent) (h : Since s t name content) (c : Change) :
    Since s { t with files := t.files.change c } name content := by
  have hl := t.files.later_change c
  refine ⟨h.files.trans hl, h.directory, h.memory, h.kept.imp id fun ⟨hk, hchanged⟩ => ⟨hk, fun c stamp hks hfile => ?_⟩⟩
  -- A file that now has the stamp of the one loaded before had it all the time.
  obtain ⟨loaded, hlookup, ho⟩ := lookup_of_keptFrom hks
  have hb := hs.backed hlookup
  rw [Backs, ho] at hb
  obtain ⟨hstamp, p, place, hp, hplace, -⟩ := hb
  have hp' : t.library.path? name = some p := by rw [← hp, Library.path?, Library.path?, h.directory]
  obtain ⟨q, place', hq, hplace', he⟩ := Library.file?_eq_some.mp hfile
  cases hp'.symm.trans hq
  cases ((h.files.trans hl).locate hplace).symm.trans hplace'
  exact hchanged c stamp hks (Library.file?_eq_some.mpr ⟨p, place, hp', h.files.locate hplace,
    hl.old_file he (Nat.le_trans hstamp h.files.clock)⟩)

theorem step (hs : s.Coherent) (h : Since s t name content) {call : Call} (hcall : ∀ text, call ≠ .add name text) :
    Since s (t.step call) name content := by
  cases call with
  | add other text =>
    have hne : name ≠ other := by
      rintro rfl
      exact hcall text rfl
    refine ⟨h.files, h.directory, ?_, h.kept⟩
    rw [Session.step, lookup_add, if_neg hne]
    exact h.memory
  | contains other =>
    rw [Session.step, Library.contains_eq]
    exact h.load other
  | render other scope =>
    rw [Session.step, Library.render_eq]
    exact h.load other
  | renderString source scope => exact h
  | change c => exact h.change hs c

theorem run (hs : s.Coherent) (h : Since s t name content) {calls : List Call} (hcalls : ∀ text, .add name text ∉ calls) :
    Since s (t.run calls) name content := by
  induction calls generalizing t with
  | nil => exact h
  | cons call rest ih =>
    refine ih (h.step hs fun text he => hcalls text (he ▸ List.mem_cons_self)) fun text hmem => ?_
    exact hcalls text (List.mem_cons_of_mem _ hmem)

theorem added (s : Session) (name content : String) : Since s (s.step (.add name content)) name content :=
  ⟨.refl _, rfl, by simp [Session.step, lookup_add], .inl rfl⟩

/-- The added text is in use, and the file is not the one that a template was loaded from before; or it is that one. -/
theorem used (ht : t.Coherent) (h : Since s t name content) :
    (t.library.load t.files name).2.map Loaded.nodes = (Source.memory content).nodes ∧
        (∀ c stamp, t.library.file? t.files name = some (c, stamp) → s.keptFrom name ≠ some (.file stamp)) ∨
      ∃ c stamp, t.library.file? t.files name = some (c, stamp) ∧ s.keptFrom name = some (.file stamp) ∧
        (t.library.load t.files name).2.map Loaded.nodes = (Source.file c).nodes := by
  rcases t.library.load_cases t.files name with ⟨e, hc, hl⟩ | ⟨hc, -⟩
  · have hkept : t.keptFrom name = some e.origin := by
      rw [keptFrom, (Option.filter_eq_some_iff.mp hc).1, Option.map_some]
    rw [hl]
    rcases source_of_cached ht hc with ⟨text, ho, hm, hn⟩ | ⟨c, stamp, ho, hfile, hn⟩
    · cases hm.symm.trans h.memory
      refine .inl ⟨hn.symm, fun c stamp hfile hks => ?_⟩
      rcases h.kept with hsame | ⟨-, hchanged⟩
      · rw [← hsame, hkept, ho] at hks
        cases hks
      · exact hchanged c stamp hks hfile
    · refine .inr ⟨c, stamp, hfile, ?_, hn.symm⟩
      rcases h.kept with hsame | ⟨hmemory, -⟩
      · rw [← hsame, hkept, ho]
      · rw [hkept, ho] at hmemory
        cases hmemory
  · refine .inl ⟨?_, fun c stamp hfile hks => ?_⟩
    · have hfound : t.library.found? t.files name = some (.memory content, .memory content) := by
        rw [Library.found?, h.memory]
      rw [Library.load_of_stale hc, Library.nodes_of_found hfound]
    · rcases h.kept with hsame | ⟨-, hchanged⟩
      · exact file_changed_of_stale hc (hsame.trans hks) c hfile
      · exact hchanged c stamp hks hfile

end Since

end Session

/-- After `content` was added under a name, and nothing else under that name, the name renders `content`, whatever was done before
    and is done since; except that a template loaded from the file before stays in use while that very file is there. -/
theorem added_text_is_used_unless_file_was_loaded (changes : List Change) (directory : Option String) (before : List Call)
    (name content : String) {after : List Call} (hafter : ∀ text, .add name text ∉ after) (scope : Scope) :
    let s := (Session.start (Tree.built changes) directory).run before
    let t := (s.step (.add name content)).run after
    (t.library.render t.files name scope).2 =
      match t.library.file? t.files name with
      | some (c, stamp) =>
        if s.keptFrom name = some (.file stamp) then (Source.file c).render name scope
        else (Source.memory content).render name scope
      | none => (Source.memory content).render name scope := by
  intro s t
  have hs : s.Coherent := Session.run_coherent (Session.start_coherent changes directory) before
  have ht : t.Coherent := Session.run_coherent (Session.step_coherent hs _) after
  have hsince : Session.Since s t name content := (Session.Since.added s name content).run hs hafter
  rcases hsince.used ht with ⟨hload, hother⟩ | ⟨c, stamp, hfile, hkept, hload⟩
  · rw [Session.render_of_load hload]
    split
    · rename_i c stamp hfile
      rw [if_neg (hother c stamp hfile)]
    · rfl
  · rw [Session.render_of_load hload]
    simp only [hfile, if_pos hkept]

/-- Once the file is deleted, the added text is used also when the file was loaded before. -/
theorem added_text_is_used_after_deletion :
    (∀ text, .add "a.j2" text ∉ [Call.change (.delete (.ofString "t/a.j2"))]) ∧
      let s := (Session.start (Tree.built shelf) (some "t")).run [.contains "a.j2"]
      let t := (s.step (.add "a.j2" "added")).run [.change (.delete (.ofString "t/a.j2"))]
      s.keptFrom "a.j2" = some (.file 1) ∧ (t.library.render t.files "a.j2" []).2 = .ok "added" := by
  have hafter : ∀ text, .add "a.j2" text ∉ [Call.change (.delete (.ofString "t/a.j2"))] := by simp
  have hused := added_text_is_used_unless_file_was_loaded shelf (some "t") [.contains "a.j2"] "a.j2" "added" hafter []
  exact ⟨hafter, by rfl, hused.trans (by rfl)⟩

/-- An added text does not hide a file that was looked up before. -/
theorem a_loaded_file_hides_an_added_text :
    let s := (Session.start (Tree.built shelf) (some "t")).run [.contains "a.j2", .add "a.j2" "added"]
    (s.library.render s.files "a.j2" []).2 = .ok "old" ∧ (Source.memory "added").render "a.j2" [] = .ok "added" := by
  exact ⟨by rfl, by rfl⟩

end Typewright.Template
