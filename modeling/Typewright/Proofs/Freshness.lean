import Typewright.Proofs.FileChanges
import Typewright.Template.Library

/-!
A library over time.

In a session (`Session`) templates are added, looked up and rendered while the files change underneath, in any order
(`Call`). The library keeps what it has loaded and goes on using it as long as it counts as fresh: the text in memory is the
same, or the file has the stamp it had. Whether that may be told from a stamp is the question here. It may, because of an
invariant.

`Coherent` says that no file is newer than the clock, and that every template that is kept is backed (`Session.Backs`): if
what it was loaded from has not changed since, reading it anew would give the same nodes. A call keeps it (`step_coherent`):
a load puts in what has just been read, and a change of files makes stamps that no template was loaded under. So it holds
after every run (`run_coherent`), from a start over any files (`start_coherent`).

What a name stands for is said without the library (`StandsFor`): the text that was last added under it, or the text that
the file below the directory has now. This is where the two meet (`current_iff_standsFor`): in a coherent session what a
load can use is one of these (`load_current`), whether it is kept or found anew. Which of the two is used when there are
both is a matter of its own; see `Shadowing`.

Proved, for every run of calls and changes:
- `never_outdated`: a look-up and a rendering go by one text that the name stands for, and it is the same for both; a
  template is missing exactly when there is none. A name that leads out of the directory stands for nothing in it, so it is
  left out here.
- `rewritten_file_is_read_anew`: a file that is rewritten between two renderings, with a text of the same length.
-/

namespace Typewright.Template

open Files

/-! ## Sessions -/

structure Session where
  files : Tree
  library : Library

inductive Call where
  | add (name text : String)
  | contains (name : String)
  | render (name : String) (scope : Scope)
  | renderString (source : String) (scope : Scope)
  | change (c : Change)

namespace Session

def start (files : Tree) (directory : Option String) : Session := ⟨files, .start files directory⟩

/-- What a call leaves behind; whether it succeeds is told by the library. -/
def step (s : Session) : Call → Session
  | .add name text => { s with library := s.library.add name text }
  | .contains name => { s with library := (s.library.contains s.files name).1 }
  | .render name scope => { s with library := (s.library.render s.files name scope).1 }
  | .renderString _ _ => s
  | .change c => { s with files := s.files.change c }

def run (s : Session) (calls : List Call) : Session := calls.foldl step s

end Session

inductive Source where
  | memory (text : String)
  | file (content : Content)

namespace Source

def nodes : Source → Except Fault (List Node)
  | memory text => (read text).mapError .flaw
  | file content =>
    match content.read with
    | .error f => .error (.undecodable f)
    | .ok text => (read text).mapError .flaw

def render (name : String) (scope : Scope) (source : Source) : Except Fault String :=
  match source.nodes with
  | .error f => .error f
  | .ok nodes => (renderAll (Library.escapes name) scope nodes).mapError .run

/-- An error that `f` gives for nothing does not come out. -/
theorem mapError_ne {ε ε' α : Type} {f : ε → ε'} {e : ε'} (h : ∀ x, f x ≠ e) (r : Except ε α) : r.mapError f ≠ .error e := by
  cases r with
  | ok a => exact fun he => by cases he
  | error x => exact fun he => h x (Except.error.inj he)

theorem nodes_ne_notFound (source : Source) (name : String) : source.nodes ≠ .error (.notFound name) := by
  cases source with
  | memory text => exact mapError_ne (by simp) (read text)
  | file content =>
    rw [nodes]
    cases content.read with
    | error f => simp
    | ok text => exact mapError_ne (by simp) (read text)

theorem render_ne_notFound (source : Source) (name : String) (scope : Scope) (missing : String) :
    source.render name scope ≠ .error (.notFound missing) := by
  rw [render]
  have hn := source.nodes_ne_notFound missing
  cases h : source.nodes with
  | error f =>
    intro he
    rw [h, Except.error.inj he] at hn
    exact hn rfl
  | ok nodes => exact mapError_ne (by simp) (renderAll (Library.escapes name) scope nodes)

end Source

/-! ## Looking up -/

namespace Library

variable (l : Library) (files : Tree) (name : String)

def path? : Option Path :=
  match l.directory, nameParts? name with
  | some directory, some parts => some { directory with parts := directory.parts ++ parts }
  | _, _ => none

def found? : Option (Source × Origin) :=
  match List.lookup name l.memory with
  | some text => some (.memory text, .memory text)
  | none => (l.file? files name).map fun f => (.file f.1, .file f.2)

variable {l files name}

theorem file?_eq_some {c : Content} {stamp : Nat} : l.file? files name = some (c, stamp) ↔
    ∃ p place, l.path? name = some p ∧ files.locate p = .ok place ∧ files.entry? place = some (.file c stamp) := by
  have hlook : ∀ p, files.look p = .ok (.file c stamp) ↔
      ∃ place, files.locate p = .ok place ∧ files.entry? place = some (.file c stamp) := by
    intro p
    rw [Tree.look]
    cases files.locate p with
    | error r => simp
    | ok place => cases h : files.entry? place <;> simp [h]
  have hfile : l.file? files name = some (c, stamp) ↔ ∃ p, l.path? name = some p ∧ files.look p = .ok (.file c stamp) := by
    unfold file? path?
    cases l.directory with
    | none => simp
    | some directory =>
      cases nameParts? name with
      | none => simp
      | some parts =>
        simp only [Option.some.injEq, exists_eq_left']
        split
        · rename_i h
          simp [h]
        · rename_i h
          simpa using h c stamp
  rw [hfile]
  constructor
  · rintro ⟨p, hp, hl⟩
    obtain ⟨place, hplace, he⟩ := (hlook p).mp hl
    exact ⟨p, place, hp, hplace, he⟩
  · rintro ⟨p, place, hp, hplace, he⟩
    exact ⟨p, hp, (hlook p).mpr ⟨place, hplace, he⟩⟩

theorem find_eq : l.find files name =
    match l.found? files name with
    | none => .error (.notFound name)
    | some (source, origin) => source.nodes.map (Loaded.mk origin) := by
  have hmap : ∀ (r : Except Flaw (List Node)) (o : Origin),
      (r.map (Loaded.mk o)).mapError Fault.flaw = (r.mapError Fault.flaw).map (Loaded.mk o) := by
    intro r o
    cases r <;> rfl
  unfold find found?
  cases List.lookup name l.memory with
  | some text => exact hmap _ _
  | none =>
    cases l.file? files name with
    | none => rfl
    | some f =>
      obtain ⟨content, stamp⟩ := f
      simp only [Option.map_some, Source.nodes]
      cases content.read with
      | error f => rfl
      | ok text => exact hmap _ _

/-- What loading can do. -/
theorem load_cases (l : Library) (files : Tree) (name : String) :
    (∃ t, l.cached? files name = some t ∧ l.load files name = (l, .ok t)) ∨
      l.cached? files name = none ∧
        ((∃ f, l.find files name = .error f ∧ l.load files name = (l, .error f)) ∨
          ∃ t, l.find files name = .ok t ∧
            l.load files name = ({ l with cache := (name, t) :: l.cache.filter fun c => c.1 != name }, .ok t)) := by
  unfold load
  cases l.cached? files name with
  | some t => exact .inl ⟨t, rfl, rfl⟩
  | none =>
    cases l.find files name with
    | error f => exact .inr ⟨rfl, .inl ⟨f, rfl, rfl⟩⟩
    | ok t => exact .inr ⟨rfl, .inr ⟨t, rfl, rfl⟩⟩

theorem load_of_stale (hc : l.cached? files name = none) : (l.load files name).2 = l.find files name := by
  rcases l.load_cases files name with ⟨t, ht, -⟩ | ⟨-, ⟨f, hf, hl⟩ | ⟨t, hf, hl⟩⟩
  · rw [hc] at ht
    cases ht
  · rw [hl, hf]
  · rw [hl, hf]

theorem nodes_of_found {source : Source} {origin : Origin} (h : l.found? files name = some (source, origin)) :
    (l.find files name).map Loaded.nodes = source.nodes := by
  rw [find_eq, h]
  cases hn : source.nodes <;> simp [hn, Except.map]

theorem contains_eq (l : Library) (files : Tree) (name : String) :
    l.contains files name = ((l.load files name).1,
      match (l.load files name).2 with
      | .ok _ => .ok true
      | .error (.notFound _) => .ok false
      | .error f => .error f) := by
  unfold contains
  obtain ⟨l', r⟩ := l.load files name
  cases r with
  | ok t => rfl
  | error f => cases f <;> rfl

theorem render_eq (l : Library) (files : Tree) (name : String) (scope : Scope) :
    l.render files name scope = ((l.load files name).1,
      match (l.load files name).2 with
      | .ok t => (renderAll (escapes name) scope t.nodes).mapError .run
      | .error f => .error f) := by
  unfold render
  obtain ⟨l', r⟩ := l.load files name
  cases r <;> rfl

end Library

/-! ## What is kept -/

namespace Session

/-- What a kept template was loaded from tells its nodes, as long as it has not changed. -/
def Backs (s : Session) (name : String) (t : Loaded) : Prop :=
  match t.origin with
  | .memory text => (Source.memory text).nodes = .ok t.nodes
  | .file stamp => stamp ≤ s.files.clock ∧ ∃ p place, s.library.path? name = some p ∧ s.files.locate p = .ok place ∧
      ∀ c, s.files.entry? place = some (.file c stamp) → (Source.file c).nodes = .ok t.nodes

/-- No file is newer than the clock, and every kept template is backed. -/
structure Coherent (s : Session) : Prop where
  dated : s.files.Dated
  backed {name : String} {t : Loaded} : List.lookup name s.library.cache = some t → s.Backs name t

theorem Backs.later {s s' : Session} (hf : s.files.Later s'.files) (hd : s'.library.directory = s.library.directory)
    {name : String} {t : Loaded} (h : s.Backs name t) : s'.Backs name t := by
  unfold Backs at h ⊢
  cases ho : t.origin with
  | memory text =>
    rw [ho] at h
    exact h
  | file stamp =>
    rw [ho] at h
    obtain ⟨hs, p, place, hp, hl, hc⟩ := h
    have hp' : s'.library.path? name = some p := by rw [← hp, Library.path?, Library.path?, hd]
    exact ⟨Nat.le_trans hs hf.clock, p, place, hp', hf.locate hl, fun c he => hc c (hf.old_file he hs)⟩

/-- A template that was just found is backed. -/
theorem backs_of_find {s : Session} (hd : s.files.Dated) {name : String} {t : Loaded}
    (h : s.library.find s.files name = .ok t) : s.Backs name t := by
  rw [Library.find_eq] at h
  cases hf : s.library.found? s.files name with
  | none =>
    rw [hf] at h
    cases h
  | some found =>
    obtain ⟨source, origin⟩ := found
    rw [hf] at h
    have hnodes : source.nodes = .ok t.nodes ∧ t.origin = origin := by
      simp only at h
      cases hn : source.nodes with
      | error f =>
        rw [hn] at h
        cases h
      | ok nodes =>
        rw [hn] at h
        cases h
        exact ⟨rfl, rfl⟩
    unfold Library.found? at hf
    unfold Backs
    rw [hnodes.2]
    cases hm : List.lookup name s.library.memory with
    | some text =>
      rw [hm] at hf
      cases hf
      exact hnodes.1
    | none =>
      rw [hm] at hf
      obtain ⟨⟨content, stamp⟩, hfile, heq⟩ := Option.map_eq_some_iff.mp hf
      cases heq
      obtain ⟨p, place, hp, hl, he⟩ := Library.file?_eq_some.mp hfile
      refine ⟨hd _ _ _ he, p, place, hp, hl, fun c hc => ?_⟩
      rw [he] at hc
      cases hc
      exact hnodes.1

theorem load_coherent {s : Session} (h : s.Coherent) (name : String) :
    Coherent { s with library := (s.library.load s.files name).1 } := by
  rcases s.library.load_cases s.files name with ⟨t, -, hl⟩ | ⟨-, ⟨f, -, hl⟩ | ⟨t, hf, hl⟩⟩
  · rw [hl]
    exact h
  · rw [hl]
    exact h
  · rw [hl]
    refine ⟨h.dated, fun {other t'} ht => ?_⟩
    suffices hb : s.Backs other t' from hb.later (.refl _) rfl
    simp only [lookup_replaced] at ht
    split at ht
    · rename_i ho
      subst ho
      cases ht
      exact backs_of_find h.dated hf
    · exact h.backed ht

theorem step_coherent {s : Session} (h : s.Coherent) (call : Call) : (s.step call).Coherent := by
  cases call with
  | add name text => exact ⟨h.dated, fun ht => (h.backed ht).later (.refl _) rfl⟩
  | contains name =>
    rw [step, Library.contains_eq]
    exact load_coherent h name
  | render name scope =>
    rw [step, Library.render_eq]
    exact load_coherent h name
  | renderString source scope => exact h
  | change c =>
    have hl := s.files.later_change c
    refine ⟨hl.dated h.dated, fun {name t} ht => ?_⟩
    have hb : s.Backs name t := h.backed ht
    refine hb.later ?_ ?_
    · exact hl
    · rfl

theorem run_coherent {s : Session} (h : s.Coherent) (calls : List Call) : (s.run calls).Coherent := by
  induction calls generalizing s with
  | nil => exact h
  | cons call rest ih => exact ih (step_coherent h call)

theorem start_coherent (changes : List Change) (directory : Option String) :
    (start (Tree.built changes) directory).Coherent :=
  ⟨Tree.dated_built changes, fun ht => by cases ht⟩

/-! ## What is used -/

/-- The texts that a template of a name may be read from now. -/
def Current (s : Session) (name : String) : Source → Prop
  | .memory text => List.lookup name s.library.memory = some text
  | .file content => ∃ stamp, s.library.file? s.files name = some (content, stamp)

theorem current_of_found {s : Session} {name : String} {source : Source} {origin : Origin}
    (h : s.library.found? s.files name = some (source, origin)) : s.Current name source := by
  unfold Library.found? at h
  split at h
  · cases h
    assumption
  · obtain ⟨⟨content, stamp⟩, hfile, heq⟩ := Option.map_eq_some_iff.mp h
    cases heq
    exact ⟨stamp, hfile⟩

theorem no_current_of_found {s : Session} {name : String} (h : s.library.found? s.files name = none) (source : Source) :
    ¬ s.Current name source := by
  unfold Library.found? at h
  split at h
  · cases h
  · rename_i hm
    rw [Option.map_eq_none_iff] at h
    cases source with
    | memory text => simp [Current, hm]
    | file content => simp [Current, h]

/-- A kept template that is fresh has the nodes of the text it was loaded from, and that text is still there. -/
theorem source_of_cached {s : Session} (h : s.Coherent) {name : String} {t : Loaded}
    (hc : s.library.cached? s.files name = some t) :
    (∃ text, t.origin = .memory text ∧ List.lookup name s.library.memory = some text ∧
        (Source.memory text).nodes = .ok t.nodes) ∨
      ∃ content stamp, t.origin = .file stamp ∧ s.library.file? s.files name = some (content, stamp) ∧
        (Source.file content).nodes = .ok t.nodes := by
  obtain ⟨ht, hfresh⟩ := Option.filter_eq_some_iff.mp hc
  have hb := h.backed ht
  unfold Backs at hb
  cases ho : t.origin with
  | memory text =>
    rw [ho] at hb hfresh
    have hm : List.lookup name s.library.memory = some text := by simpa [Library.isFresh] using hfresh
    exact .inl ⟨text, rfl, hm, hb⟩
  | file stamp =>
    rw [ho] at hb hfresh
    obtain ⟨⟨content, stamp'⟩, hfile, hs⟩ := (Option.any_eq_true _ _).mp hfresh
    obtain rfl : stamp' = stamp := by simpa using hs
    obtain ⟨-, p, place, hp, hl, hnodes⟩ := hb
    obtain ⟨p', place', hp', hl', he⟩ := Library.file?_eq_some.mp hfile
    cases hp.symm.trans hp'
    cases hl.symm.trans hl'
    exact .inr ⟨content, stamp', rfl, hfile, hnodes content he⟩

theorem load_current {s : Session} (h : s.Coherent) (name : String) :
    (∃ source, s.Current name source ∧ (s.library.load s.files name).2.map Loaded.nodes = source.nodes) ∨
      (∀ source, ¬ s.Current name source) ∧ (s.library.load s.files name).2 = .error (.notFound name) := by
  rcases s.library.load_cases s.files name with ⟨t, hc, hl⟩ | ⟨hc, -⟩
  · rw [hl]
    rcases source_of_cached h hc with ⟨text, -, hm, hn⟩ | ⟨content, stamp, -, hfile, hn⟩
    · exact .inl ⟨.memory text, hm, hn.symm⟩
    · exact .inl ⟨.file content, ⟨stamp, hfile⟩, hn.symm⟩
  · rw [Library.load_of_stale hc]
    cases hf : s.library.found? s.files name with
    | none => exact .inr ⟨no_current_of_found hf, by rw [Library.find_eq, hf]⟩
    | some found => exact .inl ⟨found.1, current_of_found hf, Library.nodes_of_found hf⟩

theorem render_of_load {l : Library} {files : Tree} {name : String} {source : Source}
    (h : (l.load files name).2.map Loaded.nodes = source.nodes) (scope : Scope) :
    (l.render files name scope).2 = source.render name scope := by
  rw [Library.render_eq, Source.render, ← h]
  cases (l.load files name).2 <;> rfl

/-- A look-up and a rendering go by one text, and that is current; or there is none. -/
theorem answers_current {s : Session} (h : s.Coherent) (name : String) :
    (∃ source, s.Current name source ∧ (s.library.contains s.files name).2 = source.nodes.map (fun _ => true) ∧
        ∀ scope, (s.library.render s.files name scope).2 = source.render name scope) ∨
      (∀ source, ¬ s.Current name source) ∧ (s.library.contains s.files name).2 = .ok false ∧
        ∀ scope, (s.library.render s.files name scope).2 = .error (.notFound name) := by
  rw [Library.contains_eq]
  rcases load_current h name with ⟨source, hs, hl⟩ | ⟨hs, hl⟩
  · refine .inl ⟨source, hs, ?_, render_of_load hl⟩
    rw [← hl]
    cases hr : (s.library.load s.files name).2 with
    | ok t => rfl
    | error f =>
      rw [hr] at hl
      cases f with
      | notFound missing => exact absurd hl.symm (source.nodes_ne_notFound missing)
      | _ => rfl
  · refine .inr ⟨hs, ?_, fun scope => ?_⟩
    · rw [hl]
    · rw [Library.render_eq, hl]

end Session

/-! ## After any history -/

def lastAdded (name : String) (calls : List Call) : Option String :=
  calls.foldl (fun last call =>
    match call with
    | .add other text => if name = other then some text else last
    | _ => last) none

namespace Session

theorem lookup_add (l : Library) (name other text : String) :
    List.lookup name (l.add other text).memory = if name = other then some text else List.lookup name l.memory :=
  lookup_replaced other name text l.memory

theorem load_frame (l : Library) (files : Tree) (name : String) :
    (l.load files name).1.memory = l.memory ∧ (l.load files name).1.directory = l.directory := by
  rcases l.load_cases files name with ⟨t, -, hl⟩ | ⟨-, ⟨f, -, hl⟩ | ⟨t, -, hl⟩⟩ <;> rw [hl] <;> exact ⟨rfl, rfl⟩

/-- Calls add to the memory and leave the directory that is searched. -/
theorem step_frame (s : Session) (call : Call) (name : String) :
    (s.step call).library.directory = s.library.directory ∧
      List.lookup name (s.step call).library.memory =
        match call with
        | .add other text => if name = other then some text else List.lookup name s.library.memory
        | _ => List.lookup name s.library.memory := by
  cases call with
  | add other text => exact ⟨rfl, lookup_add s.library name other text⟩
  | contains other =>
    rw [step, Library.contains_eq]
    simp only [(load_frame s.library s.files other).1]
    exact ⟨(load_frame s.library s.files other).2, trivial⟩
  | render other scope =>
    rw [step, Library.render_eq]
    simp only [(load_frame s.library s.files other).1]
    exact ⟨(load_frame s.library s.files other).2, trivial⟩
  | renderString source scope => exact ⟨rfl, rfl⟩
  | change c => exact ⟨rfl, rfl⟩

theorem run_directory (s : Session) (calls : List Call) : (s.run calls).library.directory = s.library.directory := by
  induction calls generalizing s with
  | nil => rfl
  | cons call rest ih => exact (ih (s.step call)).trans (s.step_frame call "").1

theorem run_memory (files : Tree) (directory : Option String) (calls : List Call) (name : String) :
    List.lookup name ((start files directory).run calls).library.memory = lastAdded name calls := by
  have general : ∀ s : Session, List.lookup name (s.run calls).library.memory =
      calls.foldl (fun last call =>
        match call with
        | .add other text => if name = other then some text else last
        | _ => last) (List.lookup name s.library.memory) := by
    induction calls with
    | nil => exact fun _ => rfl
    | cons call rest ih =>
      intro s
      rw [List.foldl_cons, ← (s.step_frame call name).2]
      exact ih (s.step call)
  exact general (start files directory)

end Session

def templatePath (directory name : String) : Path :=
  { Path.ofString directory with parts := (Path.ofString directory).parts ++ Text.pathParts name }

/-- The texts a name stands for after calls: the one last added, and that of the file now. -/
def StandsFor (directory : String) (calls : List Call) (files : Tree) (name : String) : Source → Prop
  | .memory text => lastAdded name calls = some text
  | .file content => ∃ stamp, files.look (templatePath directory name) = .ok (.file content stamp)

namespace Session

theorem current_iff_standsFor {files : Tree} {directory : String} (hd : files.look (.ofString directory) = .ok .directory)
    (calls : List Call) {name : String} (hn : ".." ∉ Text.pathParts name) (source : Source) :
    ((start files (some directory)).run calls).Current name source ↔
      StandsFor directory calls ((start files (some directory)).run calls).files name source := by
  cases source with
  | memory text =>
    rw [Current, StandsFor, run_memory]
  | file content =>
    have hdirectory : ((start files (some directory)).run calls).library.directory = some (.ofString directory) := by
      rw [run_directory]
      simp [start, Library.start, hd]
    have hparts : Library.nameParts? name = some (Text.pathParts name) := by simp [Library.nameParts?, hn]
    rw [Current, StandsFor, Library.file?, hdirectory, hparts]
    simp only [templatePath]
    generalize Tree.look _ _ = r
    rcases r with _ | _ | ⟨c, stamp⟩ <;> simp

end Session

/-- Whatever was added, looked up and rendered before, and however the files changed meanwhile: a look-up and a rendering go by
    one text, which is the one last added or the one that the file has now, and a template is missing exactly when there is
    neither. -/
theorem never_outdated (changes : List Change) {directory : String}
    (hd : (Tree.built changes).look (.ofString directory) = .ok .directory) (calls : List Call) {name : String}
    (hn : ".." ∉ Text.pathParts name) :
    let s := (Session.start (Tree.built changes) (some directory)).run calls
    ((∃ source, StandsFor directory calls s.files name source) →
      ∃ source, StandsFor directory calls s.files name source ∧
        (s.library.contains s.files name).2 = source.nodes.map (fun _ => true) ∧
        ∀ scope, (s.library.render s.files name scope).2 = source.render name scope) ∧
    ((s.library.contains s.files name).2 = .ok false ↔ ∀ source, ¬ StandsFor directory calls s.files name source) ∧
    ∀ scope, (s.library.render s.files name scope).2 = .error (.notFound name) ↔
      ∀ source, ¬ StandsFor directory calls s.files name source := by
  intro s
  have hs : s.Coherent := Session.run_coherent (Session.start_coherent changes (some directory)) calls
  have hcurrent : ∀ source, StandsFor directory calls s.files name source ↔ s.Current name source := fun source =>
    (Session.current_iff_standsFor hd calls hn source).symm
  simp only [hcurrent]
  rcases Session.answers_current hs name with ⟨source, hsource, hcontains, hrender⟩ | ⟨hnone, hcontains, hrender⟩
  · refine ⟨fun _ => ⟨source, hsource, hcontains, hrender⟩, ?_, fun scope => ?_⟩
    · have hfound : source.nodes.map (fun _ => true) ≠ .ok false := by cases source.nodes <;> simp [Except.map]
      rw [hcontains]
      exact ⟨fun h => absurd h hfound, fun h => absurd hsource (h source)⟩
    · rw [hrender]
      exact ⟨fun h => absurd h (source.render_ne_notFound name scope name), fun h => absurd hsource (h source)⟩
  · refine ⟨fun ⟨source, hsource⟩ => absurd hsource (hnone source), ?_, fun scope => ?_⟩
    · exact ⟨fun _ => hnone, fun _ => hcontains⟩
    · exact ⟨fun _ => hnone, fun _ => hrender scope⟩

def shelf : List Change := [.makeDirectory (.ofString "t"), .write (.ofString "t/a.j2") (.text "old")]

/-- A template that was loaded is read anew after its file was written. -/
theorem rewritten_file_is_read_anew :
    (Tree.built shelf).look (.ofString "t") = .ok .directory ∧ ".." ∉ Text.pathParts "a.j2" ∧
      let s := (Session.start (Tree.built shelf) (some "t")).run
        [.render "a.j2" [], .change (.write (.ofString "t/a.j2") (.text "new"))]
      (s.library.contains s.files "a.j2").2 = .ok true ∧ (s.library.render s.files "a.j2" []).2 = .ok "new" := by
  have hd : (Tree.built shelf).look (.ofString "t") = .ok .directory := by rfl
  have hn : ".." ∉ Text.pathParts "a.j2" := by decide +kernel
  refine ⟨hd, hn, ?_⟩
  intro s
  have hfile : s.files.look (templatePath "t" "a.j2") = .ok (.file (.text "new") 2) := by rfl
  obtain ⟨source, hsource, hcontains, hrender⟩ := (never_outdated shelf hd _ hn).1 ⟨.file (.text "new"), 2, hfile⟩
  cases source with
  | memory text => cases hsource
  | file content =>
    obtain ⟨stamp, hstamp⟩ := hsource
    cases hfile.symm.trans hstamp
    exact ⟨hcontains.trans (by rfl), (hrender []).trans (by rfl)⟩

end Typewright.Template
