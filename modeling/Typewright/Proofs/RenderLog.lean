import Typewright.Proofs.Requirements

/-!
The log of writing a declaration.

On the way through a declaration, nested ones are entered and required collections are found missing (`Visit`, `visits`). A
nested declaration is entered before those inside it, and these before the next one (`inside`); the methods of a declaration
come last, so what a method lacks is met after everything nested has been entered. The way is known before anything is
written.

Of a script only its notes and its faults matter to the log (`Moment`). There is a note for each declaration that is entered
up to the first fault, and then a complaint if something was missing; nothing is logged after that (`told`). One step adds
to the log what its moment says (`Draft.step_log`), so carrying out a script adds what all of them say, up to the first that
fails (`run_log`). The moments of a whole script are the visits of its declaration (`moments_script`), by the recursion of
the script.

Proved, at every depth and for every declaration whose attributes have texts as arguments: `log_tells_the_outcome`. Where
there is a text, the log says what is written and where, and then names all declarations inside, in order. Where there is
none, it names those that were entered by then, which are the first ones of that order, and last it complains about the
field and the owner that the fault names. So the one can be told from the other, and there is never a complaint without a
fault.

`complaint_after_all_nested`: a method without a body is complained about after the three declarations nested beside it.
-/

namespace Typewright

open Template Template.Library

/-! ## The way through a declaration -/

def Lack.note (l : Lack) : Log.Record :=
  .error Declaration.Script.source ("Required '" ++ l.field ++ "' is missing on '" ++ l.owner ++ "'")

/-- What is met on the way: a nested declaration that is entered, or a required collection that is missing. -/
inductive Visit where
  | enter (d : Declaration)
  | lack (l : Lack)

namespace Visit

def entered? : Visit → Option Declaration
  | enter d => some d
  | lack _ => none

def lack? : Visit → Option Lack
  | enter _ => none
  | lack l => some l

theorem entered_lacks (ls : List Lack) : (ls.map lack).filterMap entered? = [] := by
  simp [entered?]

theorem lack_lacks (ls : List Lack) : (ls.map lack).filterMap lack? = ls := by
  simp [List.filterMap_map, Function.comp_def, lack?]

theorem entered_enters (ds : List Declaration) : (ds.map enter).filterMap entered? = ds := by
  simp [List.filterMap_map, Function.comp_def, entered?]

theorem lack_enters (ds : List Declaration) : (ds.map enter).filterMap lack? = [] := by
  simp [lack?]

/-- On any way, declarations are entered until it ends or something is missing. -/
theorem split (vs : List Visit) :
    (∃ ds : List Declaration, vs = ds.map enter) ∨
      ∃ (ds : List Declaration) (l : Lack) (after : List Visit), vs = ds.map enter ++ lack l :: after := by
  induction vs with
  | nil => exact .inl ⟨[], rfl⟩
  | cons v rest ih =>
    cases v with
    | lack l => exact .inr ⟨[], l, rest, rfl⟩
    | enter d =>
      rcases ih with ⟨ds, rfl⟩ | ⟨ds, l, after, rfl⟩
      · exact .inl ⟨d :: ds, rfl⟩
      · exact .inr ⟨d :: ds, l, after, rfl⟩

end Visit

namespace Declaration

def startNote (d : Declaration) (k : Int) : Log.Record :=
  .debug Script.source ("Rendering " ++ d.kindWord ++ " '" ++ d.name.shown ++ "' at depth " ++ toString k)

def nestedNote (d : Declaration) : Log.Record := .debug Script.source ("Rendering nested declaration '" ++ d.name.shown ++ "'")

mutual

def inside : Declaration → List Declaration
  | ⟨_, _, _, _, _, _, _, _, _, innerClasses, _, _⟩ => insideOption innerClasses

def insideOption : Option (List Declaration) → List Declaration
  | none => []
  | some ds => insideAll ds

def insideAll : List Declaration → List Declaration
  | [] => []
  | d :: rest => d :: inside d ++ insideAll rest

end

mutual

/-- The way through a declaration: its own collections, everything nested in it, its methods. -/
def visits : Declaration → List Visit
  | ⟨name, «namespace», imports, keywords, attributes, implementations, properties, constants, methods, innerClasses,
      isInterface, isNested⟩ =>
    let d : Declaration := ⟨name, «namespace», imports, keywords, attributes, implementations, properties, constants,
      methods, innerClasses, isInterface, isNested⟩
    d.ownLacks.map .lack ++ visitsOption innerClasses ++ d.methodLacks.map .lack

def visitsOption : Option (List Declaration) → List Visit
  | none => []
  | some ds => visitsAll ds

def visitsAll : List Declaration → List Visit
  | [] => []
  | d :: rest => .enter d :: visits d ++ visitsAll rest

end

theorem insideAll_eq (ds : List Declaration) : insideAll ds = ds.flatMap fun c => c :: c.inside := by
  induction ds with
  | nil => simp [insideAll]
  | cons d rest ih => simp [insideAll, ih]

theorem inside_eq (d : Declaration) : d.inside = d.nestedIn.flatMap fun c => c :: c.inside := by
  obtain ⟨_, _, _, _, _, _, _, _, _, innerClasses, _, _⟩ := d
  cases innerClasses with
  | none => simp [inside, insideOption, nestedIn]
  | some ds => simp [inside, insideOption, insideAll_eq, nestedIn]

/-- What is within a declaration is the declaration itself and all inside it. -/
theorem within_iff {c d : Declaration} : c.Within d ↔ c ∈ d :: d.inside := by
  induction d using nested_induction with
  | h d ih =>
    rw [inside_eq, List.mem_cons, List.mem_flatMap]
    constructor
    · intro h
      cases h with
      | self => exact .inl rfl
      | nested he hw => exact .inr ⟨_, he, (ih _ he).mp hw⟩
    · intro h
      rcases h with rfl | ⟨e, he, hc⟩
      · exact .self _
      · exact .nested he ((ih e he).mpr hc)

theorem visitsAll_eq (ds : List Declaration) : visitsAll ds = ds.flatMap fun c => .enter c :: c.visits := by
  induction ds with
  | nil => simp [visitsAll]
  | cons d rest ih => simp [visitsAll, ih]

theorem visits_eq (d : Declaration) :
    d.visits = d.ownLacks.map .lack ++ d.nestedIn.flatMap (fun c => .enter c :: c.visits) ++ d.methodLacks.map .lack := by
  obtain ⟨_, _, _, _, _, _, _, _, _, innerClasses, _, _⟩ := d
  cases innerClasses with
  | none => simp [visits, visitsOption, nestedIn]
  | some ds => simp [visits, visitsOption, visitsAll_eq, nestedIn]

/-- All declarations inside are entered on the way, in order. -/
theorem entered_visits (d : Declaration) : d.visits.filterMap Visit.entered? = d.inside := by
  induction d using nested_induction with
  | h d ih =>
    rw [visits_eq, inside_eq, List.filterMap_append, List.filterMap_append, Visit.entered_lacks, Visit.entered_lacks,
      List.filterMap_flatMap, List.nil_append, List.append_nil]
    apply List.flatMap_congr
    intro c hc
    have henter : (Visit.enter c).entered? = some c := rfl
    rw [List.filterMap_cons_some henter, ih c hc]

/-- All that is missing is met on the way, in order. -/
theorem lacks_visits (d : Declaration) : d.visits.filterMap Visit.lack? = d.lacks := by
  induction d using nested_induction with
  | h d ih =>
    rw [visits_eq, lacks_eq, List.filterMap_append, List.filterMap_append, Visit.lack_lacks, Visit.lack_lacks,
      List.filterMap_flatMap]
    congr 2
    apply List.flatMap_congr
    intro c hc
    rw [List.filterMap_cons_none rfl, ih c hc]

end Declaration

/-! ## Notes and faults of a script -/

inductive Moment where
  | note (r : Log.Record)
  | fault (f : WriteFault)

/-- The records of moments; none come after a fault. Only what is missing is complained about. -/
def told : List Moment → List Log.Record
  | [] => []
  | .note r :: rest => r :: told rest
  | .fault (.missing field owner) :: _ => [Lack.note ⟨field, owner⟩]
  | .fault _ :: _ => []

def Step.moment? : Step → Option Moment
  | .note r => some (.note r)
  | s => s.fault?.map .fault

theorem Step.moment?_fault {s : Step} {f : WriteFault} (h : s.fault? = some f) : s.moment? = some (.fault f) := by
  cases s <;> simp_all [moment?, fault?]

namespace Draft

theorem log_emitted (d : Draft) (r : Except Emitter.Fault Emitter) : (d.emitted r).1.log = d.log := by
  cases r <;> rfl

/-- What a step adds to the log does not depend on the state it is taken in. -/
theorem step_log (files : Files.Tree) (comment : Json) (d : Draft) (s : Step) :
    (d.step files comment s).1.log = d.log ++ told s.moment?.toList := by
  cases s with
  | note r => rfl
  | require present field owner =>
    cases present with
    | true => simp [step, Step.moment?, Step.fault?, told]
    | false => rfl
  | blank => simp [step, Step.moment?, Step.fault?, told]
  | comment | header text | line text | openBlock | closeBlock =>
    simp [step, log_emitted, Step.moment?, Step.fault?, told]
  | mark a => cases ha : a.text <;> simp [step, ha, log_emitted, Step.moment?, Step.fault?, told]
  | member name scope =>
    have hsilent : told (Step.member name scope).moment?.toList = [] := by
      cases hm : memberText name scope <;> simp [Step.moment?, Step.fault?, hm, told]
    rw [hsilent, List.append_nil, step]
    split
    · rw [log_emitted]
    · rfl

end Draft

namespace Steps

def moments (steps : List Step) : List Moment := steps.filterMap Step.moment?

@[simp] theorem moments_nil : moments [] = [] := rfl

@[simp] theorem moments_append (a b : List Step) : moments (a ++ b) = moments a ++ moments b := List.filterMap_append

@[simp] theorem moments_cons (s : Step) (rest : List Step) : moments (s :: rest) = s.moment?.toList ++ moments rest := by
  simp only [moments, List.filterMap_cons]
  cases s.moment? <;> rfl

/-- Steps without notes have their faults only. -/
theorem moments_faults {steps : List Step} (h : ∀ r, .note r ∉ steps) : moments steps = (faults steps).map .fault := by
  induction steps with
  | nil => rfl
  | cons s rest ih =>
    have hs : s.moment? = s.fault?.map .fault := by
      cases s with
      | note r => exact absurd (List.mem_cons_self) (h r)
      | _ => rfl
    rw [moments_cons, faults_cons, ih fun r hr => h r (List.mem_cons_of_mem s hr), hs, List.map_append]
    cases s.fault? <;> rfl

end Steps

/-- Nothing is told after a fault. -/
theorem told_fault (f : WriteFault) (rest : List Moment) : told (.fault f :: rest) = told [.fault f] := by
  cases f <;> rfl

theorem told_note (r : Log.Record) (rest : List Moment) : told (.note r :: rest) = r :: told rest := rfl

/-- What a step without a fault adds comes before the rest. -/
theorem Step.told_moment {s : Step} (h : s.fault? = none) (rest : List Moment) :
    told (s.moment?.toList ++ rest) = told s.moment?.toList ++ told rest := by
  cases s with
  | note r => rfl
  | _ =>
    simp only [moment?, h]
    rfl

namespace Draft

variable {i : Int → String} {d : Draft}

/-- Under an indent that can be repeated a step fails by its own fault only, and the next step finds the same indent. -/
theorem step_fault (comment : Json) (hl : Stocked d.library) (hi : d.emitter.indent.Repeats i) (s : Step) :
    (d.step Generator.memberFiles comment s).2 = s.fault? ∧
      (s.fault? = none → (d.step Generator.memberFiles comment s).1.emitter.indent.Repeats i) := by
  obtain ⟨hend, -⟩ := step_emit comment hl s
  rw [Step.emit, Emitter.puts_repeats hi] at hend
  generalize d.step Generator.memberFiles comment s = out at hend ⊢
  obtain ⟨d', f⟩ := out
  cases hf : s.fault? with
  | some g =>
    rw [hf] at hend
    cases f with
    | none => cases hend
    | some f =>
      cases hend
      exact ⟨rfl, fun h => by cases h⟩
  | none =>
    rw [hf] at hend
    cases f with
    | none =>
      have he : d'.emitter.indent = d.emitter.indent := by rw [Except.ok.inj hend]
      exact ⟨rfl, fun _ => he ▸ hi⟩
    | some f => cases hend

/-- Under an indent that can be repeated, a script logs its notes up to its first fault, and the complaint about that. -/
theorem run_log (comment : Json) (hl : Stocked d.library) (hi : d.emitter.indent.Repeats i) (steps : List Step) :
    (d.run Generator.memberFiles comment steps).1.log = d.log ++ told (Steps.moments steps) := by
  induction steps generalizing d with
  | nil => simp [run, Steps.moments, told]
  | cons s rest ih =>
    have hstocked := (step_emit comment hl s).2
    have hlog := step_log Generator.memberFiles comment d s
    obtain ⟨hfault, hindent⟩ := step_fault comment hl hi s
    rw [run, Steps.moments_cons]
    generalize d.step Generator.memberFiles comment s = out at hstocked hlog hfault hindent ⊢
    obtain ⟨d', f⟩ := out
    obtain rfl : f = s.fault? := hfault
    -- a fault ends both the run and what is told; any other step goes on with the indent it found
    cases hf : s.fault? with
    | some g =>
      rw [Step.moment?_fault hf] at hlog ⊢
      exact hlog.trans (congrArg (d.log ++ ·) (told_fault g _).symm)
    | none =>
      rw [Step.told_moment hf, ← List.append_assoc, ← hlog]
      exact ih hstocked (hindent hf)

end Draft

/-! ## The script of a declaration -/

def Visit.moment : Visit → Moment
  | enter d => .note d.nestedNote
  | lack l => .fault l.fault

namespace Declaration.Script

open Steps

theorem map_lack_moment (ls : List Lack) : (ls.map Visit.lack).map Visit.moment = (ls.map Lack.fault).map Moment.fault := by
  simp [Visit.moment]

theorem moments_requirements (d : Declaration) :
    moments (requirements d) = (d.ownLacks.map Visit.lack).map Visit.moment := by
  rw [moments_faults (by simp [requirements]), faults_requirements, map_lack_moment]

theorem no_note_methods (i : Bool) (ms : Option (List Method)) (r : Log.Record) : .note r ∉ methods i ms := by
  have hmethod : ∀ m, .note r ∉ method i m := by
    intro m
    cases i <;> simp [method, attributes, body]
  unfold methods
  split
  · simp
  · intro h
    rcases List.mem_cons.mp h with h | h
    · cases h
    · obtain ⟨m, -, hm⟩ := List.mem_flatMap.mp h
      exact hmethod m hm

theorem no_note_fileHeader (d : Declaration) (r : Log.Record) : .note r ∉ fileHeader d := by
  unfold fileHeader
  split <;> simp

/-- Around what is nested, a type has nothing to tell but what its methods lack, and that comes last. -/
theorem moments_typeAround {d : Declaration} (h : ∀ a ∈ d.allAttributes, a.HasTexts) (inner : List Step) :
    moments (typeAround d inner) = moments inner ++ (d.methodLacks.map Visit.lack).map Visit.moment := by
  let head := attributes d.attributes ++ [.line (headline d), .openBlock]
  let tail := constants d.constants ++ properties d.properties ++ methods d.isInterface d.methods ++ [.closeBlock]
  have hsplit : ∀ inner, typeAround d inner = head ++ inner ++ tail := by
    intro inner
    simp [typeAround, head, tail]
  have hhead : faults head = [] := by
    have ha : faults (attributes d.attributes) = [] := faults_attributes fun a ha => h a (by simp [allAttributes, ha])
    simp [head, ha, fault_line, fault_brace]
  -- with nothing nested, the faults of the type are those behind its opening brace
  have htail : faults tail = d.methodLacks.map Lack.fault := by
    have hall := faults_typeAround h []
    rwa [hsplit, faults_append, faults_append, hhead] at hall
  have hquiet : (∀ r, .note r ∉ head) ∧ ∀ r, .note r ∉ tail := by
    constructor
    · simp [head, attributes]
    · simp [tail, constants, properties, no_note_methods]
  rw [hsplit, moments_append, moments_append, moments_faults hquiet.1, moments_faults hquiet.2, hhead, htail, map_lack_moment]
  rfl

/-- A type after its own collections is the way through it. -/
theorem moments_type (d : Declaration) (h : d.TextArguments) :
    moments (requirements d ++ type d) = d.visits.map Visit.moment := by
  induction d using nested_induction with
  | h d ih =>
    obtain ⟨hd, hn⟩ := everywhere_iff.mp h
    have hi : moments (d.nestedIn.flatMap innerSteps) =
        (d.nestedIn.flatMap fun c => .enter c :: c.visits).map Visit.moment := by
      rw [moments, List.filterMap_flatMap, List.map_flatMap]
      apply List.flatMap_congr
      intro c hc
      show moments (innerSteps c) = .note c.nestedNote :: c.visits.map Visit.moment
      rw [← ih c hc (hn c hc)]
      simp [innerSteps, nested, Step.moment?, Step.fault?, nestedNote]
    rw [type_eq, moments_append, moments_requirements, moments_typeAround hd, hi, visits_eq, List.map_append, List.map_append,
      List.append_assoc]

end Declaration.Script

namespace Declaration

/-- The script of a declaration tells the way through it. -/
theorem moments_script (d : Declaration) (h : d.TextArguments) : Steps.moments d.script = d.visits.map Visit.moment := by
  have hheader : Steps.moments (Script.fileHeader d) = [] := by
    rw [Steps.moments_faults (Script.no_note_fileHeader d), Script.faults_fileHeader, List.map_nil]
  rw [← Script.moments_type d h, script]
  split
  · simp [Script.nested, Step.moment?, Step.fault?]
  · simp [Script.freestanding, hheader, Step.moment?, Step.fault?]

/-- The log of writing a declaration: that it is written, and what is told on the way through it. -/
theorem render_log (d : Declaration) (k : Nat) (s : Settings) (u : String) (hu : s.indent = .text u) (ht : d.TextArguments) :
    (d.render k s).log = d.startNote k :: told (d.visits.map Visit.moment) := by
  have hk : ¬ ((k : Int) < 0) := by omega
  have hi : s.indent.Repeats (Json.repeatText u) := hu ▸ Json.repeats_text u
  simp only [render, Generator.generate, write, Generator.csharp, Generator.currentLibrary, Option.getD_some, Emitter.start, hk,
    if_false]
  have hrun := Draft.run_log s.comment (d := ⟨⟨s.indent, s.lineEnding, k, k, []⟩, Generator.freshLibrary Generator.memberFiles
    (some Generator.memberDirectory) [], [d.startNote k]⟩) stocked_fresh hi d.script
  rw [moments_script d ht] at hrun
  simp only [startNote, Int.toNat_natCast] at hrun ⊢
  generalize Draft.run _ _ _ _ = out at hrun ⊢
  obtain ⟨draft, f⟩ := out
  cases f <;> exact hrun

theorem told_entered (ds : List Declaration) (rest : List Moment) :
    told ((ds.map Visit.enter).map Visit.moment ++ rest) = ds.map nestedNote ++ told rest := by
  induction ds with
  | nil => rfl
  | cons d ds ih =>
    simp only [List.map_cons, List.cons_append, Visit.moment, told_note, ih]

/-- The log tells the same as the outcome. First it says what is written and where. Where there is a text, all declarations
    inside follow in order, and no complaint. Else the way goes up to the first thing missing: those entered by then follow,
    and last the one complaint, about the same field and owner as the fault. -/
theorem log_tells_the_outcome (d : Declaration) (k : Nat) (s : Settings) (u : String) (hu : s.indent = .text u)
    (ht : d.TextArguments) :
    (∃ text, d.visits = d.inside.map .enter ∧ (d.render k s).outcome = .ok text ∧
        (d.render k s).log = d.startNote k :: d.inside.map nestedNote) ∨
      ∃ (entered : List Declaration) (l : Lack) (after : List Visit),
        d.visits = entered.map .enter ++ .lack l :: after ∧ entered <+: d.inside ∧
        (d.render k s).outcome = .error (.missing l.field l.owner) ∧
        (d.render k s).log = d.startNote k :: entered.map nestedNote ++ [l.note] := by
  have hinside := d.entered_visits
  have hlacks := d.lacks_visits
  have hlog := d.render_log k s u hu ht
  rcases Visit.split d.visits with ⟨ds, hv⟩ | ⟨ds, l, after, hv⟩
  · rw [hv, Visit.entered_enters] at hinside
    rw [hv, Visit.lack_enters] at hlacks
    have htold := told_entered ds []
    rw [List.append_nil, ← hv] at htold
    rcases outcome_lacks d k s u hu ht with ⟨first, rest, hl, -⟩ | ⟨-, text, ho⟩
    · rw [← hlacks] at hl
      cases hl
    · refine .inl ⟨text, hinside ▸ hv, ho, ?_⟩
      rw [hlog, htold, hinside, told, List.append_nil]
  · have hprefix : ds <+: d.inside := by
      rw [← hinside, hv, List.filterMap_append, Visit.entered_enters]
      exact List.prefix_append _ _
    have hfirst : d.lacks = l :: after.filterMap Visit.lack? := by
      rw [← hlacks, hv, List.filterMap_append, Visit.lack_enters]
      rfl
    have htold := told_entered ds ((Visit.lack l :: after).map Visit.moment)
    rw [← List.map_append, ← hv] at htold
    rcases outcome_lacks d k s u hu ht with ⟨first, rest, hl, ho⟩ | ⟨hl, -⟩
    · rw [hfirst] at hl
      cases hl
      refine .inr ⟨ds, l, after, hv, hprefix, ho, ?_⟩
      rw [hlog, htold]
      rfl
    · rw [hfirst] at hl
      cases hl

def toolbox : Declaration where
  name := some "Toolbox"
  methods := some [{ name := some "Open", returnType := some "void", body := none }]
  innerClasses := some [
    { name := some "Tray", innerClasses := some [{ name := some "Slot" }] },
    { name := some "Lid", isInterface := true }]

/-- What a method lacks comes after all that is nested around it. -/
theorem complaint_after_all_nested :
    toolbox.TextArguments ∧ (toolbox.render 1 {}).outcome = .error (.missing "body" "Open") ∧
      (toolbox.render 1 {}).log.map (fun r => (r.level, r.message)) =
        [(10, "Rendering class 'Toolbox' at depth 1"), (10, "Rendering nested declaration 'Tray'"),
          (10, "Rendering nested declaration 'Slot'"), (10, "Rendering nested declaration 'Lid'"),
          (40, "Required 'body' is missing on 'Open'")] := by
  have ht : toolbox.TextArguments := by
    intro c hc a ha
    have hinside : c ∈ toolbox :: toolbox.inside := within_iff.mp hc
    simp only [toolbox, inside, insideOption, insideAll, List.cons_append, List.nil_append, List.mem_cons, List.not_mem_nil,
      or_false] at hinside
    rcases hinside with rfl | rfl | rfl | rfl <;> simp [allAttributes] at ha
  have hvisits : toolbox.visits = [.enter { name := some "Tray", innerClasses := some [{ name := some "Slot" }] },
      .enter { name := some "Slot" }, .enter { name := some "Lid", isInterface := true }, .lack ⟨"body", "Open"⟩] := rfl
  refine ⟨ht, ?_⟩
  rcases log_tells_the_outcome toolbox 1 {} "\t" rfl ht with ⟨text, hv, -⟩ | ⟨entered, l, after, hv, -, ho, hlog⟩
  · have hlack : Visit.lack ⟨"body", "Open"⟩ ∈ toolbox.inside.map Visit.enter := by
      rw [← hv, hvisits]
      simp
    simp at hlack
  · rw [hvisits] at hv
    rcases entered with _ | ⟨a, _ | ⟨b, _ | ⟨c, _ | ⟨e, rest⟩⟩⟩⟩ <;> simp at hv
    obtain ⟨rfl, rfl, rfl, rfl, -⟩ := hv
    rw [Int.natCast_one] at ho hlog
    refine ⟨ho, ?_⟩
    rw [hlog]
    decide +kernel

end Declaration

end Typewright
