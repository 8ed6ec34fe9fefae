import Typewright.Proofs.Declared

/-!
The surface of a type: where it stands, what it is called, its bases, its attributes in order, its methods with their
attributes in order, and its properties (`TypeNode.SameSurface`). Extraction depends on nothing else, and loses nothing of
it.

Extraction reads the members of a type twice, once for methods and once for properties. Each pass looks at the members of
its kind only (`methods_read`, `properties_read`), and at attributes only in their order, not at the lists they are grouped
in. So a declaration is read from the surface of its type alone (`inNamespace_read`): types with the same surface are
extracted alike, whatever else is in them, however their members are mixed and their attributes grouped, be it a class or a
struct.

Nothing of the surface is lost, doubled or moved on the way. It stands in the declaration one for one, in order
(`TypeNode.Carries`): each attribute with its name and its arguments without their quotes, each method with its parameters
and attributes, each property with its type. The argument is the same at every level, that reading a list member by member
gives a list of what is read (`mapM_alike`, `mapM_items`).

Proved:
- `surface_decides_declaration`: types with the same surface end alike, in the same declaration or the same fault; a
  declaration carries the surface of its type; and a type that fits is extracted.
- `dials_extracted_alike`: a class and a struct with the same members in another order and their attributes in other lists.
-/

namespace Typewright

open Syntax

/-! ## The surface -/

namespace Syntax

namespace Node

def isKind (word : String) (n : Node) : Bool :=
  match n.kind with
  | .ok kind => kind == some word
  | .error _ => false

/-- The same member, but for how the attributes of a method are grouped. -/
inductive Regrouped : Node → Node → Prop
  | same (n : Node) : Regrouped n n
  | method (identifier returnType : Piece) (ps : Option (List Syntax.Parameter)) (kind : Piece) {lists lists' : AttributeLists}
      (h : (lists.getD []).flatten = (lists'.getD []).flatten) :
    Regrouped (.methodNode identifier returnType ps lists kind) (.methodNode identifier returnType ps lists' kind)

end Node

def TypeNode.HasMembers (t : TypeNode) (ms : List Node) : Prop := t.members = some ms ∧ ∀ n ∈ ms, ∃ kind, n.kind = .ok kind

/-- Types in one namespace with the same name, bases, attributes, methods and properties. Their kinds, their other members and
how methods and properties are mixed may differ. -/
structure TypeNode.SameSurface (t u : TypeNode) : Prop where
  scope : ∃ scope, t.namespace? = some scope ∧ u.namespace? = some scope
  identifier : t.identifier = u.identifier
  bases : t.baseList = u.baseList
  attributes : (t.attributeLists.getD []).flatten = (u.attributeLists.getD []).flatten
  members : ∃ ms ns, t.HasMembers ms ∧ u.HasMembers ns ∧
    List.Forall₂ Node.Regrouped (ms.filter (Node.isKind "method")) (ns.filter (Node.isKind "method")) ∧
    ms.filter (Node.isKind "property") = ns.filter (Node.isKind "property")

end Syntax

/-! ## Extraction reads the surface -/

namespace Extraction

def readMethod (n : Node) : Except Misuse Method := n.identifier.bind (methodOf n)

theorem bind_eq_ok {α β ε : Type} {x : Except ε α} {f : α → Except ε β} {b : β} (h : x >>= f = .ok b) :
    ∃ a, x = .ok a ∧ f a = .ok b := by
  cases x with
  | error e => cases h
  | ok a => exact ⟨a, rfl, h⟩

theorem map_eq_ok {α β ε : Type} {x : Except ε α} {f : α → β} {b : β} (h : x.map f = .ok b) : ∃ a, x = .ok a ∧ f a = b := by
  cases x with
  | error e => cases h
  | ok a => exact ⟨a, rfl, Except.ok.inj h⟩

theorem mapM_cons_eq {α β ε : Type} (f : α → Except ε β) (x : α) (xs : List α) :
    (x :: xs).mapM f = (f x).bind fun y => (xs.mapM f).map (y :: ·) := by
  rw [List.mapM_cons]
  cases f x with
  | error e => rfl
  | ok y => cases xs.mapM f <;> rfl

/-- Lists that a reader takes alike one by one are read alike. -/
theorem mapM_alike {α β ε : Type} {R : α → α → Prop} {f : α → Except ε β} {xs ys : List α} (h : List.Forall₂ R xs ys)
    (hf : ∀ x y, R x y → f x = f y) : xs.mapM f = ys.mapM f := by
  induction h with
  | nil => rfl
  | cons hxy _ ih => rw [mapM_cons_eq, mapM_cons_eq, hf _ _ hxy, ih]

/-- What is read from a list stands for its items one by one. -/
theorem mapM_items {α β ε : Type} {f : α → Except ε β} {xs : List α} {ys : List β} (h : xs.mapM f = .ok ys) :
    List.Forall₂ (fun x y => f x = .ok y) xs ys := by
  induction xs generalizing ys with
  | nil =>
    cases h
    exact .nil
  | cons x xs ih =>
    rw [mapM_cons_eq] at h
    obtain ⟨y, hx, h⟩ := bind_eq_ok h
    obtain ⟨rest, hxs, hys⟩ := map_eq_ok h
    subst hys
    exact .cons hx (ih hxs)

/-- The methods are read from the members of their kind. -/
theorem methods_read (owner : Piece) {ms : List Node} (h : ∀ n ∈ ms, ∃ kind, n.kind = .ok kind) :
    (methods owner ms).2 = (ms.filter (Node.isKind "method")).mapM readMethod := by
  induction ms with
  | nil => rfl
  | cons n rest ih =>
    have ih := ih fun m hm => h m (List.mem_cons_of_mem n hm)
    obtain ⟨kind, hk⟩ := h n List.mem_cons_self
    rw [methods, hk]
    by_cases hm : kind = some "method"
    · have hkind : n.isKind "method" = true := by simp [Node.isKind, hk, hm]
      rw [List.filter_cons_of_pos hkind, mapM_cons_eq, readMethod, ← ih, hm]
      cases n.identifier with
      | error m => rfl
      | ok identifier => cases hr : methodOf n identifier <;> simp [Except.bind, hr]
    · have hkind : ¬ n.isKind "method" = true := by simp [Node.isKind, hk, hm]
      rw [List.filter_cons_of_neg hkind, ← ih]
      simp [hm]

/-- The properties are read from the members of their kind. -/
theorem properties_read {ms : List Node} (h : ∀ n ∈ ms, ∃ kind, n.kind = .ok kind) :
    properties ms = (ms.filter (Node.isKind "property")).mapM propertyOf := by
  induction ms with
  | nil => rfl
  | cons n rest ih =>
    have ih := ih fun m hm => h m (List.mem_cons_of_mem n hm)
    obtain ⟨kind, hk⟩ := h n List.mem_cons_self
    rw [properties, hk]
    by_cases hp : kind = some "property"
    · have hkind : n.isKind "property" = true := by simp [Node.isKind, hk, hp]
      rw [List.filter_cons_of_pos hkind, mapM_cons_eq, ← ih, hp]
      cases propertyOf n <;> simp [Except.bind]
    · have hkind : ¬ n.isKind "property" = true := by simp [Node.isKind, hk, hp]
      rw [List.filter_cons_of_neg hkind, ← ih]
      simp [hp]

def readSurface (t : TypeNode) (imports : List Piece) (scope : Piece) (ms : List Node) : Except Misuse Declaration := do
  let implementations ← implementations t.baseList
  let attributes ← (t.attributeLists.getD []).flatten.mapM plainAttribute
  let methods ← (ms.filter (Node.isKind "method")).mapM readMethod
  let properties ← (ms.filter (Node.isKind "property")).mapM propertyOf
  return { name := t.identifier, imports := some (imports ++ [scope]), keywords := some [some "public"],
           attributes := some attributes, implementations, methods := some methods, properties := some properties }

theorem inNamespace_read {t : TypeNode} {ms : List Node} (h : t.HasMembers ms) (imports : List Piece) (scope : Piece) :
    (inNamespace t imports scope).outcome = (readSurface t imports scope ms).mapError .misuse := by
  obtain ⟨hms, hkinds⟩ := h
  -- both read in one order: bases, attributes, methods, properties; so they fail at the same place
  have hm := methods_read t.identifier hkinds
  have hp := properties_read hkinds
  unfold inNamespace readSurface
  rw [← hm, ← hp, hms]
  cases implementations t.baseList with
  | error m => rfl
  | ok bases =>
    cases ha : attributes t.attributeLists with
    | error m =>
      rw [attributes] at ha
      simp only [ha]
      rfl
    | ok as =>
      rw [attributes] at ha
      simp only [ha]
      cases hr : methods t.identifier ms with
      | mk notes r =>
        cases r with
        | error m => rfl
        | ok methods => cases hq : properties ms <;> rfl

/-- How its attributes are grouped does not matter to a method. -/
theorem readMethod_regrouped {n m : Node} (h : n.Regrouped m) : readMethod n = readMethod m := by
  cases h with
  | same n => rfl
  | method identifier returnType ps kind hlists =>
    have hattributes := congrArg (List.mapM plainAttribute) hlists
    cases ps with
    | none => rfl
    | some ps => simp only [readMethod, Node.identifier, Except.bind, methodOf, Node.returnType, Node.parameters,
        Node.attributeLists, attributes, hattributes]

/-- Types with the same surface are extracted alike. -/
theorem inNamespace_alike {t u : TypeNode} (h : t.SameSurface u) (imports : List Piece) (scope : Piece) :
    (inNamespace t imports scope).outcome = (inNamespace u imports scope).outcome := by
  obtain ⟨ms, ns, hms, hns, hmethods, hproperties⟩ := h.members
  rw [inNamespace_read hms, inNamespace_read hns, readSurface, readSurface, h.identifier, h.bases, h.attributes, hproperties,
    mapM_alike hmethods fun n m hnm => readMethod_regrouped hnm]

end Extraction

/-! ## The surface in the declaration -/

/-- An attribute as it is carried over: without arguments where the source has no list of them, and else with as many, in
order, each without its quotes. -/
structure Attribute.Carried (a b : Attribute) : Prop where
  name : b.name = a.name
  bare : b.arguments = none ↔ a.arguments = none
  arguments : ∀ xs, a.arguments = some xs → ∃ ys, b.arguments = some ys ∧
    List.Forall₂ (fun x y => ∃ s, x = some s ∧ y = some (Text.stripQuotes s)) xs ys

structure Syntax.Parameter.Carried (p : Syntax.Parameter) (q : Typewright.Parameter) : Prop where
  name : q.name = p.identifier
  type : q.type = p.type

namespace Syntax

/-- Attributes as they are carried over: those of all lists, in order. -/
def AttributeLists.Carried (lists : AttributeLists) (as : Option (List Attribute)) : Prop :=
  ∃ bs, as = some bs ∧ List.Forall₂ Attribute.Carried (lists.getD []).flatten bs

structure Node.CarriedMethod (n : Node) (m : Method) : Prop where
  name : n.identifier = .ok m.name
  returnType : n.returnType = .ok m.returnType
  parameters : ∃ ps qs, n.parameters = .ok ps ∧ m.parameters = some qs ∧ List.Forall₂ Syntax.Parameter.Carried ps qs
  attributes : ∃ lists : AttributeLists, n.attributeLists = .ok lists ∧ lists.Carried m.attributes

structure Node.CarriedProperty (n : Node) (p : Property) : Prop where
  name : n.identifier = .ok p.name
  type : n.type = .ok p.type

/-- The declaration has the surface of a type: its attributes, and its methods and properties one for one. -/
structure TypeNode.Carries (t : TypeNode) (d : Declaration) : Prop where
  attributes : t.attributeLists.Carried d.attributes
  methods : ∃ ms, d.methods = some ms ∧
    List.Forall₂ Node.CarriedMethod ((t.members.getD []).filter (Node.isKind "method")) ms
  properties : ∃ ps, d.properties = some ps ∧
    List.Forall₂ Node.CarriedProperty ((t.members.getD []).filter (Node.isKind "property")) ps

end Syntax

namespace Extraction

theorem argument_carried {x y : Piece} (h : argument x = .ok y) : ∃ s, x = some s ∧ y = some (Text.stripQuotes s) := by
  cases x with
  | none => cases h
  | some s =>
    cases h
    exact ⟨s, rfl, rfl⟩

theorem plainAttribute_carried {a b : Attribute} (h : plainAttribute a = .ok b) : a.Carried b := by
  obtain ⟨name, arguments⟩ := a
  cases arguments with
  | none =>
    cases h
    exact ⟨rfl, Iff.rfl, by simp⟩
  | some xs =>
    obtain ⟨ys, hx, hb⟩ := map_eq_ok h
    subst hb
    refine ⟨rfl, by simp, ?_⟩
    intro zs hz
    cases hz
    exact ⟨ys, rfl, (mapM_items hx).imp fun _ _ => argument_carried⟩

theorem attributes_carried {lists : AttributeLists} {bs : List Attribute} (h : attributes lists = .ok bs) :
    lists.Carried (some bs) :=
  ⟨bs, rfl, (mapM_items h).imp fun _ _ => plainAttribute_carried⟩

theorem readMethod_carried {n : Node} {m : Method} (h : readMethod n = .ok m) : n.CarriedMethod m := by
  obtain ⟨identifier, hi, h⟩ := bind_eq_ok h
  unfold methodOf at h
  split at h
  · cases h
  · rename_i returnType hr
    split at h
    · cases h
    · rename_i ps hp
      split at h
      · cases h
      · rename_i lists hl
        obtain ⟨as, ha, hm⟩ := map_eq_ok h
        have hparameters : List.Forall₂ Syntax.Parameter.Carried ps
            (ps.map fun p => { name := p.identifier, type := p.type }) :=
          List.forall₂_map_right_iff.mpr (List.forall₂_same.mpr fun p _ => ⟨rfl, rfl⟩)
        subst hm
        exact ⟨hi, hr, ⟨ps, _, hp, rfl, hparameters⟩, lists, hl, attributes_carried ha⟩

theorem propertyOf_carried {n : Node} {p : Property} (h : propertyOf n = .ok p) : n.CarriedProperty p := by
  unfold propertyOf at h
  split at h
  · cases h
  · rename_i identifier hi
    obtain ⟨type, ht, hp⟩ := map_eq_ok h
    subst hp
    exact ⟨hi, ht⟩

/-- A declaration that is read from a surface has all of it. -/
theorem readSurface_carries {t : TypeNode} {imports : List Piece} {scope : Piece} {ms : List Node} {d : Declaration}
    (hms : t.members = some ms) (h : readSurface t imports scope ms = .ok d) : t.Carries d := by
  obtain ⟨bases, -, h⟩ := bind_eq_ok h
  obtain ⟨as, ha, h⟩ := bind_eq_ok h
  obtain ⟨methods, hm, h⟩ := bind_eq_ok h
  obtain ⟨properties, hp, h⟩ := bind_eq_ok h
  cases h
  refine ⟨attributes_carried ha, ⟨methods, rfl, ?_⟩, properties, rfl, ?_⟩
  · rw [hms]
    exact (mapM_items hm).imp fun _ _ => readMethod_carried
  · rw [hms]
    exact (mapM_items hp).imp fun _ _ => propertyOf_carried

end Extraction

namespace Syntax.TypeNode

theorem extract_carries {t : TypeNode} {ms : List Node} (hms : t.HasMembers ms) {imports : List Piece} {d : Declaration}
    (h : (t.extract imports).outcome = .ok d) : t.Carries d := by
  unfold extract at h
  cases hs : t.namespace? with
  | none =>
    rw [hs] at h
    cases h
  | some scope =>
    simp only [hs, Extraction.inNamespace_read hms] at h
    cases hr : Extraction.readSurface t imports scope ms with
    | error m =>
      rw [hr] at h
      cases h
    | ok e =>
      rw [hr] at h
      cases h
      exact Extraction.readSurface_carries hms.1 hr

/-- Extraction depends on the surface of a type alone and keeps all of it: types with the same surface end alike, in the same
    declaration or the same fault, and a declaration has the attributes, methods and properties of its type one for one, in
    order. A type that fits is extracted. -/
theorem surface_decides_declaration {t u : TypeNode} (h : t.SameSurface u) (imports : List Piece) :
    (t.extract imports).outcome = (u.extract imports).outcome ∧
      (∀ d, (t.extract imports).outcome = .ok d → t.Carries d ∧ u.Carries d) ∧
      (t.Fits → ∃ d, (t.extract imports).outcome = .ok d) := by
  obtain ⟨ms, ns, hms, hns, -⟩ := h.members
  obtain ⟨scope, ht, hu⟩ := h.scope
  have halike : (t.extract imports).outcome = (u.extract imports).outcome := by
    simp only [extract, ht, hu]
    exact Extraction.inNamespace_alike h imports scope
  refine ⟨halike, ?_, ?_⟩
  · intro d hd
    exact ⟨extract_carries hms hd, extract_carries hns (halike ▸ hd)⟩
  · intro hfit
    rw [extract_outcome hfit, ht]
    exact ⟨_, rfl⟩

def dial (kind : String) (attributeLists methodLists : List (List Attribute)) (mix : Node → Node → List Node) : TypeNode where
  identifier := some "Dial"
  kind := some kind
  attributeLists := some attributeLists
  members := some (mix
    (.methodNode (some "Turn") (some "void") (some [⟨some "angle", some "int"⟩]) (some methodLists) (some "method"))
    (.propertyNode (some "Angle") (some "int") (some "property")))
  parent := some (.scope (some "Plant") (some "namespace"))

def dialClass : TypeNode :=
  dial "class" [[⟨some "Serializable", none⟩], [⟨some "Obsolete", some [some "\"old\""]⟩]]
    [[⟨some "Pure", some []⟩], [], [⟨some "Fast", none⟩]] fun m p => [m, .member (some "") (some "other"), p]

/-- A struct with its attributes together, its members the other way round and a constructor at the end. -/
def dialStruct : TypeNode :=
  dial "struct" [[⟨some "Serializable", none⟩, ⟨some "Obsolete", some [some "\"old\""]⟩]]
    [[⟨some "Pure", some []⟩, ⟨some "Fast", none⟩]] fun m p => [p, m, .member (some "Dial") (some "other")]

theorem dials_extracted_alike :
    dialClass.SameSurface dialStruct ∧ dialClass.Fits ∧
      ∃ d, (dialClass.extract [some "System"]).outcome = .ok d ∧ (dialStruct.extract [some "System"]).outcome = .ok d ∧
        dialStruct.Carries d ∧ d.attributes.map (·.map fun a => a.arguments) = some [none, some [some "old"]] := by
  have hsame : dialClass.SameSurface dialStruct := by
    refine ⟨⟨_, rfl, rfl⟩, rfl, rfl, rfl, _, _, ⟨rfl, ?_⟩, ⟨rfl, ?_⟩, ?_, rfl⟩
    · simp [Node.kind]
    · simp [Node.kind]
    · exact .cons (.method _ _ _ _ rfl) .nil
  have hfits : dialClass.Fits := by
    refine ⟨by simp [dialClass, dial], ?_, _, rfl, ?_⟩
    · simp [dialClass, dial, AttributeLists.HaveTexts, Attribute.HasTexts]
    · simp only [List.forall_mem_cons, List.not_mem_nil, false_imp_iff, implies_true, and_true]
      refine ⟨.method _ _ _ ?_, .other rfl (by simp) (by simp), .property _ _⟩
      simp [AttributeLists.HaveTexts, Attribute.HasTexts]
  obtain ⟨halike, hcarries, hexists⟩ := surface_decides_declaration hsame [some "System"]
  obtain ⟨d, hd⟩ := hexists hfits
  refine ⟨hsame, hfits, d, hd, halike ▸ hd, (hcarries d hd).2, ?_⟩
  cases hd
  decide +kernel

end Syntax.TypeNode

end Typewright
