import Typewright.Proofs.Declared
import Typewright.Proofs.SpelledFile
import Typewright.Proofs.TypeTrees

/-!
Writing a declaration and reading the text back.

Of a plain declaration exactly one declaration comes back, its surface (`Declaration.surface`): the name, the bases and the
attributes, the methods that are no constructors and the properties, all of them public and without bodies, with the
namespace as the last of the imports. Constants, constructors and nested types do not come back, and neither does whether it
was a class or an interface, since what is extracted is always a class. The arguments of an attribute come back as one text,
with commas where they were joined.

The way goes through all of the program:
- the text is written, and is cut into the lexemes of the declaration (`lex_file`);
- the tokens are matched, and of the types in the trees one stands in a namespace (`file_types`);
- it is listed, and those nested in it are passed over;
- it is extracted, and what is extracted is the surface (`inNamespace_typeIn`).

Proved, for plain declarations with any members, nested to any depth, and any imports that are known already: `read_back`.
What makes it true is what plain declarations are, so it matters that this asks no more than it has to. The return type of a
constructor stands where the name of its type is read, so it has to be a name: with a keyword for it, which any other method
may return, the text is not read at all (`keyword_constructor_not_read`).

`catalog_read_back` is a case with a base, an attribute, a constant, a property, a constructor, a method and a nested
interface.
-/

namespace Typewright

open Syntax Source

/-! ## Surfaces -/

/-- An attribute as it comes back: its arguments are one text. -/
def Attribute.surface (a : Attribute) : Attribute where
  name := a.name
  arguments :=
    match a.arguments.getD [] with
    | [] => none
    | arguments => some [some (String.intercalate "," (arguments.map Piece.shown))]

def Property.surface (p : Property) : Property := { name := p.name, type := p.type }

/-- A method as it comes back: public, with an empty body. -/
def Method.surface (m : Method) : Method where
  name := m.name
  returnType := m.returnType
  keywords := some [some "public"]
  parameters := some ((m.parameters.getD []).map fun p => { name := p.name, type := p.type })
  body := some []
  attributes := some ((m.attributes.getD []).map Attribute.surface)

/-- A declaration as it comes back, when `imports` are known already. -/
def Declaration.surface (imports : List Piece) (d : Declaration) : Declaration where
  name := d.name
  imports := some (imports ++ [d.namespace])
  keywords := some [some "public"]
  attributes := some ((d.attributes.getD []).map Attribute.surface)
  implementations := d.implementations
  methods := some (((d.methods.getD []).filter fun m => !m.isConstructor).map Method.surface)
  properties := some ((d.properties.getD []).map Property.surface)

theorem Piece.Has.eq {good : String → Prop} {p : Piece} (h : p.Has good) : some p.shown = p := by
  obtain ⟨s, rfl, -⟩ := h
  rfl

/-! ## Parts -/

namespace Extraction

theorem stripQuotes_quoted {arguments : List Piece} (h : ∀ x ∈ arguments, x.Has fun s => ∀ c ∈ s.toList, isQuotable c = true) :
    Text.stripQuotes (Attribute.quoted arguments) = String.intercalate "," (arguments.map Piece.shown) := by
  have hsep : "," = String.singleton ',' := rfl
  have hkeep : ∀ c ∈ joined ',' (arguments.map Piece.shown), (c != '"') = true := by
    intro c hc
    rcases mem_joined hc with rfl | ⟨w, hw, hc⟩
    · decide
    · obtain ⟨x, hx, rfl⟩ := List.mem_map.mp hw
      have hquotable := (h x hx).shown c hc
      rw [isQuotable, Bool.and_eq_true, Bool.and_eq_true] at hquotable
      exact hquotable.1.2
  apply String.toList_inj.mp
  rw [Text.stripQuotes, String.toList_ofList, Attribute.quoted_chars, hsep, intercalate_chars,
    List.filter_cons_of_neg (by decide),
    List.filter_append, List.filter_eq_self.mpr hkeep]
  exact List.append_nil _

theorem plainAttribute_inSource {a : Attribute} (ha : a.Plain) : plainAttribute a.inSource = .ok a.surface := by
  have hargs := ha.arguments
  unfold plainAttribute Attribute.inSource Attribute.surface
  cases h : a.arguments.getD [] with
  | nil => simp only [ha.name.eq]
  | cons x xs =>
    rw [h] at hargs
    simp only [ha.name.eq, ← stripQuotes_quoted hargs]
    rfl

theorem attributes_inSource {as : List Attribute} (h : ∀ a ∈ as, a.Plain) :
    attributes (some (as.map fun a => [a.inSource])) = .ok (as.map Attribute.surface) := by
  have hflat : (as.map fun a => [a.inSource]).flatten = as.map Attribute.inSource := by
    induction as with
    | nil => rfl
    | cons a as ih => simp [ih fun b hb => h b (by simp [hb])]
  rw [attributes, Option.getD_some, hflat]
  clear hflat
  induction as with
  | nil => rfl
  | cons a as ih =>
    rw [List.map_cons, List.mapM_cons, plainAttribute_inSource (h a (by simp)), ih fun b hb => h b (by simp [hb])]
    rfl

theorem implementations_bases {d : Declaration} : implementations (basesIn d) = .ok d.implementations := by
  unfold basesIn
  cases hi : d.implementations with
  | none => rfl
  | some i =>
    have hsep : "," = String.singleton ',' := rfl
    have hjoin : String.intercalate "," (parts ',' i) = i := by
      apply String.toList_inj.mp
      rw [hsep, intercalate_chars, joined, parts_chars]
    rw [Option.map_some, implementations, joinTexts, joinFrom_texts "," 0 (by simp)]
    have hshown : ((parts ',' i).map some).map Piece.shown = parts ',' i := by rw [List.map_map]; exact List.map_id _
    rw [hshown]
    exact congrArg (Except.ok ∘ some) hjoin

theorem methods_skip {owner : Piece} {a : List Node} (h : ∀ n ∈ a, ∃ k, n.kind = .ok k ∧ k ≠ some "method") (b : List Node) :
    methods owner (a ++ b) = methods owner b := by
  induction a with
  | nil => rfl
  | cons n a ih =>
    obtain ⟨k, hk, hne⟩ := h n (by simp)
    have hskip : (k != some "method") = true := bne_iff_ne.mpr hne
    rw [List.cons_append, methods, hk]
    simp only [hskip, if_true]
    exact ih fun m hm => h m (by simp [hm])

theorem properties_skip {a : List Node} (h : ∀ n ∈ a, ∃ k, n.kind = .ok k ∧ k ≠ some "property") (b : List Node) :
    properties (a ++ b) = properties b := by
  induction a with
  | nil => rfl
  | cons n a ih =>
    obtain ⟨k, hk, hne⟩ := h n (by simp)
    have hskip : (k != some "property") = true := bne_iff_ne.mpr hne
    rw [List.cons_append, properties, hk]
    simp only [hskip, if_true]
    exact ih fun m hm => h m (by simp [hm])

theorem methodOf_method {m : Method} (hm : m.Plain isIdentifier) (hcons : m.isConstructor = false) :
    methodOf (methodIn m) m.name = .ok m.surface := by
  obtain ⟨ps, hps, hparameters⟩ := hm.parameters
  have hparams : (parametersOf ps).map (fun p => ({ name := p.identifier, type := p.type } : Parameter)) =
      ps.map fun p => { name := p.name, type := p.type } := by
    rw [parametersOf, List.map_map]
    refine List.map_congr_left fun p hp => ?_
    simp [(hparameters p hp).name.eq, (hparameters p hp).type.eq]
  simp only [methodIn, hcons, Bool.false_eq_true, if_false, methodOf, Node.returnType, Node.parameters, Node.attributeLists]
  rw [attributes_inSource hm.attributes, hps, Option.getD_some, hm.returnType.eq, hparams, Method.surface, hps]
  rfl

/-- The methods of a body come back without the constructors. -/
theorem methods_in {owner : Piece} {ms : List Method} (h : ∀ m ∈ ms, m.Plain isIdentifier) :
    (methods owner (ms.flatMap fun m => [methodIn m])).2 = .ok ((ms.filter fun m => !m.isConstructor).map Method.surface) := by
  induction ms with
  | nil => rfl
  | cons m ms ih =>
    have ih := ih fun n hn => h n (by simp [hn])
    have hm := h m (by simp)
    rw [List.flatMap_cons]
    cases hcons : m.isConstructor with
    | true =>
      have hother : ∀ n ∈ [methodIn m], ∃ k, n.kind = .ok k ∧ k ≠ some "method" := by simp [methodIn, hcons, Node.kind]
      rw [methods_skip hother, ih, List.filter_cons_of_neg (by simp [hcons])]
    | false =>
      have hkind : (methodIn m).kind = .ok (some "method") := by simp [methodIn, hcons, Node.kind]
      have hid : (methodIn m).identifier = .ok m.name := by simp [methodIn, hcons, Node.identifier, (hm.name hcons).eq]
      rw [List.singleton_append, methods, hkind, hid]
      simp only [bne_self_eq_false, Bool.false_eq_true, if_false, methodOf_method hm hcons, ih]
      rw [List.filter_cons_of_pos (by simp [hcons])]
      rfl

theorem properties_in {ps : List Property} (h : ∀ p ∈ ps, p.Plain) {b : List Node} (hb : properties b = .ok []) :
    properties (ps.flatMap (fun p => [.propertyNode (some p.name.shown) (some p.type.shown) (some "property")]) ++ b) =
      .ok (ps.map Property.surface) := by
  induction ps with
  | nil => exact hb
  | cons p ps ih =>
    have ih := ih fun q hq => h q (by simp [hq])
    have hp := h p (by simp)
    rw [List.flatMap_cons, List.append_assoc, List.singleton_append, properties]
    simp only [Node.kind, bne_self_eq_false, Bool.false_eq_true, if_false, propertyOf, Node.identifier, Node.type, Except.map, ih,
      hp.name.eq, hp.type.eq, List.map_cons, Property.surface]

/-- Nodes that all have a kind, and another than `word`. -/
theorem kinds_ne {α : Type} {xs : List α} {f : α → Node} {word : String} (h : ∀ x ∈ xs, ∃ k, (f x).kind = .ok k ∧ k ≠ some word) :
    ∀ n ∈ xs.flatMap (fun x => [f x]), ∃ k, n.kind = .ok k ∧ k ≠ some word := by
  intro n hn
  obtain ⟨x, hx, hn⟩ := List.mem_flatMap.mp hn
  rw [List.mem_singleton.mp hn]
  exact h x hx

/-- The members of a plain type give back its methods and its properties. -/
theorem members_in {d : Declaration} (hd : d.PlainType isIdentifier) (owner : Piece) :
    (methods owner (membersIn d)).2 = .ok (((d.methods.getD []).filter fun m => !m.isConstructor).map Method.surface) ∧
      properties (membersIn d) = .ok ((d.properties.getD []).map Property.surface) := by
  unfold membersIn
  constructor
  · rw [methods_skip (kinds_ne fun _ _ => ⟨_, rfl, by simp⟩), methods_skip (kinds_ne fun _ _ => ⟨_, rfl, by simp⟩),
      methods_skip (kinds_ne fun _ _ => ⟨_, rfl, by simp⟩)]
    exact methods_in hd.methods
  · rw [properties_skip (kinds_ne fun _ _ => ⟨_, rfl, by simp⟩), properties_skip (kinds_ne fun _ _ => ⟨_, rfl, by simp⟩)]
    refine properties_in hd.properties ?_
    have hkinds : ∀ m ∈ d.methods.getD [], ∃ k, (methodIn m).kind = .ok k ∧ k ≠ some "property" := by
      intro m _
      rw [methodIn]
      split <;> exact ⟨_, rfl, by simp⟩
    have hskip := properties_skip (kinds_ne hkinds) []
    rw [List.append_nil] at hskip
    rw [hskip]
    rfl

/-- What comes back of a plain type in a namespace. -/
theorem inNamespace_typeIn {d : Declaration} (hd : d.PlainType isIdentifier) (parent : Node) (imports : List Piece) :
    (inNamespace (typeIn parent d) imports d.namespace).outcome = .ok (d.surface imports) := by
  obtain ⟨as, has, hattributes⟩ := hd.attributes
  obtain ⟨hmethods, hproperties⟩ := members_in hd (some d.name.shown)
  unfold inNamespace
  simp only [typeIn, implementations_bases]
  rw [has, Option.getD_some, attributes_inSource hattributes]
  cases hm : methods (some d.name.shown) (membersIn d) with
  | mk notes r =>
    rw [hm] at hmethods
    subst hmethods
    simp only [hproperties, hd.name.eq, Declaration.surface, has, Option.getD_some]

end Extraction

/-! ## Declarations -/

namespace Declaration

/-- Of a plain declaration that is written and read back, exactly its surface comes back. -/
theorem read_back {d : Declaration} (hd : d.Plain isIdentifier) (imports : List Piece) :
    ∃ text, (d.render 0 {}).outcome = .ok text ∧ (Source.extract text imports).outcome = .ok [d.surface imports] := by
  obtain ⟨text, lead, ts, hrender, hlex, hled⟩ := lex_file hd
  obtain ⟨trees, inner, htrees, hinner, htypes⟩ := file_types hd hled
  refine ⟨text, hrender, ?_⟩
  have hread : types? text = some (typeIn (namespaceScope d.namespace.shown) d :: inner) := by
    rw [types?, read?, hlex, Option.bind_some, htrees, Option.map_some, htypes]
  have hscope : (typeIn (namespaceScope d.namespace.shown) d).namespace? = some d.namespace := by
    rw [← hd.scope.eq]
    rfl
  have hextracted : ((typeIn (namespaceScope d.namespace.shown) d).extract imports).outcome = .ok (d.surface imports) := by
    rw [TypeNode.extract, hscope]
    exact Extraction.inNamespace_typeIn (everywhere_iff.mp hd.everywhere).1 _ imports
  have hlisted : ∀ t ∈ typeIn (namespaceScope d.namespace.shown) d :: inner, t.Fits ∧ Scoped t := by
    rw [← htypes]
    exact treeTypes_listed Surroundings.areScopes_none trees
  have hdeclared : (typeIn (namespaceScope d.namespace.shown) d).declared? imports = some (d.surface imports) := by
    have houtcome := TypeNode.extract_outcome (hlisted _ List.mem_cons_self).1 imports
    rw [hscope, hextracted, Except.ok.injEq] at houtcome
    rw [TypeNode.declared?, hscope, Option.map_some, houtcome]
  have hnone : inner.filterMap (TypeNode.declared? imports) = [] := by
    refine List.filterMap_eq_nil_iff.mpr fun t ht => ?_
    rw [TypeNode.declared?, hinner t ht, Option.map_none]
  rw [Source.extract, listTypes, hread]
  show (extractTypes imports _).outcome = _
  rw [extractTypes_outcome imports hlisted, List.filterMap_cons_some hdeclared, hnone]

/-- A class with a base, an attribute, a constant, a property, a constructor and a method, and an interface in it. -/
def catalog : Declaration where
  name := some "Catalog"
  «namespace» := some "Shop.Data"
  imports := some [some "System"]
  keywords := some [some "public", some "sealed"]
  attributes := some [{ name := some "Table", arguments := some [some "items", some "by name"] }]
  implementations := some "Base,IStore"
  constants := some [{ name := some "Limit", type := some "int", value := .int (-3) }]
  properties := some [{ name := some "Count", type := some "long", access := some "internal" }]
  methods := some
    [{ name := none, returnType := some "Catalog", keywords := some [some "public"],
        parameters := some [{ name := some "size", type := some "int" }], baseArguments := some [some "size"] },
      { name := some "Find", returnType := some "Item", parameters := some [{ name := some "key", type := some "string" }] }]
  innerClasses := some [{ name := some "IEntry", isInterface := true, isNested := true }]

theorem catalog_plain : catalog.Plain isIdentifier := by
  have hwords : ∀ w ∈ ["Catalog", "Table", "Base", "IStore", "Limit", "Count", "size", "Find", "Item", "key", "IEntry"],
      isIdentifier w = true := by decide +kernel
  have htypes : ∀ w ∈ ["int", "long", "string", "Item"], isTypeName w = true := by decide +kernel
  have hentry : PlainType isIdentifier { name := some "IEntry", isInterface := true, isNested := true } :=
    ⟨⟨_, rfl, hwords "IEntry" (by simp)⟩, by simp, ⟨[], rfl, by simp⟩, ⟨[], rfl, by simp⟩, by simp, by simp, by simp, by simp,
      by simp, by simp⟩
  have hfind : Method.Plain isIdentifier
      { name := some "Find", returnType := some "Item", parameters := some [{ name := some "key", type := some "string" }] } :=
    ⟨fun _ => ⟨_, rfl, hwords "Find" (by simp)⟩, ⟨_, rfl, htypes "Item" (by simp)⟩, ⟨[], rfl, by simp⟩,
      ⟨_, rfl, by simpa using ⟨⟨_, rfl, hwords "key" (by simp)⟩, ⟨_, rfl, htypes "string" (by simp)⟩⟩⟩, rfl, by simp, by simp,
      fun _ => rfl⟩
  have hcatalog : Method.Plain isIdentifier
      { name := none, returnType := some "Catalog", keywords := some [some "public"],
        parameters := some [{ name := some "size", type := some "int" }], baseArguments := some [some "size"] } :=
    ⟨by simp [Method.isConstructor], ⟨_, rfl, hwords "Catalog" (by simp)⟩, ⟨_, rfl, by simpa using ⟨_, rfl, by decide⟩⟩,
      ⟨_, rfl, by simpa using ⟨⟨_, rfl, hwords "size" (by simp)⟩, ⟨_, rfl, htypes "int" (by simp)⟩⟩⟩, rfl, by simp,
      by simpa using ⟨_, rfl, hwords "size" (by simp)⟩, by simp [Method.isConstructor]⟩
  refine ⟨everywhere_iff.mpr ⟨?_, ?_⟩, rfl, ⟨_, rfl, by decide +kernel⟩, ?_⟩
  · refine ⟨⟨_, rfl, hwords "Catalog" (by simp)⟩, by simp [catalog], ⟨_, rfl, by simp [Piece.Has, plainModifiers]⟩,
      ⟨_, rfl, ?_⟩, ?_,
      ?_, ?_, by simpa [catalog] using ⟨hcatalog, hfind⟩, by simp [catalog], by simp [catalog]⟩
    · have hquotable : ∀ w ∈ ["items", "by name"], w.toList.all isQuotable = true := by decide +kernel
      simpa using ⟨⟨_, rfl, hwords "Table" (by simp)⟩, by
        simpa using ⟨⟨_, rfl, List.all_eq_true.mp (hquotable "items" (by simp))⟩,
          ⟨_, rfl, List.all_eq_true.mp (hquotable "by name" (by simp))⟩⟩⟩
    · intro i hi
      obtain rfl : "Base,IStore" = i := Option.some.inj hi
      decide +kernel
    · simpa [catalog] using ⟨⟨_, rfl, hwords "Limit" (by simp)⟩, ⟨_, rfl, htypes "int" (by simp)⟩, ⟨_, rfl, by decide⟩, trivial⟩
    · simpa [catalog] using ⟨⟨_, rfl, hwords "Count" (by simp)⟩, ⟨_, rfl, htypes "long" (by simp)⟩, ⟨_, rfl, by decide⟩, by simp⟩
  · intro c hc
    obtain rfl := List.mem_singleton.mp hc
    exact everywhere_iff.mpr ⟨hentry, by simp [nestedIn]⟩
  · simpa [catalog] using ⟨_, rfl, by decide +kernel⟩

/-- Its constructor, its constant and the interface do not come back, and the arguments of its attribute are one text. -/
theorem catalog_read_back :
    let back : Declaration :=
      { name := some "Catalog"
        imports := some [some "Shop", some "Shop.Data"]
        keywords := some [some "public"]
        attributes := some [{ name := some "Table", arguments := some [some "items,by name"] }]
        implementations := some "Base,IStore"
        methods := some
          [{ name := some "Find", returnType := some "Item", keywords := some [some "public"],
              parameters := some [{ name := some "key", type := some "string" }], attributes := some [] }]
        properties := some [{ name := some "Count", type := some "long" }] }
    ∃ text, (catalog.render 0 {}).outcome = .ok text ∧ (Source.extract text [some "Shop"]).outcome = .ok [back] := by
  obtain ⟨text, hrender, hextract⟩ := read_back catalog_plain [some "Shop"]
  exact ⟨text, hrender, hextract⟩

def constructing (t : String) : Declaration where
  name := some "Foo"
  «namespace» := some "N"
  keywords := some [some "public"]
  methods := some [{ name := some "", returnType := some t, keywords := some [some "public"] }]

theorem constructing_plain {constructed : String → Bool} {t : String} (ht : constructed t = true) :
    (constructing t).Plain constructed := by
  have hpublic : Piece.Has (· ∈ plainModifiers) (some "public") := ⟨"public", rfl, by decide⟩
  have hmethod : Method.Plain constructed { name := some "", returnType := some t, keywords := some [some "public"] } := by
    have hcons : Method.isConstructor { name := some "", returnType := some t, keywords := some [some "public"] } = true := rfl
    refine ⟨fun h => ?_, ⟨t, rfl, by rwa [hcons]⟩, ⟨_, rfl, by simpa using hpublic⟩, ⟨[], rfl, by simp⟩, rfl, by simp,
      by simp, fun _ => rfl⟩
    rw [hcons] at h
    cases h
  refine ⟨everywhere_iff.mpr ⟨?_, by simp [constructing, nestedIn]⟩, rfl, ⟨"N", rfl, by decide +kernel⟩, by simp [constructing]⟩
  exact ⟨⟨"Foo", rfl, by decide +kernel⟩, by simp [constructing], ⟨_, rfl, by simpa using hpublic⟩, ⟨[], rfl, by simp⟩,
    by simp [constructing], by simp [constructing], by simp [constructing], by simpa [constructing] using hmethod,
    by simp [constructing], by simp [constructing]⟩

/-- A keyword may be a type, but a constructor with one for its name is not read back. -/
theorem keyword_constructor_not_read :
    ¬ ∀ (d : Declaration) (imports : List Piece), d.Plain isTypeName →
      ∃ text, (d.render 0 {}).outcome = .ok text ∧ (Source.extract text imports).outcome = .ok [d.surface imports] := by
  intro h
  have hplain : (constructing "int").Plain isTypeName := constructing_plain (by decide +kernel)
  obtain ⟨text, hrender, hextract⟩ := h (constructing "int") [] hplain
  have htexts : (constructing "int").TextArguments := fun c hc => (hplain.everywhere c hc).hasTexts
  have hwritten : ((constructing "int").render 0 {}).outcome =
      .ok (layoutText "\t" "\n" 0 (Script.scriptLines "// Auto-generated code" (constructing "int"))) :=
    outcome_complete htexts (fun c hc => (hplain.everywhere c hc).complete) 0 {} "\t" rfl
  rw [hwritten, Script.scriptLines, Script.typeLines_eq htexts] at hrender
  have htext : text = "// Auto-generated code\n\nnamespace N\n\x7b\n\tpublic class Foo\n\t\x7b\n\n"
      ++ "\t\tpublic int()\n\t\t\x7b\n\t\t\x7d\n\n\t\x7d\n\x7d\n" := by
    rw [← Except.ok.inj hrender]
    decide +kernel
  have hread : (read? text).isNone = true := by
    rw [htext]
    decide +kernel
  rw [Source.extract, listTypes, types?, Option.isNone_iff_eq_none.mp hread] at hextract
  cases hextract

end Declaration

end Typewright
