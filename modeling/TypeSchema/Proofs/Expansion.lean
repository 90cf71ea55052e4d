import TypeSchema.Proofs.BreadthFirst
import TypeSchema.Proofs.Nesting

namespace TypeSchema

namespace OrderedMap

variable {κ ν : Type} [DecidableEq κ]

theorem ofList_concat (es : List (κ × ν)) (e : κ × ν) :
    ofList (es ++ [e]) = (ofList es).put e.1 e.2 :=
  List.foldl_concat ..

/-- A repeated key keeps its first position. -/
theorem keys_ofList (es : List (κ × ν)) : (ofList es).keys = (es.map Prod.fst).eraseDups := by
  induction es using List.reverseRecOn with
  | nil => rfl
  | append_singleton es e ih =>
    rw [ofList_concat, keys_put, ih, List.map_append, List.map_singleton, eraseDups_concat]
    simp only [List.mem_eraseDups]

/-- A repeated key takes its last value. -/
theorem get?_ofList (es : List (κ × ν)) (k : κ) :
    (ofList es).get? k = (es.filter (·.1 = k)).getLast?.map Prod.snd := by
  induction es using List.reverseRecOn with
  | nil => rfl
  | append_singleton es e ih =>
    rw [ofList_concat, get?_put, ih, List.filter_append]
    by_cases hk : e.1 = k
    · simp [hk]
    · simp [hk, Ne.symm hk]

end OrderedMap

namespace Field

/-- A field whose tag gives it no JSON name or an empty one. -/
def LacksJsonName (f : Field TypeExpr) : Prop := ∀ name, f.jsonName? = some name → name = ""

/-- The name of the property that a field stands for. -/
inductive PropertyNamed (f : Field TypeExpr) : String → Prop where
  | json {name : String} (hj : f.jsonName? = some name) (hn : name ≠ "") : PropertyNamed f name
  | field (hj : f.LacksJsonName) (hn : f.name ≠ "") : PropertyNamed f f.name
  | ident {own name : String} (hj : f.LacksJsonName) (hn : f.name = "")
    (ht : f.type.stripPointers = .ident own name) : PropertyNamed f name
  | text (hj : f.LacksJsonName) (hn : f.name = "")
    (ht : ∀ own name, f.type.stripPointers ≠ .ident own name) :
    PropertyNamed f f.type.stripPointers.text

variable {f : Field TypeExpr}

theorem isHidden_eq_true_iff : f.isHidden = true ↔ f.jsonName? = some "-" := decide_eq_true_iff

theorem isHidden_eq_false_iff : f.isHidden = false ↔ f.jsonName? ≠ some "-" :=
  decide_eq_false_iff_not

theorem lacksJsonName_iff : f.LacksJsonName ↔ f.hasJsonName = false := by
  unfold LacksJsonName hasJsonName
  cases f.jsonName? with
  | none => simp
  | some name => simp

theorem propertyName_of_lacks (h : f.LacksJsonName) : f.propertyName = f.writtenName := by
  unfold propertyName
  cases hj : f.jsonName? with
  | none => rfl
  | some name =>
    obtain rfl := h name hj
    rfl

theorem writtenName_of_named (hn : f.name ≠ "") : f.writtenName = f.name := by
  simp [writtenName, isEmbedded, hn]

theorem writtenName_of_ident {own name : String} (hn : f.name = "")
    (ht : f.type.stripPointers = .ident own name) : f.writtenName = name := by
  simp [writtenName, isEmbedded, hn, ht]

theorem writtenName_of_no_ident (hn : f.name = "")
    (ht : ∀ own name, f.type.stripPointers ≠ .ident own name) :
    f.writtenName = f.type.stripPointers.text := by
  cases hs : f.type.stripPointers with
  | ident own name => exact absurd hs (ht own name)
  | _ => simp [writtenName, isEmbedded, hn, hs]

theorem propertyName_of_named {name : String} (h : f.PropertyNamed name) :
    f.propertyName = name := by
  cases h with
  | json hj hn => simp [propertyName, hj, hn]
  | field hj hn => rw [propertyName_of_lacks hj, writtenName_of_named hn]
  | ident hj hn ht => rw [propertyName_of_lacks hj, writtenName_of_ident hn ht]
  | text hj hn ht => rw [propertyName_of_lacks hj, writtenName_of_no_ident hn ht]

theorem exists_propertyNamed (f : Field TypeExpr) : ∃ name, f.PropertyNamed name := by
  by_cases hj : f.LacksJsonName
  · by_cases hn : f.name = ""
    · by_cases ht : ∃ own name, f.type.stripPointers = .ident own name
      · obtain ⟨own, name, ht⟩ := ht
        exact ⟨name, .ident hj hn ht⟩
      · push Not at ht
        exact ⟨_, .text hj hn ht⟩
    · exact ⟨f.name, .field hj hn⟩
  · unfold LacksJsonName at hj
    push Not at hj
    obtain ⟨name, hj, hn⟩ := hj
    exact ⟨name, .json hj hn⟩

theorem propertyNamed_propertyName (f : Field TypeExpr) : f.PropertyNamed f.propertyName := by
  obtain ⟨name, h⟩ := f.exists_propertyNamed
  rw [propertyName_of_named h]
  exact h

end Field

namespace Registry

/-- The field `f`, seen from the module at `path`, embeds the declared struct `d`. -/
structure Embeds (r : Registry) (path : String) (f : Field TypeExpr) (d : TypeDecl)
    (inner : List (Field TypeExpr)) : Prop where
  unnamed : f.name = ""
  lacksJsonName : f.LacksJsonName
  found : ∃ own name, f.type.stripPointers = .ident own name ∧
    r.lookup ⟨shortModuleName (if own = "" then path else own), name⟩ = some d
  isStruct : d.type = .struct inner

/-- `Expands r path outer fields es`: inside the structs `outer`, the last of them declared in the
module at `path`, the fields stand for the properties `es`, each with its name and its type. -/
inductive Expands (r : Registry) :
    String → Finset DeclName → List (Field TypeExpr) → List (String × TypeExpr) → Prop where
  | nil {path : String} {outer : Finset DeclName} : Expands r path outer [] []
  | hidden {path : String} {outer : Finset DeclName} {f : Field TypeExpr}
    {fields : List (Field TypeExpr)} {es : List (String × TypeExpr)}
    (hf : f.jsonName? = some "-") (rest : Expands r path outer fields es) :
    Expands r path outer (f :: fields) es
  | again {path : String} {outer : Finset DeclName} {f : Field TypeExpr}
    {fields inner : List (Field TypeExpr)} {d : TypeDecl} {es : List (String × TypeExpr)}
    (hf : f.jsonName? ≠ some "-") (he : r.Embeds path f d inner) (hd : d.declName ∈ outer)
    (rest : Expands r path outer fields es) : Expands r path outer (f :: fields) es
  | embedded {path : String} {outer : Finset DeclName} {f : Field TypeExpr}
    {fields inner : List (Field TypeExpr)} {d : TypeDecl} {es es' : List (String × TypeExpr)}
    (hf : f.jsonName? ≠ some "-") (he : r.Embeds path f d inner) (hd : d.declName ∉ outer)
    (nested : Expands r d.modulePath (insert d.declName outer) inner es)
    (rest : Expands r path outer fields es') : Expands r path outer (f :: fields) (es ++ es')
  | property {path : String} {outer : Finset DeclName} {f : Field TypeExpr}
    {fields : List (Field TypeExpr)} {name : String} {es : List (String × TypeExpr)}
    (hf : f.jsonName? ≠ some "-") (he : ∀ d inner, ¬r.Embeds path f d inner)
    (hn : f.PropertyNamed name) (rest : Expands r path outer fields es) :
    Expands r path outer (f :: fields) ((name, f.type) :: es)

/-- The properties whose types have a descriptor. -/
def describedTypes (r : Registry) (es : List (String × TypeExpr)) : List (String × Descriptor) :=
  es.filterMap fun e =>
    match r.classify e.2 with
    | .ok d => some (e.1, d)
    | .error _ => none

/-- The properties whose types have none, with the reason. -/
def refusedTypes (r : Registry) (es : List (String × TypeExpr)) : List SkippedField :=
  es.filterMap fun e =>
    match r.classify e.2 with
    | .ok _ => none
    | .error u => some ⟨e.1, u⟩

variable {r : Registry} {path : String} {outer : Finset DeclName} {f : Field TypeExpr}
  {fields : List (Field TypeExpr)} {es : List (String × TypeExpr)}

theorem embeds_iff {d : TypeDecl} {inner : List (Field TypeExpr)} :
    r.Embeds path f d inner ↔ r.embeddedStruct? path f = some (d, inner) := by
  have hunnamed : f.isEmbedded = true ↔ f.name = "" := String.isEmpty_iff
  have hfound : (∃ n, f.embeddedName? path = some n ∧ r.lookup n = some d) ↔
      ∃ own name, f.type.stripPointers = .ident own name ∧
        r.lookup ⟨shortModuleName (if own = "" then path else own), name⟩ = some d := by
    unfold Field.embeddedName?
    cases f.type.stripPointers <;> simp
  rw [embeddedStruct?_eq_some_iff, hunnamed, ← Field.lacksJsonName_iff, hfound,
    TypeDecl.fields?_eq_some_iff]
  exact ⟨fun h => ⟨h.unnamed, h.lacksJsonName, h.found, h.isStruct⟩,
    fun ⟨hn, hj, hf, hs⟩ => ⟨hn, hj, hf, hs⟩⟩

theorem forall_not_embeds_iff :
    (∀ d inner, ¬r.Embeds path f d inner) ↔ r.embeddedStruct? path f = none := by
  simp only [embeds_iff, Option.eq_none_iff_forall_ne_some, Prod.forall, ne_eq]

theorem Embeds.unique {d d' : TypeDecl} {inner inner' : List (Field TypeExpr)}
    (h : r.Embeds path f d inner) (h' : r.Embeds path f d' inner') : d = d' ∧ inner = inner' := by
  rw [embeds_iff] at h h'
  rw [h, Option.some.injEq, Prod.mk.injEq] at h'
  exact h'

/-- What the first field stands for, and that it does not matter to the others. -/
theorem Expands.cons_inv (h : r.Expands path outer (f :: fields) es) :
    ∃ own rest, es = own ++ rest ∧ r.Expands path outer fields rest ∧
      (f.jsonName? = some "-" → own = []) ∧
      (f.jsonName? ≠ some "-" → (∀ d inner, ¬r.Embeds path f d inner) →
        own = [(f.propertyName, f.type)]) ∧
      ∀ d inner, f.jsonName? ≠ some "-" → r.Embeds path f d inner →
        (d.declName ∈ outer → own = []) ∧
        (d.declName ∉ outer → r.Expands d.modulePath (insert d.declName outer) inner own) := by
  cases h with
  | hidden hf rest =>
    exact ⟨[], es, rfl, rest, fun _ => rfl, fun hne => absurd hf hne,
      fun _ _ hne => absurd hf hne⟩
  | again hf he hd rest =>
    refine ⟨[], es, rfl, rest, fun _ => rfl, fun _ hno => absurd he (hno _ _), ?_⟩
    intro d' inner' _ he'
    obtain ⟨rfl, rfl⟩ := he.unique he'
    exact ⟨fun _ => rfl, fun hd' => absurd hd hd'⟩
  | @embedded _ _ _ _ _ _ own rest hf he hd nested hrest =>
    refine ⟨own, rest, rfl, hrest, fun hh => absurd hh hf, fun _ hno => absurd he (hno _ _), ?_⟩
    intro d' inner' _ he'
    obtain ⟨rfl, rfl⟩ := he.unique he'
    exact ⟨fun hd' => absurd hd' hd, fun _ => nested⟩
  | @property _ _ _ _ name rest hf he hn hrest =>
    refine ⟨[(name, f.type)], rest, rfl, hrest, fun hh => absurd hh hf, fun _ _ => ?_, ?_⟩
    · rw [Field.propertyName_of_named hn]
    · exact fun d inner _ he' => absurd he' (he d inner)

theorem Expands.unique {es' : List (String × TypeExpr)} (h : r.Expands path outer fields es)
    (h' : r.Expands path outer fields es') : es' = es := by
  -- By induction on one derivation: the other one has to treat the first field alike.
  induction h generalizing es' with
  | nil => cases h'; rfl
  | hidden hf _ ih =>
    obtain ⟨own, rest, rfl, hrest, hown, -, -⟩ := h'.cons_inv
    rw [hown hf, ih hrest, List.nil_append]
  | again hf he hd _ ih =>
    obtain ⟨own, rest, rfl, hrest, -, -, hown⟩ := h'.cons_inv
    rw [(hown _ _ hf he).1 hd, ih hrest, List.nil_append]
  | embedded hf he hd _ _ ihn ih =>
    obtain ⟨own, rest, rfl, hrest, -, -, hown⟩ := h'.cons_inv
    rw [ihn ((hown _ _ hf he).2 hd), ih hrest]
  | property hf he hn _ ih =>
    obtain ⟨own, rest, rfl, hrest, -, hown, -⟩ := h'.cons_inv
    rw [hown hf he, ih hrest, Field.propertyName_of_named hn]
    rfl

/-- Fields that stand side by side expand each as if the others were not there. -/
theorem Expands.append_inv {before after : List (Field TypeExpr)}
    (h : r.Expands path outer (before ++ after) es) :
    ∃ es₁ es₂, r.Expands path outer before es₁ ∧ r.Expands path outer after es₂ ∧
      es = es₁ ++ es₂ := by
  induction before generalizing es with
  | nil => exact ⟨[], es, .nil, h, rfl⟩
  | cons f before ih =>
    cases h with
    | hidden hf rest =>
      obtain ⟨es₁, es₂, h₁, h₂, rfl⟩ := ih rest
      exact ⟨es₁, es₂, .hidden hf h₁, h₂, rfl⟩
    | again hf he hd rest =>
      obtain ⟨es₁, es₂, h₁, h₂, rfl⟩ := ih rest
      exact ⟨es₁, es₂, .again hf he hd h₁, h₂, rfl⟩
    | @embedded _ _ _ _ _ _ own _ hf he hd nested rest =>
      obtain ⟨es₁, es₂, h₁, h₂, rfl⟩ := ih rest
      exact ⟨own ++ es₁, es₂, .embedded hf he hd nested h₁, h₂, (List.append_assoc ..).symm⟩
    | @property _ _ _ _ name _ hf he hn rest =>
      obtain ⟨es₁, es₂, h₁, h₂, rfl⟩ := ih rest
      exact ⟨(name, f.type) :: es₁, es₂, .property hf he hn h₁, h₂, rfl⟩

theorem describedTypes_append (r : Registry) (es es' : List (String × TypeExpr)) :
    r.describedTypes (es ++ es') = r.describedTypes es ++ r.describedTypes es' :=
  List.filterMap_append

theorem refusedTypes_append (r : Registry) (es es' : List (String × TypeExpr)) :
    r.refusedTypes (es ++ es') = r.refusedTypes es ++ r.refusedTypes es' :=
  List.filterMap_append

end Registry

namespace Collected

open Registry

variable {registry : Registry} {path : String} {fields : List (Field TypeExpr)}
  {visiting visiting' : Finset DeclName} {c c' : Collected} {calls : Nat}

/-- `c'` is `c` with the properties `es` added. -/
structure Adds (registry : Registry) (es : List (String × TypeExpr)) (c c' : Collected) : Prop where
  registry_eq : c'.resolver.registry = registry
  properties_eq : c'.properties =
    (registry.describedTypes es).foldl (fun m e => m.put e.1 e.2) c.properties
  skipped_eq : c'.skipped = c.skipped ++ registry.refusedTypes es

theorem Adds.trans {es es' : List (String × TypeExpr)} {c'' : Collected}
    (h : Adds registry es c c') (h' : Adds registry es' c' c'') :
    Adds registry (es ++ es') c c'' := by
  refine ⟨h'.registry_eq, ?_, ?_⟩
  · rw [h'.properties_eq, h.properties_eq, describedTypes_append, List.foldl_append]
  · rw [h'.skipped_eq, h.skipped_eq, refusedTypes_append, List.append_assoc]

theorem adds_nil (hr : c.resolver.registry = registry) : Adds registry [] c c :=
  ⟨hr, rfl, (List.append_nil _).symm⟩

theorem adds_addField (hr : c.resolver.registry = registry) (f : Field TypeExpr) :
    Adds registry [(f.propertyName, f.type)] c (c.addField f) := by
  rw [addField_eq, hr]
  exact ⟨(Resolver.registry_askAll _ _).trans hr, rfl, rfl⟩

/-- A run that keeps one set of the structs under way follows the rules, which keep none: it has
taken each struct off again when it comes to the next field. -/
theorem Collects.expands (h : Collects registry path fields visiting c calls visiting' c')
    (hr : c.resolver.registry = registry) :
    ∃ es, registry.Expands path visiting fields es ∧ Adds registry es c c' := by
  induction h with
  | done => exact ⟨[], .nil, adds_nil hr⟩
  | hidden hf _ ih =>
    obtain ⟨es, hes, hadds⟩ := ih hr
    exact ⟨es, .hidden (Field.isHidden_eq_true_iff.mp hf) hes, hadds⟩
  | @property _ f _ _ _ _ _ _ hf he _ ih =>
    have hfield := adds_addField hr f
    obtain ⟨es, hes, hadds⟩ := ih hfield.registry_eq
    exact ⟨_, .property (Field.isHidden_eq_false_iff.mp hf) (forall_not_embeds_iff.mpr he)
      f.propertyNamed_propertyName hes, hfield.trans hadds⟩
  | again hf he hd _ ih =>
    obtain ⟨es, hes, hadds⟩ := ih hr
    exact ⟨es, .again (Field.isHidden_eq_false_iff.mp hf) (embeds_iff.mpr he) hd
      hes, hadds⟩
  | embedded hf he hd nested _ ihn ih =>
    obtain ⟨es, hes, hadds⟩ := ihn hr
    -- The struct is off the set again, so the rest expands inside the same structs as before.
    rw [nested.visiting_eq, Finset.erase_insert hd] at ih
    obtain ⟨es', hes', hadds'⟩ := ih hadds.registry_eq
    exact ⟨es ++ es', .embedded (Field.isHidden_eq_false_iff.mp hf)
      (embeds_iff.mpr he) hd hes hes', hadds.trans hadds'⟩

end Collected

namespace Resolver

open Registry

/-- The definition of a declared struct holds what its fields expand to: the properties with a
descriptor, put in turn, and the others as skipped. Fields beside each other expand each on its own.
A run that keeps one set of the structs under way leaves it as it was and collects the same. -/
theorem buildDefinition_struct {r : Resolver Pending} {d : TypeDecl}
    (hd : d ∈ r.registry.decls) {fields : List (Field TypeExpr)} (hf : d.type = .struct fields) :
    ∃ es, (∀ es', r.registry.Expands d.modulePath {d.declName} fields es' ↔ es' = es) ∧
      (∃ properties,
        (r.buildDefinition d).1 =
          some ⟨d.declName, .object properties (r.registry.refusedTypes es)⟩ ∧
        properties = .ofList (r.registry.describedTypes es) ∧
        properties.keys = ((r.registry.describedTypes es).map Prod.fst).eraseDups ∧
        ∀ name, properties.get? name =
          ((r.registry.describedTypes es).filter (·.1 = name)).getLast?.map Prod.snd) ∧
      (∀ before after, fields = before ++ after → ∃ es₁ es₂,
        r.registry.Expands d.modulePath {d.declName} before es₁ ∧
        r.registry.Expands d.modulePath {d.declName} after es₂ ∧ es = es₁ ++ es₂) ∧
      (∃ calls c, Collected.Collects r.registry d.modulePath fields {d.declName} ⟨r, .empty, []⟩
        calls {d.declName} c) ∧
      ∀ calls visiting c, Collected.Collects r.registry d.modulePath fields {d.declName}
        ⟨r, .empty, []⟩ calls visiting c →
        visiting = {d.declName} ∧ c.properties = .ofList (r.registry.describedTypes es) ∧
          c.skipped = r.registry.refusedTypes es := by
  have hfields := TypeDecl.fields?_eq_some_iff.mpr hf
  obtain ⟨⟨calls, hrun⟩, hruns⟩ := Collected.collects_collectStruct hd hfields
  obtain ⟨es, hes, hadds⟩ := hrun.expands rfl
  have hproperties : (r.collectStruct d fields).properties =
      .ofList (r.registry.describedTypes es) := hadds.properties_eq
  have hskipped : (r.collectStruct d fields).skipped = r.registry.refusedTypes es :=
    hadds.skipped_eq
  refine ⟨es, fun es' => ⟨hes.unique, fun h => h ▸ hes⟩, ?_, ?_, ⟨calls, _, hrun⟩, ?_⟩
  · refine ⟨_, ?_, rfl, OrderedMap.keys_ofList _, OrderedMap.get?_ofList _⟩
    rw [buildDefinition, hfields, ← hproperties, ← hskipped]
  · rintro before after rfl
    exact hes.append_inv
  · intro calls' visiting c hc
    obtain ⟨-, hvisiting, rfl⟩ := hruns calls' visiting c hc
    exact ⟨hvisiting, hproperties, hskipped⟩

/-- A car embeds its base twice, alone and inside another struct, and the base embeds the car. Both
times the base gives the property `ID`, which the last field of the car describes anew. -/
theorem buildDefinition_struct_car :
    let inner := [⟨"ID", .ident "" "int", none⟩, ⟨"", .pointer (.ident "" "Car"), none⟩]
    let fields := [⟨"", .ident "" "Left", none⟩, ⟨"", .ident "models" "Base", none⟩,
      ⟨"OnSave", .func [] [], none⟩, ⟨"Secret", .ident "" "string", some "json:\"-\""⟩,
      ⟨"Number", .ident "" "string", some "json:\"ID,omitempty\""⟩]
    let car : TypeDecl := ⟨"acme/models", "Car", .struct fields⟩
    let registry := Registry.empty
      |>.register ⟨"acme/models", "Base", .struct inner⟩
      |>.register ⟨"acme/models", "Left", .struct [⟨"", .ident "" "Base", none⟩]⟩
      |>.register car
    let r := ofSink registry Pending.empty
    car ∈ registry.decls ∧ car.type = .struct fields ∧
      ∃ es, registry.Expands "acme/models" {car.declName} fields es ∧
        (∃ properties,
          (r.buildDefinition car).1 =
            some ⟨car.declName, .object properties (registry.refusedTypes es)⟩ ∧
          properties.keys = ((registry.describedTypes es).map Prod.fst).eraseDups ∧
          properties.entries = [("ID", .uniform "string")]) ∧
        registry.refusedTypes es = [⟨"OnSave", ⟨"func()"⟩⟩] ∧
        (∃ es₁ es₂, registry.Expands "acme/models" {car.declName} (fields.take 1) es₁ ∧
          registry.Expands "acme/models" {car.declName} (fields.drop 1) es₂ ∧ es = es₁ ++ es₂) ∧
        ∃ calls c, Collected.Collects registry "acme/models" fields {car.declName} ⟨r, .empty, []⟩
          calls {car.declName} c ∧ c.properties = .ofList (registry.describedTypes es) := by
  intro inner fields car registry r
  have hcar : car ∈ registry.decls := by decide
  have hcollected : (r.collectStruct car fields).properties.entries = [("ID", .uniform "string")] ∧
      (r.collectStruct car fields).skipped = [⟨"OnSave", ⟨"func()"⟩⟩] := by decide +kernel
  obtain ⟨es, hexpands, ⟨properties, hbuilt, -, hkeys, -⟩, hbeside, ⟨calls, c, hrun⟩, hruns⟩ :=
    buildDefinition_struct (r := r) hcar rfl
  have hobject : properties = (r.collectStruct car fields).properties ∧
      registry.refusedTypes es = (r.collectStruct car fields).skipped := by
    have hd : (r.buildDefinition car).1 = some ⟨car.declName, .object
        (r.collectStruct car fields).properties (r.collectStruct car fields).skipped⟩ := rfl
    rw [hd, Option.some.injEq, Definition.mk.injEq, DefinitionBody.object.injEq] at hbuilt
    exact ⟨hbuilt.2.1.symm, hbuilt.2.2.symm⟩
  refine ⟨hcar, rfl, es, (hexpands es).mpr rfl, ⟨properties, hbuilt, hkeys, ?_⟩, ?_, ?_, ?_⟩
  · rw [hobject.1]
    exact hcollected.1
  · rw [hobject.2]
    exact hcollected.2
  · exact hbeside (fields.take 1) (fields.drop 1) rfl
  · exact ⟨calls, c, hrun, (hruns calls _ c hrun).2.1⟩

end Resolver

end TypeSchema
