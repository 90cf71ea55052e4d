import TypeSchema.OpenApi
import TypeSchema.Proofs.WorkList

namespace TypeSchema

namespace Document

mutual

/-- The targets of the references in a document. -/
def refs : Document → List String
  | text _ => []
  | list items => refsOfItems items
  | table entries => refsOfEntries entries

def refsOfItems : List Document → List String
  | [] => []
  | item :: items => item.refs ++ refsOfItems items

def refsOfEntries : List (String × Document) → List String
  | [] => []
  | (key, text target) :: entries =>
    (if key = "$ref" then [target] else []) ++ refsOfEntries entries
  | (_, value) :: entries => value.refs ++ refsOfEntries entries

end

end Document

namespace Descriptor

theorem refs_openApi (d : Descriptor) :
    d.openApi.document.refs = d.referenceName?.toList.map ("#/components/schemas/" ++ ·) := by
  unfold openApi elementSchema
  split <;> cases d.referenceName? <;>
    simp [OpenApiSchema.document, ElementSchema.document, Document.single, Document.refs,
      Document.refsOfEntries]

/-- A declared type is referred to by the text of its name, but the scalar form of one that is named
like the word for arrays reads as an array. -/
theorem referenceName?_build {decl : TypeDecl} (hm : decl.module ≠ "") {shape : Shape}
    (hs : shape = .scalar → decl.name ≠ SchemaKind.array.word) :
    (shape.build decl.name decl.module).referenceName? = some decl.declName.text ∧
      (shape.build decl.name decl.module).subject = decl.name := by
  have hr : (shape.build decl.name decl.module).isReference = true := by
    cases shape <;> simpa [Shape.build, isReference] using hm
  have hsub : (shape.build decl.name decl.module).subject = decl.name := by
    cases shape with
    | scalar => simp [Shape.build, subject, isArray, hs rfl]
    | arrayElement => simp [Shape.build, subject, isArray]
  refine ⟨?_, hsub⟩
  rw [referenceName?, hr, if_pos rfl, hsub]
  cases shape <;> rfl

/-- The descriptor is inline, or it refers to one of the declarations. -/
def RefersInto (d : Descriptor) (decls : List TypeDecl) : Prop :=
  d.crossModule = "" ∨ ∃ decl ∈ decls, ∃ shape : Shape, d = shape.build decl.name decl.module

theorem RefersInto.mono {d : Descriptor} {decls decls' : List TypeDecl} (h : d.RefersInto decls)
    (hs : decls ⊆ decls') : d.RefersInto decls' := by
  rcases h with h | ⟨decl, hmem, hd⟩
  · exact .inl h
  · exact .inr ⟨decl, hs hmem, hd⟩

end Descriptor

namespace Registry

variable {r : Registry}

theorem overriding_refersInto {e : TypeExpr} {d : Descriptor} (h : r.overriding e = some d)
    (decls : List TypeDecl) : d.RefersInto decls := by
  obtain ⟨word, -, rfl⟩ := Option.map_eq_some_iff.mp h
  exact .inl rfl

theorem getD_overriding_refersInto {e : TypeExpr} {d : Descriptor} {decls : List TypeDecl}
    (h : d.crossModule = "") : ((r.overriding e).getD d).RefersInto decls := by
  cases ho : r.overriding e with
  | none => exact .inl h
  | some o => exact overriding_refersInto ho decls

theorem describe_refersInto (n : DeclName) (shape : Shape) :
    (r.describe n shape).RefersInto (r.definable? n).toList := by
  cases h : r.referent n with
  | declared decl =>
    have hdecl := referent_eq_declared_iff.mp h
    right
    refine ⟨decl, by simp [hdecl], shape, ?_⟩
    rw [describe_of_definable hdecl, ← declName_of_definable hdecl]
    rfl
  | valueType kind => left; cases shape <;> simp [describe, h, Shape.build]
  | overridden word => left; simp [describe, h, Descriptor.uniform]
  | unknown => left; simp [describe, h, Descriptor.ofKind, Descriptor.uniform]

theorem elementDescriptor_refersInto (e : TypeExpr) :
    (r.elementDescriptor e).RefersInto (e.elementName?.bind r.definable?).toList := by
  induction e using TypeExpr.elementName?.induct with
  | case1 target ih =>
    rw [elementDescriptor_pointer]
    exact ih
  | case2 path name hp =>
    rw [elementDescriptor_bare hp]
    exact .inl rfl
  | case3 path name hp =>
    rw [Bool.not_eq_true] at hp
    have hn : (TypeExpr.ident path name).elementName? = some ⟨shortModuleName path, name⟩ := by
      simp [TypeExpr.elementName?, hp]
    rw [elementDescriptor_qualified hp, hn]
    exact describe_refersInto _ _
  | case4 e hp hi =>
    left
    cases e with
    | pointer target => exact absurd rfl (hp target)
    | ident path name => exact absurd rfl (hi path name)
    | _ => rfl

/-- What an expression is described as refers to nothing but what it asks for. -/
theorem refersInto_of_classify {e : TypeExpr} {d : Descriptor} (h : r.classify e = .ok d) :
    d.RefersInto (r.requests e) := by
  induction e using TypeExpr.stripPointers.induct with
  | case1 target ih =>
    rw [classify_pointer] at h
    cases ho : r.overriding (.pointer target) with
    | some o =>
      simp only [ho, Except.ok.injEq] at h
      exact h ▸ overriding_refersInto ho _
    | none =>
      simp only [ho] at h
      rw [requests_pointer ho]
      exact ih h
  | case2 e hp =>
    cases e with
    | pointer target => exact absurd rfl (hp target)
    | ident path name =>
      cases hq : path.isEmpty with
      | true =>
        rw [classify_bare hq, Except.ok.injEq] at h
        exact h ▸ getD_overriding_refersInto rfl
      | false =>
        rw [classify_qualified hq, Except.ok.injEq] at h
        rw [requests_qualified hq]
        exact h ▸ describe_refersInto _ _
    | array element =>
      rw [classify_array, Except.ok.injEq] at h
      subst h
      cases ho : r.overriding (.array element) with
      | some o => exact overriding_refersInto ho _
      | none =>
        rw [requests_array ho]
        exact elementDescriptor_refersInto element
    | func params results =>
      rw [classify_func] at h
      cases ho : r.overriding (.func params results) with
      | some o =>
        simp only [ho, Except.ok.injEq] at h
        exact h ▸ overriding_refersInto ho _
      | none => simp [ho] at h
    | chan message =>
      rw [classify_chan] at h
      cases ho : r.overriding (.chan message) with
      | some o =>
        simp only [ho, Except.ok.injEq] at h
        exact h ▸ overriding_refersInto ho _
      | none => simp [ho] at h
    | _ =>
      simp only [classify, Resolver.classify, Except.ok.injEq] at h
      exact h ▸ getD_overriding_refersInto rfl

end Registry

namespace OrderedMap

variable {κ ν : Type} [DecidableEq κ]

theorem mem_values_put {m : OrderedMap κ ν} {k : κ} {v v' : ν} (h : v' ∈ (m.put k v).values) :
    v' = v ∨ v' ∈ m.values := by
  obtain ⟨es, hd⟩ := m
  change v' ∈ (putEntry k v es).map Prod.snd at h
  show v' = v ∨ v' ∈ es.map Prod.snd
  clear hd
  induction es with
  | nil => simpa [putEntry] using h
  | cons e es ih =>
    unfold putEntry at h
    split at h
    · rw [List.map_cons, List.mem_cons] at h
      exact h.imp id (List.mem_cons_of_mem _)
    · rw [List.map_cons, List.mem_cons] at h
      rcases h with h | h
      · exact .inr (h ▸ List.mem_cons_self)
      · exact (ih h).imp id (List.mem_cons_of_mem _)

theorem mem_of_mem_values_ofList {es : List (κ × ν)} {v : ν} (h : v ∈ (ofList es).values) :
    ∃ k, (k, v) ∈ es := by
  induction es using List.reverseRecOn with
  | nil => cases h
  | append_singleton es e ih =>
    rw [ofList, List.foldl_concat] at h
    rcases mem_values_put h with rfl | h
    · exact ⟨e.1, by simp⟩
    · obtain ⟨k, hk⟩ := ih h
      exact ⟨k, List.mem_append_left _ hk⟩

end OrderedMap

namespace DefinitionBody

/-- The descriptors of the properties, or that of the aliased type. -/
def descriptors : DefinitionBody → List Descriptor
  | object properties _ => properties.values
  | aliasOf target => [target]

end DefinitionBody

namespace Definitions

def descriptors (ds : Definitions) : List Descriptor :=
  ds.values.flatMap fun definition => definition.body.descriptors

end Definitions

namespace Registry

variable {r : Registry}

/-- A definition describes nothing but expressions that building it looked at. -/
theorem classify_of_mem_descriptors {decl : TypeDecl} {definition : Definition} {d : Descriptor}
    (h : r.definitionOf decl = some definition) (hd : d ∈ definition.body.descriptors) :
    ∃ e, r.classify e = .ok d ∧ r.requests e ⊆ r.buildRequests decl := by
  unfold definitionOf at h
  unfold buildRequests
  cases hf : decl.fields? with
  | some fields =>
    simp only [hf, Option.some.injEq] at h
    subst h
    obtain ⟨k, hk⟩ := OrderedMap.mem_of_mem_values_ofList hd
    obtain ⟨f, hmem, hf⟩ := List.mem_filterMap.mp hk
    refine ⟨f.type, ?_, fun x hx => List.mem_flatMap.mpr ⟨f, hmem, hx⟩⟩
    split at hf
    · next hc => cases hf; exact hc
    · cases hf
  | none =>
    simp only [hf] at h
    split at h
    · next hc =>
      cases h
      rw [DefinitionBody.descriptors, List.mem_singleton] at hd
      exact ⟨decl.type, hd ▸ hc, fun x hx => hx⟩
    · cases h

theorem definitionOf_of_mem_values {decls : List TypeDecl} {definition : Definition}
    (h : definition ∈ (r.definitionsOf decls).values) :
    ∃ decl ∈ decls, r.definitionOf decl = some definition := by
  induction decls using List.reverseRecOn with
  | nil => cases h
  | append_singleton decls decl ih =>
    rw [definitionsOf_concat] at h
    cases hd : r.definitionOf decl with
    | none =>
      rw [hd] at h
      obtain ⟨other, hmem, ho⟩ := ih h
      exact ⟨other, List.mem_append_left _ hmem, ho⟩
    | some new =>
      rw [hd] at h
      rcases OrderedMap.mem_values_put h with rfl | h
      · exact ⟨decl, by simp, hd⟩
      · obtain ⟨other, hmem, ho⟩ := ih h
        exact ⟨other, List.mem_append_left _ hmem, ho⟩

theorem text_mem_keys_definitionsOf {decls : List TypeDecl} {decl : TypeDecl} (hmem : decl ∈ decls)
    {definition : Definition} (h : r.definitionOf decl = some definition) :
    decl.declName.text ∈ (r.definitionsOf decls).keys := by
  induction decls using List.reverseRecOn with
  | nil => cases hmem
  | append_singleton decls last ih =>
    rw [definitionsOf_concat]
    rw [List.mem_append, List.mem_singleton] at hmem
    rcases hmem with hmem | rfl
    · cases r.definitionOf last with
      | none => exact ih hmem
      | some new => exact (OrderedMap.mem_keys_put _ _ _ _).mpr (.inl (ih hmem))
    · rw [h, ← declName_of_definitionOf h]
      exact (OrderedMap.mem_keys_put _ _ _ _).mpr (.inr rfl)

/-- The type that a descriptor refers to is declared, but as a type without a descriptor. -/
def Undescribed (r : Registry) (d : Descriptor) : Prop :=
  ∃ decl, r.lookup ⟨d.crossModule, d.subject⟩ = some decl ∧ decl.type.isStruct = false ∧
    ∃ u, r.classify decl.type = .error u

end Registry

/-- Building definitions fails only where a root has no descriptor. -/
theorem buildDefinitions_eq (registry : Registry) (roots : List TypeExpr) :
    buildDefinitions registry roots = (roots.mapM registry.classify).map fun ds =>
      (ds, (DefinitionBuilder.afterCalls registry (roots.map .classify)).finish) := by
  rw [buildDefinitions, Resolver.classifyAll_eq, DefinitionBuilder.afterCalls_eq, List.flatMap_map]
  cases h : roots.mapM registry.classify with
  | error u =>
    simp only [Resolver.ofSink, h]
    rfl
  | ok ds =>
    simp only [Resolver.ofSink, h]
    rfl

theorem buildDefinitions_ok {registry : Registry} {es : List TypeExpr} {ds : List Descriptor}
    {defs : Definitions} (h : buildDefinitions registry es = .ok (ds, defs)) :
    es.map registry.classify = ds.map .ok ∧
      defs = (DefinitionBuilder.afterCalls registry (es.map .classify)).finish := by
  rw [buildDefinitions_eq] at h
  cases hds : es.mapM registry.classify with
  | error u =>
    rw [hds] at h
    cases h
  | ok ds' =>
    rw [hds] at h
    cases h
    exact ⟨map_eq_of_mapM_ok hds, rfl⟩

namespace Registry

/-- A reference among what has been built breadth first leads to a definition, or to a declaration
that was left out. -/
theorem mem_keys_of_refersInto {registry : Registry} {done : List TypeDecl}
    (hdone : ∀ decl ∈ done, registry.definable? decl.declName = some decl) {d : Descriptor}
    (hd : d.RefersInto done)
    (hscalar : ∀ m, d = Shape.scalar.build SchemaKind.array.word m →
      registry.lookup ⟨m, SchemaKind.array.word⟩ = none) {k : String}
    (hk : d.referenceName? = some k) :
    k ∈ (registry.definitionsOf done).keys ∨ registry.Undescribed d := by
  rcases hd with hd | ⟨decl, hmem, shape, rfl⟩
  · simp [Descriptor.referenceName?, Descriptor.isReference, hd] at hk
  · obtain ⟨hm, -, hl, -⟩ := definable?_eq_some_iff.mp (hdone decl hmem)
    -- The one scalar descriptor that would be read as an array is ruled out.
    have hshape : shape = .scalar → decl.name ≠ SchemaKind.array.word := by
      rintro rfl hname
      have hnone := hscalar decl.module (by rw [hname])
      rw [← hname] at hnone
      exact absurd (hl.symm.trans hnone) (by simp)
    obtain ⟨hname, hsub⟩ := Descriptor.referenceName?_build hm hshape
    rw [hname, Option.some.injEq] at hk
    subst hk
    cases ho : registry.definitionOf decl with
    | some definition => exact .inl (text_mem_keys_definitionsOf hmem ho)
    | none =>
      right
      refine ⟨decl, ?_, definitionOf_eq_none_iff.mp ho⟩
      rw [hsub]
      cases shape <;> exact hl

end Registry

/-- Each reference of a root, a property or an alias leads to a definition, unless the declaration
it leads to has no descriptor and is therefore left out. The scalar form of a declared type named
`array` is left aside. -/
theorem references_lead_to_definitions (registry : Registry) (roots : List TypeExpr)
    (ds : List Descriptor) (defs : Definitions)
    (h : buildDefinitions registry roots = .ok (ds, defs)) :
    ∀ d ∈ ds ++ defs.descriptors,
      (∀ m, d = Shape.scalar.build "array" m → registry.lookup ⟨m, "array"⟩ = none) →
      (∀ k, d.referenceName? = some k → k ∈ defs.keys ∨ registry.Undescribed d) ∧
      ∀ ref ∈ d.openApi.document.refs, ∃ k, ref = "#/components/schemas/" ++ k ∧
        (k ∈ defs.keys ∨ registry.Undescribed d) := by
  intro d hd hscalar
  obtain ⟨hds, hdefs⟩ := buildDefinitions_ok h
  obtain ⟨done, hfinish, horder, hdone⟩ :=
    (DefinitionBuilder.follows_afterCalls registry (roots.map .classify)).finish_eq
  rw [hfinish] at hdefs
  -- What is asked for by name is the declaration that was built under it.
  have hmem : ∀ decl, registry.definable? decl.declName = some decl →
      Reached (registry.namesCalled (roots.map .classify)) registry.namesBuilding decl.declName →
      decl ∈ done := by
    intro decl hdecl hreached
    obtain ⟨other, hother, hname⟩ := List.mem_map.mp ((horder.mem_iff _).mpr hreached)
    have ho := hdone other hother
    rw [hname, hdecl, Option.some.injEq] at ho
    exact ho ▸ hother
  have hrefers : d.RefersInto done := by
    rw [List.mem_append] at hd
    rcases hd with hd | hd
    · -- A root was asked for by the call that classified it.
      obtain ⟨e, he, hc⟩ : ∃ e ∈ roots, registry.classify e = .ok d := by
        rw [← List.mem_map, hds]
        exact List.mem_map_of_mem hd
      refine (Registry.refersInto_of_classify hc).mono ?_
      intro decl hdecl
      refine hmem decl (Registry.definable_of_mem_requests hdecl) (.root ?_)
      apply List.mem_map_of_mem
      rw [List.flatMap_map]
      exact List.mem_flatMap.mpr ⟨e, he, hdecl⟩
    · -- What a definition describes was asked for when its declaration was built.
      obtain ⟨definition, hdefinition, hd⟩ := List.mem_flatMap.mp hd
      rw [hdefs] at hdefinition
      obtain ⟨source, hsource, ho⟩ := Registry.definitionOf_of_mem_values hdefinition
      obtain ⟨e, hc, hsub⟩ := Registry.classify_of_mem_descriptors ho hd
      refine (Registry.refersInto_of_classify hc).mono ?_
      intro decl hdecl
      have hlookup := (Registry.definable?_eq_some_iff.mp (hdone source hsource)).2.2.1
      have hreached := (horder.mem_iff _).mp (List.mem_map_of_mem hsource)
      refine hmem decl (Registry.definable_of_mem_requests hdecl) (.step hreached ?_)
      rw [Registry.namesBuilding_eq hlookup, List.mem_eraseDups]
      exact List.mem_map_of_mem (hsub hdecl)
  have href : ∀ k, d.referenceName? = some k → k ∈ defs.keys ∨ registry.Undescribed d := by
    intro k hk
    rw [hdefs]
    exact Registry.mem_keys_of_refersInto hdone hrefers hscalar hk
  refine ⟨href, ?_⟩
  intro ref hr
  rw [Descriptor.refs_openApi, List.mem_map] at hr
  obtain ⟨k, hk, rfl⟩ := hr
  exact ⟨k, rfl, href k (Option.mem_toList.mp hk)⟩

/-- The element type of the widgets' parts. Parts are a struct, so their definition is there. -/
theorem part_reference_leads_to_definition :
    let widget := TypeExpr.ident "models" "Widget"
    let part := Shape.arrayElement.build "Part" "models"
    let ds := [Shape.scalar.build "Widget" "models"]
    let defs := (DefinitionBuilder.afterCalls .shop [.classify widget]).finish
    buildDefinitions .shop [widget] = .ok (ds, defs) ∧ part ∈ ds ++ defs.descriptors ∧
      ¬Registry.shop.Undescribed part ∧ part.referenceName? = some "models.Part" ∧
      "#/components/schemas/models.Part" ∈ part.openApi.document.refs ∧
      "models.Part" ∈ defs.keys := by
  intro widget part ds defs
  have hbuild : buildDefinitions .shop [widget] = .ok (ds, defs) := rfl
  have hmem : part ∈ ds ++ defs.descriptors := by decide
  have hdescribed : ¬Registry.shop.Undescribed part := by
    rintro ⟨decl, hdecl, hstruct, -⟩
    obtain ⟨fields, hfields⟩ : ∃ fields, Registry.shop.lookup ⟨"models", "Part"⟩ =
        some ⟨"acme/models", "Part", .struct fields⟩ := ⟨_, rfl⟩
    obtain rfl := Option.some.inj (hfields.symm.trans hdecl)
    cases hstruct
  have hname : part.referenceName? = some "models.Part" := by decide
  have href : "#/components/schemas/models.Part" ∈ part.openApi.document.refs := by decide
  have hscalar : ∀ m, part = Shape.scalar.build "array" m →
      Registry.shop.lookup ⟨m, "array"⟩ = none := by
    intro m hm
    simp [part, Shape.build, SchemaKind.word] at hm
  have hleads := references_lead_to_definitions .shop [widget] ds defs hbuild part hmem hscalar
  exact ⟨hbuild, hmem, hdescribed, hname, href,
    (hleads.1 "models.Part" hname).resolve_right hdescribed⟩

/-- A reference to a type without a descriptor leads nowhere. -/
theorem handler_reference_leads_nowhere :
    let handler := Shape.scalar.build "Handler" "models"
    ∃ defs, buildDefinitions .shop [.ident "models" "Handler"] = .ok ([handler], defs) ∧
      handler.referenceName? = some "models.Handler" ∧ "models.Handler" ∉ defs.keys :=
  ⟨(DefinitionBuilder.afterCalls .shop [.classify (.ident "models" "Handler")]).finish,
    rfl, by decide, by decide⟩

end TypeSchema
