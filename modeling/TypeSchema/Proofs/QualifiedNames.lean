import TypeSchema.Proofs.References

namespace TypeSchema

namespace Shape

/-- A reference alone, or an array of what is referred to. -/
def referenceTo (shape : Shape) (target : String) : Document :=
  match shape with
  | scalar => .single "$ref" (.text target)
  | arrayElement => .table [("type", .text "array"), ("items", .single "$ref" (.text target))]

end Shape

namespace Descriptor

/-- The shape that is read off a descriptor. -/
def shape (d : Descriptor) : Shape := if d.isArray then .arrayElement else .scalar

theorem shape_build {s : Shape} {name : String}
    (hs : s = .scalar → name ≠ SchemaKind.array.word) (module : String) :
    (s.build name module).shape = s := by
  cases s with
  | scalar => simp [Shape.build, shape, isArray, hs rfl]
  | arrayElement => simp [Shape.build, shape, isArray]

theorem document_of_reference {d : Descriptor} {k : String} (hk : d.referenceName? = some k) :
    d.openApi.document = d.shape.referenceTo ("#/components/schemas/" ++ k) := by
  have he : d.elementSchema = .reference k := by rw [elementSchema, hk]
  rw [openApi, he, shape]
  split <;> rfl

/-- The scalar form of a type named `array` holds the word for strings where the element of an array
would stand. -/
theorem referenceName?_scalar_array {module : String} (hm : module ≠ "") :
    (Shape.scalar.build "array" module).referenceName? = some (module ++ ".string") := by
  have hr : (Shape.scalar.build "array" module).isReference = true := by
    simpa [Shape.build, isReference] using hm
  have hs : (Shape.scalar.build "array" module).subject = "string" := rfl
  have hm' : (Shape.scalar.build "array" module).crossModule = module := rfl
  rw [referenceName?, hr, if_pos rfl, hs, hm', String.append_assoc]
  rfl

theorem referenceName?_of_inline {d : Descriptor} (hd : d.crossModule = "") :
    d.referenceName? = none := by
  simp [referenceName?, isReference, hd]

end Descriptor

namespace Registry

variable {r : Registry} {n : DeclName} {shape : Shape}

/-- A type with a definition of its own is described by a reference to it, in the shape asked
for. -/
theorem describe_reference {d : TypeDecl} (hd : r.definable? n = some d)
    (hs : shape = .scalar → n.name ≠ "array") :
    (r.describe n shape).referenceName? = some n.text ∧
      (r.describe n shape).openApi.document =
        shape.referenceTo ("#/components/schemas/" ++ n.text) := by
  obtain rfl : d.declName = n := declName_of_definable hd
  have hm : d.module ≠ "" := (definable?_eq_some_iff.mp hd).1
  replace hs : shape = .scalar → d.name ≠ "array" := hs
  rw [describe_of_definable hd]
  have href := (Descriptor.referenceName?_build hm hs).1
  have hdocument := Descriptor.document_of_reference href
  rw [Descriptor.shape_build hs] at hdocument
  exact ⟨href, hdocument⟩

theorem describe_scalar_array {d : TypeDecl} (hd : r.definable? n = some d)
    (hname : n.name = "array") :
    (r.describe n .scalar).referenceName? = some (n.module ++ ".string") ∧
      (r.describe n .scalar).openApi.document =
        Shape.arrayElement.referenceTo ("#/components/schemas/" ++ (n.module ++ ".string")) := by
  have hm : n.module ≠ "" := (definable?_eq_some_iff.mp hd).1
  rw [describe_of_definable hd, hname]
  have href := Descriptor.referenceName?_scalar_array hm
  exact ⟨href, Descriptor.document_of_reference href⟩

/-- A name without a definition of its own is described inline, whatever else it stands for. -/
theorem describe_inline (hn : r.definable? n = none) :
    (r.describe n shape).referenceName? = none ∧
      (r.describe n shape).openApi.document.refs = [] := by
  have hinline : (r.describe n shape).crossModule = "" := by
    rcases describe_refersInto n shape with h | ⟨d, hd, -⟩
    · exact h
    · simp [hn] at hd
  have hnone := Descriptor.referenceName?_of_inline hinline
  refine ⟨hnone, ?_⟩
  rw [Descriptor.refs_openApi, hnone]
  rfl

end Registry

namespace Resolver

variable {σ : Type} [DefinitionSink σ]

/-- A name that stands for a declared type with a definition of its own is described by a reference
to it, and that definition has been asked for; any other name is described without a reference. What
is misread is the scalar form of a type named `array`. -/
theorem reference_names_resolved_type (r : Resolver σ) (path name : String) (shape : Shape) :
    let n : DeclName := ⟨shortModuleName path, name⟩
    let result := r.resolveQualified path name shape
    (∀ decl, SchemaKind.narrow? name = none → n.module ≠ "" → r.registry.lookup n = some decl →
      decl.narrowAlias? = none →
      result.2.isAsked n = true ∧
      ((shape = .scalar → name ≠ "array") →
        result.1.referenceName? = some (n.module ++ "." ++ name) ∧
        result.1.openApi.document =
          shape.referenceTo ("#/components/schemas/" ++ (n.module ++ "." ++ name))) ∧
      (shape = .scalar → name = "array" →
        result.1.referenceName? = some (n.module ++ ".string") ∧
        result.1.openApi.document =
          Shape.arrayElement.referenceTo ("#/components/schemas/" ++ (n.module ++ ".string")))) ∧
    ((∀ decl, SchemaKind.narrow? name = none → n.module ≠ "" → r.registry.lookup n = some decl →
      decl.narrowAlias? ≠ none) →
      result.1.referenceName? = none ∧ result.1.openApi.document.refs = []) := by
  intro n result
  have hresult :
      result = (r.registry.describe n shape, r.askAll (r.registry.definable? n).toList) :=
    r.resolveQualified_eq path name shape
  rw [hresult]
  refine ⟨?_, ?_⟩
  · intro decl hk hm hl ha
    have hd : r.registry.definable? n = some decl :=
      Registry.definable?_eq_some_iff.mpr ⟨hm, hk, hl, ha⟩
    refine ⟨?_, fun hs => Registry.describe_reference hd hs, ?_⟩
    · rw [hd, ← Registry.declName_of_definable hd]
      exact r.isAsked_ask decl
    · rintro rfl hname
      exact Registry.describe_scalar_array hd hname
  · intro hother
    refine Registry.describe_inline (Option.eq_none_iff_forall_ne_some.mpr fun decl hd => ?_)
    obtain ⟨hm, hk, hl, ha⟩ := Registry.definable?_eq_some_iff.mp hd
    exact hother decl hk hm hl ha

/-- A list of the shop's parts refers to their type; the shop's money is a value type and refers to
nothing. -/
theorem reference_names_part :
    let r := ofSink Registry.shop ()
    let parts := r.resolveQualified "acme/models" "Part" .arrayElement
    let money := r.resolveQualified "models" "Money" .scalar
    SchemaKind.narrow? "Part" = none ∧ parts.2.isAsked ⟨"models", "Part"⟩ = true ∧
      parts.1.referenceName? = some "models.Part" ∧
      parts.1.openApi.document =
        Shape.arrayElement.referenceTo "#/components/schemas/models.Part" ∧
      money.1.referenceName? = none ∧ money.1.openApi.document.refs = [] := by
  intro r parts money
  obtain ⟨decl, hl, ha⟩ : ∃ decl, Registry.shop.lookup ⟨"models", "Part"⟩ = some decl ∧
      decl.narrowAlias? = none := ⟨_, rfl, rfl⟩
  have hk : SchemaKind.narrow? "Part" = none := by decide
  obtain ⟨hasked, hnamed, -⟩ := (reference_names_resolved_type r "acme/models" "Part"
    .arrayElement).1 decl hk (by decide) hl ha
  obtain ⟨hname, hdocument⟩ := hnamed (by decide)
  obtain ⟨hnone, hrefs⟩ := (reference_names_resolved_type r "models" "Money" .scalar).2 (by
    intro decl _ _ hl
    cases hl
    decide)
  exact ⟨hk, hasked, hname, hdocument, hnone, hrefs⟩

/-- The misread reference: to a type `string` that nothing declares. -/
theorem array_reference_names_string :
    let registry :=
      Registry.empty.register ⟨"models", "array", .struct [⟨"ID", .ident "" "int", none⟩]⟩
    let result := (ofSink registry ()).resolveQualified "models" "array" .scalar
    result.2.isAsked ⟨"models", "array"⟩ = true ∧
      result.1.referenceName? = some "models.string" ∧
      result.1.openApi.document =
        Shape.arrayElement.referenceTo "#/components/schemas/models.string" :=
  ⟨by decide, by decide, rfl⟩

end Resolver

end TypeSchema
