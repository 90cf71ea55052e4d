import TypeSchema.Definition.Pending
import TypeSchema.Proofs.Pointers

namespace TypeSchema

namespace TypeExpr

def isIdent : TypeExpr → Bool
  | ident _ _ => true
  | _ => false

/-- The texts by which an override may be found for an element. -/
def elementKeys : TypeExpr → List String
  | pointer target => target.elementKeys
  | struct _ => []
  | ident _ name => [name]
  | e => [e.text]

theorem elementName?_pointers (x : TypeExpr) (n : Nat) :
    (x.pointers n).elementName? = x.elementName? := by
  induction n with
  | zero => rfl
  | succ n ih => exact ih

theorem chars_ident (path name : String) : (ident path name).chars = identChars path name := rfl

theorem text_bare {path : String} (hp : path.isEmpty = true) (name : String) :
    (ident path name).text = name := by
  rw [text, chars_ident, identChars, if_pos hp, String.ofList_toList]

theorem length_name_le_text (path name : String) : name.length ≤ (ident path name).text.length := by
  rw [text, chars_ident, String.length_ofList, identChars]
  split
  · exact Nat.le_refl _
  · simp only [List.length_append, List.length_cons, String.length_toList]
    omega

theorem length_text_array (e : TypeExpr) : (array e).text.length = e.text.length + 2 := by
  rw [text, text, String.length_ofList, String.length_ofList]
  rfl

theorem length_starred (k : Nat) (text : String) : (starred k text).length = k + text.length := by
  rw [starred, String.length_append, String.length_ofList, List.length_replicate]

theorem length_of_mem_elementKeys {x : TypeExpr} (hx : x.isPointer = false) {key : String}
    (hkey : key ∈ x.elementKeys) : key.length ≤ x.text.length := by
  cases x with
  | pointer target => cases hx
  | struct fields => cases hkey
  | ident path name =>
    obtain rfl := List.mem_singleton.mp hkey
    exact length_name_le_text path key
  | _ =>
    obtain rfl := List.mem_singleton.mp hkey
    exact Nat.le_refl _

theorem text_mem_elementKeys {x : TypeExpr} (hx : x.isPointer = false) (hs : x.isStruct = false)
    (hbare : ∀ path name, x = .ident path name → path = "") : x.text ∈ x.elementKeys := by
  cases x with
  | pointer target => cases hx
  | struct fields => cases hs
  | ident path name =>
    rw [text_bare (String.isEmpty_iff.mpr (hbare path name rfl))]
    exact List.mem_singleton_self name
  | _ => exact List.mem_singleton_self _

end TypeExpr

namespace Registry

open TypeExpr

variable {r r' : Registry} {x : TypeExpr}

/-- A qualified name that is a value type in every module, or declared in its own. -/
def Resolves (r : Registry) (path name : String) : Prop :=
  (SchemaKind.narrow? name).isSome ∨
    shortModuleName path ≠ "" ∧ (r.lookup ⟨shortModuleName path, name⟩).isSome

/-- `ArrayForm r x scalar d`: where `x` alone is described as `scalar`, an array of it is to be
described as `d`. -/
inductive ArrayForm (r : Registry) :
    TypeExpr → Except Unsupported Descriptor → Descriptor → Prop where
  | resolved {path name : String} {s : Descriptor} (hp : path ≠ "") (hn : r.Resolves path name) :
    ArrayForm r (.ident path name) (.ok s) ⟨"array", s.schemaType, s.crossModule⟩
  | unresolved {path name : String} {s : Descriptor} (hp : path ≠ "")
    (hn : ¬r.Resolves path name) : ArrayForm r (.ident path name) (.ok s) s
  | bare {name : String} {s : Descriptor} :
    ArrayForm r (.ident "" name) (.ok s) ⟨"array", s.schemaType, ""⟩
  | struct {fields : List (Field TypeExpr)} {scalar : Except Unsupported Descriptor} :
    ArrayForm r (.struct fields) scalar ⟨"array", "object", ""⟩
  | other {x : TypeExpr} {scalar : Except Unsupported Descriptor} (hi : x.isIdent = false)
    (hs : x.isStruct = false) (hx : x.isPointer = false) :
    ArrayForm r x scalar ⟨"array", (r.override? x.text).getD "string", ""⟩

/-- A name that resolves has one word and one module, put in the shape that is asked for. -/
theorem describe_of_resolves {path name : String} (h : r.Resolves path name) :
    ∃ word module, ∀ shape : Shape,
      r.describe ⟨shortModuleName path, name⟩ shape = shape.build word module := by
  unfold describe referent qualifiedReferent
  cases hk : SchemaKind.narrow? name with
  | some kind => exact ⟨kind.word, "", fun _ => rfl⟩
  | none =>
    rcases h with h | ⟨hm, hl⟩
    · simp [hk] at h
    · obtain ⟨d, hd⟩ := Option.isSome_iff_exists.mp hl
      cases ha : d.narrowAlias? with
      | some kind =>
        exact ⟨kind.word, "", fun shape => by simp [hm, hd, TypeDecl.referent, ha]⟩
      | none =>
        exact ⟨name, shortModuleName path, fun shape => by simp [hm, hd, TypeDecl.referent, ha]⟩

/-- A name that does not resolve has no shape but the scalar one. -/
theorem describe_of_not_resolves {path name : String} (h : ¬r.Resolves path name)
    (shape shape' : Shape) :
    r.describe ⟨shortModuleName path, name⟩ shape =
      r.describe ⟨shortModuleName path, name⟩ shape' := by
  rw [Resolves, not_or, Option.not_isSome_iff_eq_none] at h
  obtain ⟨hk, hl⟩ := h
  unfold describe referent qualifiedReferent
  by_cases hm : shortModuleName path = ""
  · simp [hk, hm]
  · have hnone : r.lookup ⟨shortModuleName path, name⟩ = none :=
      Option.not_isSome_iff_eq_none.mp fun hs => hl ⟨hm, hs⟩
    cases r.override? name <;> simp [hk, hm, hnone]

theorem arrayForm_elementDescriptor (hx : x.isPointer = false) :
    r.ArrayForm x (r.classify x) (r.elementDescriptor x) := by
  cases x with
  | ident path name =>
    by_cases hp : path = ""
    · subst hp
      have hbare : ("" : String).isEmpty = true := rfl
      rw [classify_bare hbare, elementDescriptor_bare hbare, overriding, text_bare hbare]
      cases r.override? name <;> exact .bare
    · have hpath : path.isEmpty = false := by simpa using hp
      rw [classify_qualified hpath, elementDescriptor_qualified hpath]
      by_cases hn : r.Resolves path name
      · obtain ⟨word, module, hbuild⟩ := describe_of_resolves hn
        rw [hbuild, hbuild]
        exact .resolved (s := Shape.scalar.build word module) hp hn
      · rw [describe_of_not_resolves hn .arrayElement .scalar]
        exact .unresolved hp hn
  | pointer target => cases hx
  | struct fields => exact .struct
  | _ => exact .other rfl rfl rfl

theorem elementDescriptor_pointers (r : Registry) (x : TypeExpr) (n : Nat) :
    r.elementDescriptor (x.pointers n) = r.elementDescriptor x := by
  induction n with
  | zero => rfl
  | succ n ih => exact ih

/-- A name comes down to itself, whether it stands alone or is the element of an array. -/
theorem requests_of_isIdent (hx : x.isIdent = true) :
    r.requests x = (x.elementName?.bind r.definable?).toList := by
  cases x with
  | ident path name => rfl
  | _ => cases hx

/-- What is said of a name depends on its declaration, and on the override by its name only where
nothing else says what it stands for. -/
theorem describe_of_agree {n : DeclName} (hlookup : r'.lookup n = r.lookup n)
    (hname : n.module ≠ "" → SchemaKind.narrow? n.name = none → r.lookup n = none →
      r'.override? n.name = r.override? n.name) (shape : Shape) :
    r'.describe n shape = r.describe n shape := by
  unfold describe referent qualifiedReferent
  cases hk : SchemaKind.narrow? n.name with
  | some kind => rfl
  | none =>
    by_cases hm : n.module = ""
    · simp [hm]
    · cases hl : r.lookup n with
      | some d => simp only [hlookup, hl]
      | none => simp only [hlookup, hl, hname hm hk hl]

theorem definable?_of_agree {n : DeclName} (hlookup : r'.lookup n = r.lookup n) :
    r'.definable? n = r.definable? n := by
  rw [definable?, definable?, hlookup]

/-- Of the overrides, an element is described by the one for its text, or by the one for its name if
it is a qualified name that nothing else says anything about. -/
theorem elementDescriptor_of_agree (hx : x.isPointer = false)
    (hlookup : ∀ n, x.elementName? = some n → r'.lookup n = r.lookup n)
    (htext : x.isStruct = false → (∀ path name, x = .ident path name → path = "") →
      r'.override? x.text = r.override? x.text)
    (hname : ∀ path name, x = .ident path name → shortModuleName path ≠ "" →
      SchemaKind.narrow? name = none → r.lookup ⟨shortModuleName path, name⟩ = none →
      r'.override? name = r.override? name) :
    r'.elementDescriptor x = r.elementDescriptor x := by
  cases x with
  | pointer target => cases hx
  | struct fields => rfl
  | ident path name =>
    by_cases hp : path.isEmpty = true
    · have hbare : ∀ path' name', TypeExpr.ident path name = .ident path' name' → path' = "" := by
        rintro _ _ ⟨⟩
        exact String.isEmpty_iff.mp hp
      have hagree := htext rfl hbare
      rw [text_bare hp] at hagree
      rw [elementDescriptor_bare hp, elementDescriptor_bare hp, hagree]
    · have hpath := Bool.eq_false_iff.mpr hp
      rw [elementDescriptor_qualified hpath, elementDescriptor_qualified hpath]
      apply describe_of_agree
      · apply hlookup
        rw [TypeExpr.elementName?, if_neg hp]
      · exact hname path name rfl
  | _ =>
    have hagree := htext rfl (fun _ _ => TypeExpr.noConfusion)
    simp only [elementDescriptor, Resolver.classifyElement, Resolver.ofSink, hagree]

end Registry

namespace Resolver

open TypeExpr

variable {σ : Type} [DefinitionSink σ]

theorem askAll_withRegistry (r : Resolver σ) (registry : Registry) (ds : List TypeDecl) :
    ({ r with registry } : Resolver σ).askAll ds = { r.askAll ds with registry } := by
  induction ds generalizing r with
  | nil => rfl
  | cons d ds ih =>
    have hask : ({ r with registry } : Resolver σ).ask d = { r.ask d with registry } := by
      unfold ask
      split <;> rfl
    rw [askAll, List.foldl_cons, hask]
    exact ih (r.ask d)

theorem classify_array_of_none {r : Resolver σ} {element : TypeExpr}
    (h : r.registry.override? (TypeExpr.array element).text = none) :
    r.classify (.array element) = (.ok (r.registry.elementDescriptor element),
      r.askAll (element.elementName?.bind r.registry.definable?).toList) := by
  have hnone := Registry.overriding_eq_none_iff.mpr h
  rw [classify_eq, Registry.classify_array, Registry.requests_array hnone, hnone]
  rfl

/-- An array of pointers to a type always has a descriptor. That of a name has the word of the name
in the shape of an array, but for qualified names that do not resolve. A name asks for what it asks
for alone, and nothing else asks for anything. Overrides for the pointers do not count. -/
theorem classify_array_of_pointers (r : Resolver σ) {x : TypeExpr} (n : Nat)
    (hx : x.isPointer = false)
    (hnone : r.registry.override? (TypeExpr.array (x.pointers n)).text = none) :
    let result := r.classify (.array (x.pointers n))
    (∃ d, result.1 = .ok d ∧ r.registry.ArrayForm x (r.classify x).1 d) ∧
    (x.isIdent = true → result.2 = (r.classify x).2) ∧
    (x.isIdent = false → result.2 = r) ∧
    ∀ registry : Registry, registry.decls = r.registry.decls →
      (∀ key, (∀ k, 1 ≤ k → k ≤ n → key ≠ starred k x.text) →
        registry.override? key = r.registry.override? key) →
      ({ r with registry } : Resolver σ).classify (.array (x.pointers n)) =
        (result.1, { result.2 with registry }) := by
  intro result
  have hresult : result = (.ok (r.registry.elementDescriptor x),
      r.askAll (x.elementName?.bind r.registry.definable?).toList) := by
    show r.classify (.array (x.pointers n)) = _
    rw [classify_array_of_none hnone, Registry.elementDescriptor_pointers, elementName?_pointers]
  rw [hresult]
  refine ⟨⟨_, rfl, ?_⟩, ?_, ?_, ?_⟩
  · rw [classify_eq]
    exact Registry.arrayForm_elementDescriptor hx
  · intro hi
    rw [classify_eq, Registry.requests_of_isIdent hi]
  · intro hi
    cases x with
    | ident path name => cases hi
    | pointer target => cases hx
    | _ => rfl
  · intro registry hdecls hagree
    -- The text of the array is longer than any of the texts with stars, the texts that count for
    -- the element are shorter.
    have harray : registry.override? (TypeExpr.array (x.pointers n)).text = none := by
      rw [hagree, hnone]
      intro k hk hn heq
      have hlength := congrArg String.length heq
      rw [length_text_array, text_pointers, length_starred, length_starred] at hlength
      omega
    have hkeys : ∀ key ∈ x.elementKeys, registry.override? key = r.registry.override? key := by
      intro key hkey
      refine hagree key fun k hk hn heq => ?_
      have hlength := congrArg String.length heq
      have hle := length_of_mem_elementKeys hx hkey
      rw [length_starred] at hlength
      omega
    have hlookup : ∀ n, registry.lookup n = r.registry.lookup n := fun n => by
      rw [Registry.lookup, Registry.lookup, hdecls]
    have hdefinable : registry.definable? = r.registry.definable? := by
      funext n
      exact Registry.definable?_of_agree (hlookup n)
    have helement : registry.elementDescriptor x = r.registry.elementDescriptor x := by
      apply Registry.elementDescriptor_of_agree hx (fun n _ => hlookup n)
      · intro hs hbare
        exact hkeys _ (text_mem_elementKeys hx hs hbare)
      · rintro path name rfl - - -
        exact hkeys _ (List.mem_singleton_self name)
    have hchanged := classify_array_of_none (r := { r with registry }) harray
    rw [Registry.elementDescriptor_pointers, elementName?_pointers, askAll_withRegistry,
      helement, hdefinable] at hchanged
    exact hchanged

/-- A list of pointers to pointers to parts, with an override for one pointer to a part, and a list
of pointers to functions. -/
theorem classify_array_of_pointers_parts :
    let part : TypeExpr := .ident "acme/models" "Part"
    let handler : TypeExpr := .func [.ident "" "int"] []
    let plain := Registry.empty.register ⟨"acme/models", "Part", .struct []⟩
    let overriding := plain.addOverride "*models.Part" "integer"
    let r : Resolver Pending := .ofSink overriding .empty
    let parts := r.classify (.array (part.pointers 2))
    let handlers := r.classify (.array (handler.pointers 1))
    part.isPointer = false ∧ handler.isPointer = false ∧
      overriding.override? (TypeExpr.array (part.pointers 2)).text = none ∧
      overriding.override? (TypeExpr.array (handler.pointers 1)).text = none ∧
      (∃ d, parts.1 = .ok d ∧ overriding.ArrayForm part (r.classify part).1 d) ∧
      parts.1 = .ok ⟨"array", "Part", "models"⟩ ∧ parts.2 = (r.classify part).2 ∧
      (ofSink plain Pending.empty).classify (.array (part.pointers 2)) =
        (parts.1, { parts.2 with registry := plain }) ∧
      (∃ d, handlers.1 = .ok d ∧ overriding.ArrayForm handler (r.classify handler).1 d) ∧
      handlers.2 = r := by
  intro part handler plain overriding r parts handlers
  have hagree : ∀ key, (∀ k, 1 ≤ k → k ≤ 2 → key ≠ starred k part.text) →
      plain.override? key = overriding.override? key := by
    intro key hkey
    have hne : key ≠ "*models.Part" := hkey 1 (by decide) (by decide)
    have hput : overriding.override? key =
        if key = "*models.Part" then some "integer" else plain.override? key :=
      OrderedMap.get?_put ..
    rw [hput, if_neg hne]
  obtain ⟨hparts, hasked, -, hplain⟩ := classify_array_of_pointers r 2 (x := part) rfl rfl
  obtain ⟨hhandlers, -, hkept, -⟩ := classify_array_of_pointers r 1 (x := handler) rfl rfl
  exact ⟨rfl, rfl, rfl, rfl, hparts, rfl, hasked rfl, hplain plain rfl hagree, hhandlers, hkept rfl⟩

end Resolver

end TypeSchema
