import TypeSchema.Proofs.Traversal
import TypeSchema.Resolver

namespace TypeSchema

namespace TypeExpr

/-- The qualified name of the elements of an array. -/
def elementName? : TypeExpr → Option DeclName
  | pointer target => target.elementName?
  | ident path name => if path.isEmpty then none else some ⟨shortModuleName path, name⟩
  | _ => none

end TypeExpr

theorem TypeDecl.narrowAlias?_eq_none_iff {d : TypeDecl} :
    d.narrowAlias? = none ↔
      ∀ path target, d.type = .ident path target → SchemaKind.narrow? target = none := by
  unfold narrowAlias?
  cases d.type <;> simp

namespace Registry

/-- The declaration of a name that has to be defined: one that is no value type, neither by its own
name nor as an alias. -/
def definable? (r : Registry) (n : DeclName) : Option TypeDecl :=
  if n.module.isEmpty || (SchemaKind.narrow? n.name).isSome then none
  else (r.lookup n).filter (·.narrowAlias?.isNone)

/-- The qualified name that an expression comes down to. An override on the way ends the search. -/
def resolvedName? (r : Registry) : TypeExpr → Option DeclName
  | .ident path name => if path.isEmpty then none else some ⟨shortModuleName path, name⟩
  | .pointer target =>
    if (r.overriding (.pointer target)).isSome then none else r.resolvedName? target
  | .array element =>
    if (r.overriding (.array element)).isSome then none else element.elementName?
  | _ => none

/-- The definition that classifying an expression asks for: none or one. -/
def requests (r : Registry) (e : TypeExpr) : List TypeDecl :=
  ((r.resolvedName? e).bind r.definable?).toList

/-- What a qualified name is described as. -/
def describe (r : Registry) (n : DeclName) (shape : Shape) : Descriptor :=
  match r.referent n with
  | .valueType kind => shape.build kind.word ""
  | .declared _ => shape.build n.name n.module
  | .overridden word => .uniform word
  | .unknown => .ofKind .string

def elementDescriptor (r : Registry) (e : TypeExpr) : Descriptor :=
  ((Resolver.ofSink r ()).classifyElement e).1

theorem definable?_eq_some_iff {r : Registry} {n : DeclName} {d : TypeDecl} :
    r.definable? n = some d ↔ n.module ≠ "" ∧ SchemaKind.narrow? n.name = none ∧
      r.lookup n = some d ∧ d.narrowAlias? = none := by
  unfold definable?
  by_cases hm : n.module = ""
  · simp [hm]
  · cases hk : SchemaKind.narrow? n.name <;> simp [hm]

theorem declName_of_definable {r : Registry} {n : DeclName} {d : TypeDecl}
    (h : r.definable? n = some d) : d.declName = n :=
  declName_of_lookup (definable?_eq_some_iff.mp h).2.2.1

theorem mem_of_definable {r : Registry} {n : DeclName} {d : TypeDecl}
    (h : r.definable? n = some d) : d ∈ r.decls :=
  mem_of_lookup (definable?_eq_some_iff.mp h).2.2.1

theorem referent_eq_declared_iff {r : Registry} {n : DeclName} {d : TypeDecl} :
    r.referent n = .declared d ↔ r.definable? n = some d := by
  rw [definable?_eq_some_iff]
  unfold referent qualifiedReferent
  cases hk : SchemaKind.narrow? n.name with
  | some kind => simp
  | none =>
    by_cases hm : n.module = ""
    · simp [hm]
    · cases hl : r.lookup n with
      | none => cases ho : r.override? n.name <;> simp [hm]
      | some e =>
        cases ha : e.narrowAlias? <;> simp [hm, TypeDecl.referent, ha]
        · rintro rfl
          exact ha
        · rintro rfl
          simp [ha]

theorem describe_of_definable {r : Registry} {n : DeclName} {d : TypeDecl}
    (h : r.definable? n = some d) (shape : Shape) :
    r.describe n shape = shape.build n.name n.module := by
  simp only [describe, referent_eq_declared_iff.mpr h]

theorem mem_requests_iff {r : Registry} {e : TypeExpr} {d : TypeDecl} :
    d ∈ r.requests e ↔ ∃ n, r.resolvedName? e = some n ∧ r.definable? n = some d := by
  simp [requests, Option.bind_eq_some_iff]

theorem length_requests_le (r : Registry) (e : TypeExpr) : (r.requests e).length ≤ 1 := by
  unfold requests
  cases (r.resolvedName? e).bind r.definable? <;> simp

end Registry

namespace Resolver

theorem registry_ofSink {σ : Type} (registry : Registry) (sink : σ) :
    (ofSink registry sink).registry = registry := rfl

variable {σ : Type} [DefinitionSink σ]

/-- Asks for the definitions in turn. -/
def askAll (r : Resolver σ) (ds : List TypeDecl) : Resolver σ := ds.foldl ask r

theorem askAll_append (r : Resolver σ) (ds es : List TypeDecl) :
    r.askAll (ds ++ es) = (r.askAll ds).askAll es :=
  List.foldl_append

theorem isAsked_ask (r : Resolver σ) (d : TypeDecl) : (r.ask d).isAsked d.declName = true := by
  rw [isAsked, decide_eq_true_eq]
  unfold ask
  split
  · assumption
  · simp

theorem ask_of_isAsked {r : Resolver σ} {d : TypeDecl} (h : r.isAsked d.declName = true) :
    r.ask d = r :=
  if_pos (of_decide_eq_true h)

theorem ask_of_not_isAsked {r : Resolver σ} {d : TypeDecl} (h : r.isAsked d.declName = false) :
    r.ask d =
      { r with asked := r.asked ++ [d.declName], sink := DefinitionSink.receive r.sink d } :=
  if_neg (of_decide_eq_false h)

@[simp]
theorem registry_ask (r : Resolver σ) (d : TypeDecl) : (r.ask d).registry = r.registry := by
  unfold ask
  split <;> rfl

@[simp]
theorem registry_askAll (r : Resolver σ) (ds : List TypeDecl) :
    (r.askAll ds).registry = r.registry := by
  induction ds generalizing r with
  | nil => rfl
  | cons d ds ih => exact (ih (r.ask d)).trans (registry_ask r d)

theorem resolveQualified_eq (r : Resolver σ) (path name : String) (shape : Shape) :
    r.resolveQualified path name shape =
      (r.registry.describe ⟨shortModuleName path, name⟩ shape,
        r.askAll (r.registry.definable? ⟨shortModuleName path, name⟩).toList) := by
  unfold resolveQualified Registry.describe
  cases h : r.registry.referent ⟨shortModuleName path, name⟩ with
  | declared d => rw [Registry.referent_eq_declared_iff.mp h]; rfl
  | _ =>
    have hn : r.registry.definable? ⟨shortModuleName path, name⟩ = none := by
      rw [Option.eq_none_iff_forall_ne_some]
      intro d hd
      rw [Registry.referent_eq_declared_iff.mpr hd] at h
      cases h
    rw [hn]; rfl

theorem classifyElement_eq (r : Resolver σ) (e : TypeExpr) :
    r.classifyElement e = (r.registry.elementDescriptor e,
      r.askAll (e.elementName?.bind r.registry.definable?).toList) := by
  unfold Registry.elementDescriptor
  induction e using TypeExpr.elementName?.induct with
  | case1 target ih => exact ih
  | case2 path name hp => simp [classifyElement, TypeExpr.elementName?, hp, askAll, ofSink]
  | case3 path name hp =>
    simp [classifyElement, TypeExpr.elementName?, hp, resolveQualified_eq, ofSink]
  | case4 e hp hi =>
    cases e with
    | pointer target => exact absurd rfl (hp target)
    | ident path name => exact absurd rfl (hi path name)
    | _ => simp [classifyElement, TypeExpr.elementName?, askAll, ofSink]

theorem classify_qualified {path : String} (hp : path.isEmpty = false) (r : Resolver σ)
    (name : String) :
    r.classify (.ident path name) =
      (.ok (r.resolveQualified path name .scalar).1, (r.resolveQualified path name .scalar).2) :=
  if_neg (Bool.eq_false_iff.mp hp)

theorem classify_bare {path : String} (hp : path.isEmpty = true) (r : Resolver σ)
    (name : String) :
    r.classify (.ident path name) =
      (.ok ((r.registry.overriding (.ident path name)).getD (.ofKind (.broad name))), r) :=
  if_pos hp

theorem classify_pointer (r : Resolver σ) (target : TypeExpr) :
    r.classify (.pointer target) =
      match r.registry.overriding (.pointer target) with
      | some d => (.ok d, r)
      | none => r.classify target :=
  rfl

theorem classify_array (r : Resolver σ) (element : TypeExpr) :
    r.classify (.array element) =
      match r.registry.overriding (.array element) with
      | some d => (.ok d, r)
      | none => (.ok (r.classifyElement element).1, (r.classifyElement element).2) :=
  rfl

theorem classify_func (r : Resolver σ) (params results : List TypeExpr) :
    r.classify (.func params results) =
      match r.registry.overriding (.func params results) with
      | some d => (.ok d, r)
      | none => (.error ⟨(TypeExpr.func params results).text⟩, r) :=
  rfl

theorem classify_chan (r : Resolver σ) (message : TypeExpr) :
    r.classify (.chan message) =
      match r.registry.overriding (.chan message) with
      | some d => (.ok d, r)
      | none => (.error ⟨(TypeExpr.chan message).text⟩, r) :=
  rfl

/-- Classifying yields what the registry says, whatever has been asked for before. -/
theorem classify_eq (r : Resolver σ) (e : TypeExpr) :
    r.classify e = (r.registry.classify e, r.askAll (r.registry.requests e)) := by
  unfold Registry.classify Registry.requests
  induction e using classify.induct r with
  | case1 path name hp => simp [classify, Registry.resolvedName?, hp, askAll, ofSink]
  | case2 path name hp =>
    simp [classify, Registry.resolvedName?, hp, resolveQualified_eq, ofSink]
  | case3 target d hd => simp [classify, Registry.resolvedName?, hd, askAll, ofSink]
  | case4 target hd ih =>
    have hc : (ofSink r.registry ()).classify (.pointer target) =
        (ofSink r.registry ()).classify target := by
      simp [classify, hd, ofSink]
    rw [hc]
    simpa [classify, Registry.resolvedName?, hd] using ih
  | case5 element d hd => simp [classify, Registry.resolvedName?, hd, askAll, ofSink]
  | case6 element hd =>
    simp [classify, Registry.resolvedName?, hd, classifyElement_eq, ofSink]
  | case7 params results d hd => simp [classify, Registry.resolvedName?, hd, askAll, ofSink]
  | case8 params results hd => simp [classify, Registry.resolvedName?, hd, askAll, ofSink]
  | case9 message d hd => simp [classify, Registry.resolvedName?, hd, askAll, ofSink]
  | case10 message hd => simp [classify, Registry.resolvedName?, hd, askAll, ofSink]
  | case11 e hi hp ha hf hc =>
    cases e with
    | ident path name => exact absurd rfl (hi path name)
    | pointer target => exact absurd rfl (hp target)
    | array element => exact absurd rfl (ha element)
    | func params results => exact absurd rfl (hf params results)
    | chan message => exact absurd rfl (hc message)
    | _ => simp [classify, Registry.resolvedName?, askAll, ofSink]

/-- A list of expressions has descriptors where each of them has one. -/
theorem classifyAll_eq (r : Resolver σ) (es : List TypeExpr) :
    r.classifyAll es = (es.mapM r.registry.classify).map fun ds =>
      (ds, r.askAll (es.flatMap r.registry.requests)) := by
  induction es generalizing r with
  | nil => rfl
  | cons e es ih =>
    rw [classifyAll, classify_eq, List.mapM_cons]
    cases r.registry.classify e with
    | error u => rfl
    | ok d =>
      simp only [ih, registry_askAll, ← askAll_append, ← List.flatMap_cons]
      cases es.mapM r.registry.classify <;> rfl

end Resolver

namespace Registry

variable {r : Registry}

theorem classify_qualified {path : String} (hp : path.isEmpty = false) (name : String) :
    r.classify (.ident path name) = .ok (r.describe ⟨shortModuleName path, name⟩ .scalar) := by
  show ((Resolver.ofSink r ()).classify (.ident path name)).1 = _
  rw [Resolver.classify_qualified hp, Resolver.resolveQualified_eq]
  rfl

theorem classify_bare {path : String} (hp : path.isEmpty = true) (name : String) :
    r.classify (.ident path name) =
      .ok ((r.overriding (.ident path name)).getD (.ofKind (.broad name))) := by
  show ((Resolver.ofSink r ()).classify (.ident path name)).1 = _
  rw [Resolver.classify_bare hp, Resolver.registry_ofSink]

theorem classify_pointer (target : TypeExpr) :
    r.classify (.pointer target) =
      match r.overriding (.pointer target) with
      | some d => .ok d
      | none => r.classify target := by
  show ((Resolver.ofSink r ()).classify (.pointer target)).1 = _
  rw [Resolver.classify_pointer, Resolver.registry_ofSink]
  cases r.overriding (.pointer target) <;> rfl

theorem classify_array (element : TypeExpr) :
    r.classify (.array element) =
      .ok ((r.overriding (.array element)).getD (r.elementDescriptor element)) := by
  show ((Resolver.ofSink r ()).classify (.array element)).1 = _
  rw [Resolver.classify_array, Resolver.registry_ofSink]
  cases r.overriding (.array element) <;> rfl

theorem elementDescriptor_pointer (target : TypeExpr) :
    r.elementDescriptor (.pointer target) = r.elementDescriptor target := rfl

theorem elementDescriptor_qualified {path : String} (hp : path.isEmpty = false) (name : String) :
    r.elementDescriptor (.ident path name) =
      r.describe ⟨shortModuleName path, name⟩ .arrayElement := by
  have hbranch : (Resolver.ofSink r ()).classifyElement (.ident path name) =
      (Resolver.ofSink r ()).resolveQualified path name .arrayElement :=
    if_neg (Bool.eq_false_iff.mp hp)
  show ((Resolver.ofSink r ()).classifyElement (.ident path name)).1 = _
  rw [hbranch, Resolver.resolveQualified_eq]
  rfl

theorem elementDescriptor_bare {path : String} (hp : path.isEmpty = true) (name : String) :
    r.elementDescriptor (.ident path name) =
      .arrayOf ((r.override? name).getD (SchemaKind.broad name).word) :=
  congrArg Prod.fst (if_pos hp)

theorem classify_map (key value : TypeExpr) :
    r.classify (.map key value) =
      .ok ((r.overriding (.map key value)).getD (.ofKind .object)) :=
  rfl

theorem classify_struct (fields : List (Field TypeExpr)) :
    r.classify (.struct fields) = .ok ((r.overriding (.struct fields)).getD (.ofKind .object)) :=
  rfl

theorem classify_interface :
    r.classify .interface = .ok ((r.overriding .interface).getD (.ofKind .object)) :=
  rfl

theorem classify_func (params results : List TypeExpr) :
    r.classify (.func params results) =
      match r.overriding (.func params results) with
      | some d => .ok d
      | none => .error ⟨(TypeExpr.func params results).text⟩ := by
  show ((Resolver.ofSink r ()).classify (.func params results)).1 = _
  rw [Resolver.classify_func, Resolver.registry_ofSink]
  cases r.overriding (.func params results) <;> rfl

theorem classify_chan (message : TypeExpr) :
    r.classify (.chan message) =
      match r.overriding (.chan message) with
      | some d => .ok d
      | none => .error ⟨(TypeExpr.chan message).text⟩ := by
  show ((Resolver.ofSink r ()).classify (.chan message)).1 = _
  rw [Resolver.classify_chan, Resolver.registry_ofSink]
  cases r.overriding (.chan message) <;> rfl

theorem requests_qualified {path : String} (hp : path.isEmpty = false) (name : String) :
    r.requests (.ident path name) = (r.definable? ⟨shortModuleName path, name⟩).toList := by
  simp [requests, resolvedName?, hp]

theorem requests_pointer {target : TypeExpr} (h : r.overriding (.pointer target) = none) :
    r.requests (.pointer target) = r.requests target := by
  simp [requests, resolvedName?, h]

theorem requests_array {element : TypeExpr} (h : r.overriding (.array element) = none) :
    r.requests (.array element) = (element.elementName?.bind r.definable?).toList := by
  simp [requests, resolvedName?, h]

end Registry

end TypeSchema
