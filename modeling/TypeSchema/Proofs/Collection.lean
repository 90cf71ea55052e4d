import TypeSchema.Definition.Builder
import TypeSchema.Proofs.Resolution

namespace TypeSchema

namespace Registry

abbrev FieldExpander :=
  (path : String) → (outer : List DeclName) → List (Field TypeExpr) → List (Field TypeExpr)

/-- The fields that stand for a field of a struct: none for a hidden one or for a struct inside
itself, those of the embedded struct, or the field alone. -/
def expandField (r : Registry) (nested : FieldExpander) (path : String) (outer : List DeclName)
    (f : Field TypeExpr) : List (Field TypeExpr) :=
  if f.isHidden then []
  else
    match r.embeddedStruct? path f with
    | some (d, fields) =>
      if d.declName ∈ outer then [] else nested d.modulePath (d.declName :: outer) fields
    | none => [f]

def expandFields (r : Registry) : Nat → FieldExpander
  | 0, _, _, _ => []
  | depth + 1, path, outer, fields =>
    fields.flatMap (r.expandField (r.expandFields depth) path outer)

/-- The fields that make up the definition of a struct. -/
def structFields (r : Registry) (d : TypeDecl) (fields : List (Field TypeExpr)) :
    List (Field TypeExpr) :=
  r.expandFields r.size d.modulePath [d.declName] fields

def describedFields (r : Registry) (fields : List (Field TypeExpr)) :
    List (String × Descriptor) :=
  fields.filterMap fun f =>
    match r.classify f.type with
    | .ok d => some (f.propertyName, d)
    | .error _ => none

def refusedFields (r : Registry) (fields : List (Field TypeExpr)) : List SkippedField :=
  fields.filterMap fun f =>
    match r.classify f.type with
    | .ok _ => none
    | .error u => some ⟨f.propertyName, u⟩

/-- The definition of a declaration, none where it has no descriptor. -/
def definitionOf (r : Registry) (d : TypeDecl) : Option Definition :=
  match d.fields? with
  | some fields =>
    some ⟨d.declName, .object (.ofList (r.describedFields (r.structFields d fields)))
      (r.refusedFields (r.structFields d fields))⟩
  | none =>
    match r.classify d.type with
    | .ok target => some ⟨d.declName, .aliasOf target⟩
    | .error _ => none

/-- The definitions that building a declaration refers to. -/
def buildRequests (r : Registry) (d : TypeDecl) : List TypeDecl :=
  match d.fields? with
  | some fields => (r.structFields d fields).flatMap fun f => r.requests f.type
  | none => r.requests d.type

theorem describedFields_append (r : Registry) (fs gs : List (Field TypeExpr)) :
    r.describedFields (fs ++ gs) = r.describedFields fs ++ r.describedFields gs :=
  List.filterMap_append

theorem refusedFields_append (r : Registry) (fs gs : List (Field TypeExpr)) :
    r.refusedFields (fs ++ gs) = r.refusedFields fs ++ r.refusedFields gs :=
  List.filterMap_append

theorem declName_of_definitionOf {r : Registry} {d : TypeDecl} {definition : Definition}
    (h : r.definitionOf d = some definition) : definition.name = d.declName := by
  unfold definitionOf at h
  split at h
  · cases h; rfl
  · split at h <;> cases h
    rfl

/-- Only a declaration that is no struct and has no descriptor goes without a definition. -/
theorem definitionOf_eq_none_iff {r : Registry} {d : TypeDecl} :
    r.definitionOf d = none ↔ d.type.isStruct = false ∧ ∃ u, r.classify d.type = .error u := by
  unfold definitionOf TypeDecl.fields?
  cases ht : d.type with
  | struct fields => simp [TypeExpr.isStruct]
  | _ =>
    simp only [TypeExpr.isStruct, true_and]
    split
    · next hc => simp [hc]
    · next u hc => simp [hc]

end Registry

namespace Collected

variable (c : Collected)

/-- Adds the fields in turn. -/
def addFields (fields : List (Field TypeExpr)) : Collected := fields.foldl addField c

theorem addField_eq (f : Field TypeExpr) :
    c.addField f =
      { resolver := c.resolver.askAll (c.resolver.registry.requests f.type)
        properties := (c.resolver.registry.describedFields [f]).foldl
          (fun m e => m.put e.1 e.2) c.properties
        skipped := c.skipped ++ c.resolver.registry.refusedFields [f] } := by
  unfold addField
  rw [Resolver.classify_eq]
  cases hc : c.resolver.registry.classify f.type with
  | ok d => simp [Registry.describedFields, Registry.refusedFields, hc]
  | error u => simp [Registry.describedFields, Registry.refusedFields, hc]

theorem registry_addFields (fields : List (Field TypeExpr)) :
    (c.addFields fields).resolver.registry = c.resolver.registry := by
  induction fields generalizing c with
  | nil => rfl
  | cons f fields ih =>
    have hf : (c.addField f).resolver.registry = c.resolver.registry := by simp [addField_eq]
    exact (ih (c.addField f)).trans hf

theorem addFields_eq (fields : List (Field TypeExpr)) :
    c.addFields fields =
      { resolver := c.resolver.askAll (fields.flatMap fun f => c.resolver.registry.requests f.type)
        properties := (c.resolver.registry.describedFields fields).foldl
          (fun m e => m.put e.1 e.2) c.properties
        skipped := c.skipped ++ c.resolver.registry.refusedFields fields } := by
  induction fields generalizing c with
  | nil => simp [addFields, Registry.describedFields, Registry.refusedFields, Resolver.askAll]
  | cons f fields ih =>
    have hc : c.addFields (f :: fields) = (c.addField f).addFields fields := rfl
    have hf : (c.addField f).resolver.registry = c.resolver.registry := by simp [addField_eq]
    have hs : f :: fields = [f] ++ fields := rfl
    rw [hc, ih, hf, hs, Registry.describedFields_append, Registry.refusedFields_append,
      List.flatMap_append, List.flatMap_singleton, Resolver.askAll_append, List.foldl_append,
      ← List.append_assoc, addField_eq]

/-- Collecting is adding the expanded fields. The collected state takes no part in expanding. -/
theorem collectFields_eq (depth : Nat) (path : String) (outer : List DeclName)
    (fields : List (Field TypeExpr)) :
    collectFields depth path outer fields c =
      c.addFields (c.resolver.registry.expandFields depth path outer fields) := by
  induction depth generalizing path outer fields c with
  | zero => rfl
  | succ depth ih =>
    unfold collectFields Registry.expandFields
    induction fields generalizing c with
    | nil => rfl
    | cons f fields ihf =>
      -- One field at the present depth: only an embedded struct goes one level down.
      have hstep : collectField (collectFields depth) path outer c f =
          c.addFields (c.resolver.registry.expandField
            (c.resolver.registry.expandFields depth) path outer f) := by
        unfold collectField Registry.expandField
        by_cases hh : f.isHidden
        · simp [hh, addFields]
        · cases c.resolver.registry.embeddedStruct? path f with
          | none => simp [hh, addFields]
          | some e =>
            by_cases ho : e.1.declName ∈ outer
            · simp [hh, ho, addFields]
            · simp [hh, ho, ih]
      rw [List.foldl_cons, hstep, ihf, registry_addFields, List.flatMap_cons]
      exact List.foldl_append.symm

end Collected

namespace Resolver

/-- Building a declaration yields what the registry says, whatever has been asked for before. -/
theorem buildDefinition_eq (r : Resolver Pending) (d : TypeDecl) :
    r.buildDefinition d =
      (r.registry.definitionOf d, r.askAll (r.registry.buildRequests d)) := by
  unfold buildDefinition Registry.definitionOf Registry.buildRequests
  cases d.fields? with
  | some fields =>
    simp only [collectStruct, Collected.collectFields_eq, Collected.addFields_eq,
      Registry.structFields, OrderedMap.ofList, List.nil_append]
  | none =>
    simp only [classify_eq]
    cases r.registry.classify d.type <;> rfl

end Resolver

end TypeSchema
