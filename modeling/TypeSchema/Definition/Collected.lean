import TypeSchema.Definition.Basic
import TypeSchema.Definition.Field
import TypeSchema.Definition.Pending

namespace TypeSchema

/-- What has been collected of a struct's fields. -/
structure Collected where
  resolver : Resolver Pending
  properties : OrderedMap String Descriptor
  skipped : List SkippedField

namespace Collected

/-- Adds the field as a property, or as skipped where its type has no descriptor. -/
def addField (c : Collected) (f : Field TypeExpr) : Collected :=
  match c.resolver.classify f.type with
  | (.ok d, r) => { c with resolver := r, properties := c.properties.put f.propertyName d }
  | (.error u, r) => { c with resolver := r, skipped := c.skipped ++ [⟨f.propertyName, u⟩] }

abbrev FieldCollector :=
  (path : String) → (outer : List DeclName) → List (Field TypeExpr) → Collected → Collected

/-- An embedded struct that is being collected already gives nothing more. -/
def collectField (nested : FieldCollector) (path : String) (outer : List DeclName) (c : Collected)
    (f : Field TypeExpr) : Collected :=
  if f.isHidden then c
  else
    match c.resolver.registry.embeddedStruct? path f with
    | some (d, fields) =>
      if d.declName ∈ outer then c else nested d.modulePath (d.declName :: outer) fields c
    | none => c.addField f

/-- Collects fields seen from the module at `path`, inside the structs `outer`, at most `depth`
structs deep. -/
def collectFields : Nat → FieldCollector
  | 0, _, _, _, c => c
  | depth + 1, path, outer, fields, c =>
    fields.foldl (collectField (collectFields depth) path outer) c

end Collected

namespace Resolver

/-- The fields of a declared struct. Structs nested in each other are different ones, so no
nesting is deeper than the registry is large. -/
def collectStruct (r : Resolver Pending) (d : TypeDecl) (fields : List (Field TypeExpr)) :
    Collected :=
  Collected.collectFields r.registry.size d.modulePath [d.declName] fields ⟨r, .empty, []⟩

end Resolver

end TypeSchema
