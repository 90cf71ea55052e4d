import TypeSchema.Resolver

namespace TypeSchema

structure SkippedField where
  field : String
  reason : Unsupported
  deriving DecidableEq, Repr

inductive DefinitionBody where
  | object (properties : OrderedMap String Descriptor) (skipped : List SkippedField)
  | aliasOf (target : Descriptor)

structure Definition where
  name : DeclName
  body : DefinitionBody

abbrev Definitions := OrderedMap String Definition

namespace SkippedField

def document (s : SkippedField) : Document :=
  .table [("field", .text s.field), ("reason", .text s.reason.message)]

end SkippedField

namespace DefinitionBody

/-- Skipped fields are written only where there are some. -/
def entries : DefinitionBody → List (String × Document)
  | object properties skipped =>
    [("kind", .text "object"),
      ("properties", .table (properties.entries.map fun e => (e.1, e.2.document)))] ++
      if skipped.isEmpty then []
      else [("skipped", .list (skipped.map SkippedField.document))]
  | aliasOf target => [("kind", .text "alias"), ("target", target.document)]

end DefinitionBody

namespace Definition

def document (d : Definition) : Document :=
  .table ([("module", .text d.name.module), ("name", .text d.name.name)] ++ d.body.entries)

end Definition

namespace Definitions

def document (ds : Definitions) : Document :=
  .table (ds.entries.map fun e => (e.1, e.2.document))

end Definitions

end TypeSchema
