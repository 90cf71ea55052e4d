import TypeSchema.Descriptor

namespace TypeSchema

inductive ElementSchema where
  | inline (kind : SchemaKind)
  | reference (name : String)
  deriving DecidableEq, Repr

inductive OpenApiSchema where
  | single (element : ElementSchema)
  | array (items : ElementSchema)
  deriving DecidableEq, Repr

namespace Descriptor

/-- An inline word outside the vocabulary is shown as a string. -/
def elementSchema (d : Descriptor) : ElementSchema :=
  match d.referenceName? with
  | some name => .reference name
  | none => .inline ((SchemaKind.ofWord? d.subject).getD .string)

def openApi (d : Descriptor) : OpenApiSchema :=
  if d.isArray then .array d.elementSchema else .single d.elementSchema

end Descriptor

namespace ElementSchema

def document : ElementSchema → Document
  | inline kind => .single "type" (.text kind.word)
  | reference name => .single "$ref" (.text ("#/components/schemas/" ++ name))

end ElementSchema

namespace OpenApiSchema

def document : OpenApiSchema → Document
  | single element => element.document
  | array items => .table [("type", .text SchemaKind.array.word), ("items", items.document)]

end OpenApiSchema

end TypeSchema
