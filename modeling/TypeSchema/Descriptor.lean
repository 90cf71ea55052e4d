import TypeSchema.Document
import TypeSchema.SchemaKind

namespace TypeSchema

/-- A descriptor with a module refers to a type of that module; one without is inline. -/
structure Descriptor where
  schemaType : String
  arrayType : String
  crossModule : String
  deriving DecidableEq, Repr

namespace Descriptor

def uniform (word : String) : Descriptor := ⟨word, word, ""⟩

def ofKind (kind : SchemaKind) : Descriptor := uniform kind.word

def arrayOf (element : String) : Descriptor := ⟨SchemaKind.array.word, element, ""⟩

def isReference (d : Descriptor) : Bool := !d.crossModule.isEmpty

/-- A descriptor is an array by the word alone, so a referenced type named so counts as one. -/
def isArray (d : Descriptor) : Bool := d.schemaType = SchemaKind.array.word

/-- The type that is referred to or held: the element of an array. -/
def subject (d : Descriptor) : String := if d.isArray then d.arrayType else d.schemaType

def referenceName? (d : Descriptor) : Option String :=
  if d.isReference then some (d.crossModule ++ "." ++ d.subject) else none

/-- The module is written only for a reference. -/
def entries (d : Descriptor) : List (String × Document) :=
  [("schemaType", .text d.schemaType), ("arrayType", .text d.arrayType)] ++
    if d.isReference then [("crossModule", .text d.crossModule)] else []

def document (d : Descriptor) : Document := .table d.entries

end Descriptor

/-- Whether a qualified name stands for itself or for the elements of an array. -/
inductive Shape where
  | scalar
  | arrayElement
  deriving DecidableEq, Repr

namespace Shape

def build (shape : Shape) (word module : String) : Descriptor :=
  match shape with
  | scalar => ⟨word, SchemaKind.string.word, module⟩
  | arrayElement => ⟨SchemaKind.array.word, word, module⟩

end Shape

end TypeSchema
