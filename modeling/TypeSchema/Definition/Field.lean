import TypeSchema.Registry
import TypeSchema.TypeExpr.Printer
import TypeSchema.TypeExpr.Tag

namespace TypeSchema

namespace Field

/-- The JSON name of a tag is its value up to the first comma. -/
def jsonName? {τ : Type} (f : Field τ) : Option String :=
  (f.tagValue? "json").map fun v => String.ofList (v.toList.takeWhile (· ≠ ','))

def isHidden {τ : Type} (f : Field τ) : Bool := f.jsonName? = some "-"

def hasJsonName {τ : Type} (f : Field τ) : Bool :=
  match f.jsonName? with
  | some name => !name.isEmpty
  | none => false

/-- The name of a field as written: that of its type if it is embedded. -/
def writtenName (f : Field TypeExpr) : String :=
  if f.isEmbedded then
    match f.type.stripPointers with
    | .ident _ name => name
    | type => type.text
  else f.name

def propertyName (f : Field TypeExpr) : String :=
  match f.jsonName? with
  | some name => if name.isEmpty then f.writtenName else name
  | none => f.writtenName

/-- The declaration that an embedded type names, seen from the module at `path`. -/
def embeddedName? (path : String) (f : Field TypeExpr) : Option DeclName :=
  match f.type.stripPointers with
  | .ident own name => some ⟨shortModuleName (if own.isEmpty then path else own), name⟩
  | _ => none

end Field

namespace Registry

/-- The struct whose fields stand in for an embedded field. A JSON name makes the field a property
of its own. -/
def embeddedStruct? (r : Registry) (path : String) (f : Field TypeExpr) :
    Option (TypeDecl × List (Field TypeExpr)) :=
  if f.isEmbedded && !f.hasJsonName then do
    let d ← r.lookup (← f.embeddedName? path)
    let fields ← d.fields?
    return (d, fields)
  else none

end Registry

end TypeSchema
