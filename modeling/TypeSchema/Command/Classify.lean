import TypeSchema.Error
import TypeSchema.Json.Printer
import TypeSchema.OpenApi
import TypeSchema.TypeExpr.Parser

namespace TypeSchema

namespace Error

def ofParse {α : Type} : Attempt α → Except Error α
  | .ok a => .ok a
  | .error e => .error (.parse e)

def ofClassify {α : Type} : Except Unsupported α → Except Error α
  | .ok a => .ok a
  | .error u => .error (.unsupported u)

end Error

namespace Command

def classifyEntry (openApi : Bool) (expression : String) (d : Descriptor) : Document :=
  .table (("expression", .text expression) ::
    if openApi then [("schema", d.openApi.document)] else d.entries)

/-- Reads and classifies one expression after the other, up to the first that fails. -/
def descriptors {σ : Type} [DefinitionSink σ] (r : Resolver σ) :
    List String → Except Error (List (String × Descriptor))
  | [] => .ok []
  | expression :: expressions => do
    let e ← Error.ofParse (TypeExpr.parse expression)
    match r.classify e with
    | (.error u, _) => .error (.unsupported u)
    | (.ok d, r) => do
      let ds ← descriptors r expressions
      return (expression, d) :: ds

def classify (registry : Registry) (openApi : Bool) (expressions : List String) :
    Except Error String := do
  let ds ← descriptors (.ofSink registry ()) expressions
  return Json.pretty (.list (ds.map fun d => classifyEntry openApi d.1 d.2))

end Command

end TypeSchema
