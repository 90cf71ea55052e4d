import TypeSchema.Resolver

namespace TypeSchema

/-- The queue holds the oldest first. -/
structure Pending where
  queue : List TypeDecl

namespace Pending

def empty : Pending := ⟨[]⟩

def pop : Pending → Option (TypeDecl × Pending)
  | ⟨[]⟩ => none
  | ⟨d :: ds⟩ => some (d, ⟨ds⟩)

instance : DefinitionSink Pending where
  receive p d := ⟨p.queue ++ [d]⟩

end Pending

namespace Resolver

/-- Takes the declaration that has waited longest. -/
def pop? (r : Resolver Pending) : Option (TypeDecl × Resolver Pending) :=
  match r.sink.pop with
  | none => none
  | some (d, sink) => some (d, { r with sink })

end Resolver

end TypeSchema
