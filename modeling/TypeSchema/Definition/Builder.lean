import TypeSchema.Definition.Collected

namespace TypeSchema

namespace Resolver

/-- A declaration without a descriptor has no definition. -/
def buildDefinition (r : Resolver Pending) (d : TypeDecl) :
    Option Definition × Resolver Pending :=
  match d.fields? with
  | some fields =>
    let c := r.collectStruct d fields
    (some ⟨d.declName, .object c.properties c.skipped⟩, c.resolver)
  | none =>
    match r.classify d.type with
    | (.ok target, r) => (some ⟨d.declName, .aliasOf target⟩, r)
    | (.error _, r) => (none, r)

end Resolver

/-- A resolver whose queue holds the definitions still to be built, and those built so far. -/
structure DefinitionBuilder where
  resolver : Resolver Pending
  built : Definitions

namespace DefinitionBuilder

def ofRegistry (registry : Registry) : DefinitionBuilder :=
  ⟨.ofSink registry .empty, .empty⟩

def classify (b : DefinitionBuilder) (e : TypeExpr) :
    Except Unsupported Descriptor × DefinitionBuilder :=
  let (d, r) := b.resolver.classify e
  (d, { b with resolver := r })

/-- Asks for a definition by name, and says whether it is newly queued. A name for a well-known
value type needs none. -/
def request (b : DefinitionBuilder) (module name : String) : Bool × DefinitionBuilder :=
  let n : DeclName := ⟨shortModuleName module, name⟩
  if (b.resolver.registry.lookup n).isNone || b.resolver.isAsked n then (false, b)
  else
    let (_, r) := b.resolver.resolveQualified module name .scalar
    (r.isAsked n, { b with resolver := r })

def addBuilt (built : Definitions) : Option Definition → Definitions
  | some definition => built.put definition.name.text definition
  | none => built

/-- Builds the definition that has waited longest. -/
def next? (b : DefinitionBuilder) : Option DefinitionBuilder :=
  match b.resolver.pop? with
  | none => none
  | some (d, r) =>
    let (definition, r) := r.buildDefinition d
    some ⟨r, addBuilt b.built definition⟩

/-- Builds on while something waits, for at most `turns` turns. -/
def run : Nat → DefinitionBuilder → DefinitionBuilder
  | 0, b => b
  | turns + 1, b =>
    match b.next? with
    | none => b
    | some b => run turns b

/-- One turn for each waiting declaration and for each that may still be asked for. -/
def finish (b : DefinitionBuilder) : Definitions :=
  (b.run (b.resolver.sink.queue.length + b.resolver.registry.size)).built

end DefinitionBuilder

/-- Classifies the roots, and builds the definitions they reach once all have a descriptor. -/
def buildDefinitions (registry : Registry) (roots : List TypeExpr) :
    Except Unsupported (List Descriptor × Definitions) := do
  let (descriptors, r) ← (Resolver.ofSink registry Pending.empty).classifyAll roots
  return (descriptors, (DefinitionBuilder.mk r .empty).finish)

end TypeSchema
