import TypeSchema.Descriptor
import TypeSchema.Registry
import TypeSchema.TypeExpr.Printer

namespace TypeSchema

/-- A type without a schema, by its text. -/
structure Unsupported where
  expression : String
  deriving DecidableEq, Repr

namespace Unsupported

def message (u : Unsupported) : String := "Unsupported expression kind: " ++ u.expression

end Unsupported

/-- Takes the declarations whose definitions are asked for. -/
class DefinitionSink (σ : Type) where
  receive : σ → TypeDecl → σ

instance : DefinitionSink Unit where
  receive _ _ := ()

structure Resolver (σ : Type) where
  registry : Registry
  asked : List DeclName
  sink : σ

/-- What a qualified name stands for. -/
inductive Referent where
  | valueType (kind : SchemaKind)
  | declared (decl : TypeDecl)
  | overridden (word : String)
  | unknown

namespace TypeDecl

/-- A declaration of a well-known value type under another name. -/
def narrowAlias? (d : TypeDecl) : Option SchemaKind :=
  match d.type with
  | .ident _ target => SchemaKind.narrow? target
  | _ => none

def referent (d : TypeDecl) : Referent :=
  match d.narrowAlias? with
  | some kind => .valueType kind
  | none => .declared d

end TypeDecl

namespace Registry

def overriding (r : Registry) (e : TypeExpr) : Option Descriptor :=
  (r.override? e.text).map .uniform

/-- A module without a name has no declarations, and its types no overrides. -/
def qualifiedReferent (r : Registry) (n : DeclName) : Referent :=
  if n.module.isEmpty then .unknown
  else
    match r.lookup n with
    | some d => d.referent
    | none =>
      match r.override? n.name with
      | some word => .overridden word
      | none => .unknown

/-- The names of well-known value types mean those types in every module. -/
def referent (r : Registry) (n : DeclName) : Referent :=
  match SchemaKind.narrow? n.name with
  | some kind => .valueType kind
  | none => r.qualifiedReferent n

end Registry

namespace Resolver

variable {σ : Type} [DefinitionSink σ]

def ofSink (registry : Registry) (sink : σ) : Resolver σ := ⟨registry, [], sink⟩

def isAsked (r : Resolver σ) (n : DeclName) : Bool := n ∈ r.asked

def ask (r : Resolver σ) (d : TypeDecl) : Resolver σ :=
  if d.declName ∈ r.asked then r
  else { r with asked := r.asked ++ [d.declName], sink := DefinitionSink.receive r.sink d }

/-- Overrides and unknown names keep their scalar form also inside an array. -/
def resolveQualified (r : Resolver σ) (path name : String) (shape : Shape) :
    Descriptor × Resolver σ :=
  match r.registry.referent ⟨shortModuleName path, name⟩ with
  | .valueType kind => (shape.build kind.word "", r)
  | .declared d => (shape.build name (shortModuleName path), r.ask d)
  | .overridden word => (.uniform word, r)
  | .unknown => (.ofKind .string, r)

/-- The descriptor of an array by its element. Elements that are neither names nor struct
literals count as strings. -/
def classifyElement (r : Resolver σ) : TypeExpr → Descriptor × Resolver σ
  | .pointer target => r.classifyElement target
  | .struct _ => (.arrayOf SchemaKind.object.word, r)
  | .ident path name =>
    if path.isEmpty then
      (.arrayOf ((r.registry.override? name).getD (SchemaKind.broad name).word), r)
    else r.resolveQualified path name .arrayElement
  | e => (.arrayOf ((r.registry.override? e.text).getD SchemaKind.string.word), r)

/-- Only a func or a chan has no descriptor, and only where no override gives it one. -/
def classify (r : Resolver σ) : TypeExpr → Except Unsupported Descriptor × Resolver σ
  | .ident path name =>
    if path.isEmpty then
      (.ok ((r.registry.overriding (.ident path name)).getD (.ofKind (.broad name))), r)
    else
      let (d, r) := r.resolveQualified path name .scalar
      (.ok d, r)
  | .pointer target =>
    match r.registry.overriding (.pointer target) with
    | some d => (.ok d, r)
    | none => r.classify target
  | .array element =>
    match r.registry.overriding (.array element) with
    | some d => (.ok d, r)
    | none =>
      let (d, r) := r.classifyElement element
      (.ok d, r)
  | .func params results =>
    match r.registry.overriding (.func params results) with
    | some d => (.ok d, r)
    | none => (.error ⟨(TypeExpr.func params results).text⟩, r)
  | .chan message =>
    match r.registry.overriding (.chan message) with
    | some d => (.ok d, r)
    | none => (.error ⟨(TypeExpr.chan message).text⟩, r)
  | e => (.ok ((r.registry.overriding e).getD (.ofKind .object)), r)

/-- Classifies the expressions in turn, up to the first that has no descriptor. -/
def classifyAll (r : Resolver σ) : List TypeExpr → Except Unsupported (List Descriptor × Resolver σ)
  | [] => .ok ([], r)
  | e :: es =>
    match r.classify e with
    | (.error u, _) => .error u
    | (.ok d, r) => do
      let (ds, r) ← r.classifyAll es
      return (d :: ds, r)

end Resolver

namespace Registry

/-- Classifies without asking for definitions. -/
def classify (r : Registry) (e : TypeExpr) : Except Unsupported Descriptor :=
  ((Resolver.ofSink r ()).classify e).1

end Registry

end TypeSchema
