import TypeSchema.Manifest.Node
import TypeSchema.TypeExpr.Parser

namespace TypeSchema

/-- Declared types by name. -/
abbrev ModuleTypes := OrderedMap String TypeExpr

structure Manifest where
  overrides : OrderedMap String String
  modules : OrderedMap String ModuleTypes

namespace Manifest

/-- The first fault of a manifest in document order. -/
inductive Fault where
  | malformed
  | badType (e : ParseError)
  deriving DecidableEq, Repr

abbrev Decoder (α : Type) := Node → Except Fault α

def orMalformed {α : Type} : Option α → Except Fault α
  | some a => .ok a
  | none => .error .malformed

def text (anchors : OrderedMap Nat Node) : Decoder String :=
  fun node => orMalformed (node.resolve anchors).text?

def typeExpr (anchors : OrderedMap Nat Node) : Decoder TypeExpr := fun node => do
  match TypeExpr.parse (← text anchors node) with
  | .ok type => return type
  | .error e => .error (.badType e)

def decodeEntries {α : Type} (anchors : OrderedMap Nat Node) (value : Decoder α) :
    OrderedMap String α → List (Node × Node) → Except Fault (OrderedMap String α)
  | m, [] => .ok m
  | m, (key, node) :: entries => do
    let key ← text anchors key
    let v ← value node
    decodeEntries anchors value (m.put key v) entries

def mapping {α : Type} (anchors : OrderedMap Nat Node) (value : Decoder α) :
    Decoder (OrderedMap String α) := fun node => do
  decodeEntries anchors value .empty (← orMalformed (node.resolve anchors).entries?)

def overridesOf (anchors : OrderedMap Nat Node) : Decoder (OrderedMap String String) :=
  mapping anchors (text anchors)

def modulesOf (anchors : OrderedMap Nat Node) : Decoder (OrderedMap String ModuleTypes) :=
  mapping anchors (mapping anchors (typeExpr anchors))

/-- The parts of a manifest met so far. Neither may be given twice. -/
structure Parts where
  overrides : Option (OrderedMap String String)
  modules : Option (OrderedMap String ModuleTypes)

def Parts.manifest (p : Parts) : Manifest :=
  ⟨p.overrides.getD .empty, p.modules.getD .empty⟩

def decodeParts (anchors : OrderedMap Nat Node) :
    Parts → List (Node × Node) → Except Fault Manifest
  | p, [] => .ok p.manifest
  | p, (key, node) :: entries => do
    match ← text anchors key with
    | "customPrimitiveTypes" =>
      if p.overrides.isSome then .error .malformed
      else
        let m ← overridesOf anchors node
        decodeParts anchors { p with overrides := some m } entries
    | "modules" =>
      if p.modules.isSome then .error .malformed
      else
        let m ← modulesOf anchors node
        decodeParts anchors { p with modules := some m } entries
    | _ => .error .malformed

/-- The parts in their fixed order, as many as there are. -/
def decodeItems (anchors : OrderedMap Nat Node) : List Node → Except Fault Manifest
  | [] => .ok ⟨.empty, .empty⟩
  | [overrides] => do return ⟨← overridesOf anchors overrides, .empty⟩
  | overrides :: modules :: more => do
    let m : Manifest := ⟨← overridesOf anchors overrides, ← modulesOf anchors modules⟩
    if more.isEmpty then return m else .error .malformed

def decodeRoot (anchors : OrderedMap Nat Node) (root : Node) : Except Fault Manifest :=
  match root.resolve anchors with
  | .list items => decodeItems anchors items
  | node => do decodeParts anchors ⟨none, none⟩ (← orMalformed node.entries?)

def ofReading (r : Reading) : Except Fault Manifest := do
  let m ← decodeRoot r.anchors r.root
  if r.complete then return m else .error .malformed

end Manifest

end TypeSchema
