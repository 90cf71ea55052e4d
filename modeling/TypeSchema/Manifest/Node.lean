import TypeSchema.OrderedMap

namespace TypeSchema.Manifest

inductive Node where
  | text (s : String)
  /-- Nothing written: the empty text, or an empty table. -/
  | blank
  | list (items : List Node)
  | table (entries : List (Node × Node))
  /-- The node anchored under a number. -/
  | anchored (number : Nat)
  /-- Neither text, list nor table, or unreadable. Nothing behind it is read. -/
  | unusable

/-- `complete` says that nothing unreadable follows the root. -/
structure Reading where
  root : Node
  anchors : OrderedMap Nat Node
  complete : Bool

namespace Node

/-- The node itself, or the one it stands for. -/
def resolve (anchors : OrderedMap Nat Node) : Node → Node
  | anchored number => (anchors.get? number).getD unusable
  | node => node

def text? : Node → Option String
  | text s => some s
  | blank => some ""
  | _ => none

def entries? : Node → Option (List (Node × Node))
  | table entries => some entries
  | blank => some []
  | _ => none

end Node

end TypeSchema.Manifest
