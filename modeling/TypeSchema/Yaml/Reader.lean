import TypeSchema.Manifest.Node
import TypeSchema.Yaml.Lexer

namespace TypeSchema.Yaml

open Manifest

/-- The numbers of the anchors by name, and the nodes under them. -/
structure Anchors where
  numbers : OrderedMap String Nat
  nodes : OrderedMap Nat Node

namespace Anchors

def empty : Anchors := ⟨.empty, .empty⟩

/-- The number for a new use of a name: that of the names in use. -/
def number (a : Anchors) : Nat := a.numbers.size

def define (a : Anchors) (name : String) (n : Nat) : Anchors :=
  { a with numbers := a.numbers.put name n }

def fill (a : Anchors) (n : Nat) (node : Node) : Anchors :=
  { a with nodes := a.nodes.put n node }

end Anchors

/-- What was read, with the anchors so far, and the tokens left; none are left behind a fault. -/
structure Step (α : Type) where
  result : α
  anchors : Anchors
  rest : Option (List Token)

abbrev NodeReader := (tagHandles : List String) → Anchors → List Token → Step Node

/-- The anchor and the tag before a node, in either order, one of each at most. -/
structure Properties where
  anchor : Option String
  tag : Option String

def properties : List Token → Properties × List Token
  | .anchor a :: .tag t :: ts => (⟨some a, some t⟩, ts)
  | .tag t :: .anchor a :: ts => (⟨some a, some t⟩, ts)
  | .anchor a :: ts => (⟨some a, none⟩, ts)
  | .tag t :: ts => (⟨none, some t⟩, ts)
  | ts => (⟨none, none⟩, ts)

def endsBlockItem : List Token → Bool
  | .key :: _ | .value :: _ | .blockEnd :: _ => true
  | _ => false

def endsFlowItem : List Token → Bool
  | .flowEntry :: _ | .flowMappingEnd :: _ => true
  | _ => false

/-- A node, or nothing where the item ends at once. -/
def optional (node : NodeReader) (ends : List Token → Bool) : NodeReader :=
  fun handles anchors ts =>
    if ends ts then ⟨.blank, anchors, some ts⟩ else node handles anchors ts

/-- The value of a key: a node behind a colon, or nothing. -/
def valueNode (node : NodeReader) (ends : List Token → Bool) : NodeReader :=
  fun handles anchors ts =>
    match ts with
    | .value :: ts => optional node ends handles anchors ts
    | .fault :: _ => ⟨.unusable, anchors, none⟩
    | ts => ⟨.blank, anchors, some ts⟩

abbrev Entries := List (Node × Node)

def brokenEntry : Node × Node := (.unusable, .unusable)

/-- An entry whose key is read by `key`, then the entries read by `more`. -/
def entryThen (key value : NodeReader) (more : Anchors → List Token → Step Entries)
    (handles : List String) (anchors : Anchors) (ts : List Token) : Step Entries :=
  let k := key handles anchors ts
  match k.rest with
  | none => ⟨[(k.result, .unusable)], k.anchors, none⟩
  | some ts =>
    let v := value handles k.anchors ts
    match v.rest with
    | none => ⟨[(k.result, v.result)], v.anchors, none⟩
    | some ts =>
      let m := more v.anchors ts
      { m with result := (k.result, v.result) :: m.result }

def blockEntries (node : NodeReader) (handles : List String) :
    Nat → Anchors → List Token → Step Entries
  | 0, anchors, _ => ⟨[brokenEntry], anchors, none⟩
  | turns + 1, anchors, ts =>
    match ts with
    | .blockEnd :: ts => ⟨[], anchors, some ts⟩
    | .key :: ts =>
      entryThen (optional node endsBlockItem) (valueNode node endsBlockItem)
        (blockEntries node handles turns) handles anchors ts
    | _ => ⟨[brokenEntry], anchors, none⟩

def noValue : NodeReader := fun _ anchors ts => ⟨.blank, anchors, some ts⟩

/-- The entry at the start of `ts`; one that is not marked as a key has no value. -/
def flowEntryAt (node : NodeReader) (handles : List String)
    (more : Anchors → List Token → Step Entries) (anchors : Anchors) (ts : List Token) :
    Step Entries :=
  match ts with
  | .flowMappingEnd :: ts => ⟨[], anchors, some ts⟩
  | .key :: ts =>
    entryThen (optional node fun ts => ts.head? = some .value || endsFlowItem ts)
      (valueNode node endsFlowItem) more handles anchors ts
  | ts => entryThen node noValue more handles anchors ts

/-- The entries behind the first one, each behind a comma. -/
def flowEntries (node : NodeReader) (handles : List String) :
    Nat → Anchors → List Token → Step Entries
  | 0, anchors, _ => ⟨[brokenEntry], anchors, none⟩
  | turns + 1, anchors, ts =>
    match ts with
    | .flowMappingEnd :: ts => ⟨[], anchors, some ts⟩
    | .flowEntry :: ts => flowEntryAt node handles (flowEntries node handles turns) anchors ts
    | _ => ⟨[brokenEntry], anchors, none⟩

/-- The content of a node. `blockNode` and `flowNode` read the nodes inside it. A manifest holds no
sequences, so reading stops at one. -/
def content (inBlock : Bool) (blockNode flowNode : NodeReader) (hasProperties : Bool) :
    NodeReader := fun handles anchors ts =>
  match ts with
  | .scalar s :: ts => ⟨.text s, anchors, some ts⟩
  | .flowMappingStart :: ts =>
    let s := flowEntryAt flowNode handles (flowEntries flowNode handles ts.length) anchors ts
    ⟨.table s.result, s.anchors, s.rest⟩
  | .blockMappingStart :: ts =>
    if inBlock then
      let s := blockEntries blockNode handles (ts.length + 1) anchors ts
      ⟨.table s.result, s.anchors, s.rest⟩
    else if hasProperties then ⟨.blank, anchors, some (.blockMappingStart :: ts)⟩
    else ⟨.unusable, anchors, none⟩
  | .flowSequenceStart :: _ | .blockSequenceStart :: _ | .blockEntry :: _ | .fault :: _ =>
    ⟨.unusable, anchors, none⟩
  | ts =>
    if hasProperties then ⟨.blank, anchors, some ts⟩ else ⟨.unusable, anchors, none⟩

def node : Nat → Bool → NodeReader
  | 0, _, _, anchors, _ => ⟨.unusable, anchors, none⟩
  | depth + 1, inBlock, handles, anchors, ts =>
    match ts with
    | .aliasOf name :: ts =>
      match anchors.numbers.get? name with
      | some n => ⟨.anchored n, anchors, some ts⟩
      | none => ⟨.unusable, anchors, none⟩
    | ts =>
      let (props, ts) := properties ts
      if props.tag.any fun t => !t.isEmpty && t ∉ handles then ⟨.unusable, anchors, none⟩
      else
        let read := content inBlock (node depth true) (node depth false)
          (props.anchor.isSome || props.tag.isSome) handles
        match props.anchor with
        | none => read anchors ts
        | some name =>
          let n := anchors.number
          let s := read (anchors.define name n) ts
          { s with anchors := s.anchors.fill n s.result }

/-- The directives before a document: the tag handles, if no directive is given twice or asks for
another version. -/
def directives? (versionSeen : Bool) (handles : List String) :
    List Token → Option (List String × List Token)
  | .versionDirective major minor :: ts =>
    if versionSeen || major ≠ 1 || (minor ≠ 1 && minor ≠ 2) then none
    else directives? true handles ts
  | .tagDirective handle :: ts =>
    if handle ∈ handles then none else directives? versionSeen (handle :: handles) ts
  | ts => some (handles, ts)

def defaultHandles : List String := ["!", "!!"]

def root (handles : List String) (ts : List Token) : Step Node :=
  node (ts.length + 1) true handles .empty ts

def explicitRoot (handles : List String) (ts : List Token) : Step Node :=
  match ts with
  | .versionDirective _ _ :: _ | .tagDirective _ :: _ | .documentStart :: _ | .documentEnd :: _
  | .streamEnd :: _ => ⟨.blank, .empty, some ts⟩
  | ts => root handles ts

/-- The document at the start of a text. -/
def document (ts : List Token) : Step Node :=
  match ts with
  | [.streamEnd] => ⟨.blank, .empty, some ts⟩
  | .versionDirective _ _ :: _ | .tagDirective _ :: _ | .documentStart :: _ =>
    match directives? false [] ts with
    | some (handles, .documentStart :: ts) => explicitRoot (handles ++ defaultHandles) ts
    | _ => ⟨.unusable, .empty, none⟩
  | ts => root defaultHandles ts

/-- Only document ends may follow the one document. -/
def isOver (ts : List Token) : Bool := ts.dropWhile (· = .documentEnd) = [.streamEnd]

def read (text : String) : Reading :=
  let s := document (tokens text.toList)
  ⟨s.result, s.anchors.nodes, s.rest.any isOver⟩

end TypeSchema.Yaml
