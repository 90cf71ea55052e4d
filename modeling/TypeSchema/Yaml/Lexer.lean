import TypeSchema.Yaml.Scalar
import TypeSchema.Yaml.Token

namespace TypeSchema.Yaml

/-- A token that becomes a key if a colon follows it on its line. In a block, one at the
indentation of the block has to. -/
structure KeyCandidate where
  number : Nat
  place : Place
  isRequired : Bool

/-- `floor` is the least column of what the open block holds, `outer` those of the blocks around
it; a floor of zero is no block. `keys` holds the candidate of each open flow collection, the
innermost first, and last that of the block. `tokens` are in reverse order. -/
structure Lexer where
  place : Place
  floor : Nat
  outer : List Nat
  flow : Nat
  keyAllowed : Bool
  keys : List (Option KeyCandidate)
  tokens : List Token

namespace Lexer

def start (text : List Char) : Lexer := ⟨⟨text, 0, 0, 0⟩, 0, [], 0, true, [none], []⟩

def inFlow (l : Lexer) : Bool := l.flow ≠ 0

def push (l : Lexer) (t : Token) : Lexer := { l with tokens := t :: l.tokens }

/-- Puts a token in front of the one that was pushed as number `n`. -/
def insert (l : Lexer) (n : Nat) (t : Token) : Lexer :=
  let newer := l.tokens.take (l.tokens.length - n)
  { l with tokens := newer ++ t :: l.tokens.drop newer.length }

def moveTo (l : Lexer) (p : Place) : Lexer := { l with place := p }

def allowKey (l : Lexer) (b : Bool) : Lexer := { l with keyAllowed := b }

def maxKeyLength : Nat := 1024

def isStale (p : Place) (k : KeyCandidate) : Bool :=
  k.place.line < p.line || k.place.index + maxKeyLength < p.index

/-- Gives up the candidates that are on an earlier line or too far back; none where one of them
had to become a key. -/
def dropStale? (l : Lexer) : Option Lexer :=
  if l.keys.any (·.any fun k => isStale l.place k && k.isRequired) then none
  else some { l with keys := l.keys.map (·.filter (!isStale l.place ·)) }

def removeKey? (l : Lexer) : Option Lexer :=
  match l.keys with
  | some k :: keys => if k.isRequired then none else some { l with keys := none :: keys }
  | _ => some l

def saveKey? (l : Lexer) : Option Lexer :=
  if l.keyAllowed then do
    let l ← l.removeKey?
    let k : KeyCandidate :=
      ⟨l.tokens.length, l.place, !l.inFlow && l.floor = l.place.column + 1⟩
    return { l with keys := some k :: l.keys.tail }
  else some l

/-- Opens a block at `column`, if it stands further in, by a token in front of number `n`. -/
def openBlock (l : Lexer) (column n : Nat) (t : Token) : Lexer :=
  if l.inFlow || column < l.floor then l
  else { l.insert n t with floor := column + 1, outer := l.floor :: l.outer }

/-- Closes the blocks that hold nothing below the column `limit`. -/
def closeBlocks (l : Lexer) (limit : Nat) : Lexer :=
  if l.inFlow then l
  else
    let closed := ((l.floor :: l.outer).takeWhile (limit < ·)).length
    let floors := (l.floor :: l.outer).drop closed
    { l with
      floor := floors.headD 0
      outer := floors.tail
      tokens := List.replicate closed .blockEnd ++ l.tokens }

/-- Moves over white space, comments and line breaks. Where a key may stand in a block, a tab is
no white space. A byte order mark may start the text. -/
def skipGap : Nat → Lexer → Lexer
  | 0, l => l
  | turns + 1, l =>
    let p := if l.place.index = 0 && l.place.head? = some '\uFEFF' then l.place.skip 1 else l.place
    let p := p.skipWhile fun c => c = ' ' || ((l.inFlow || !l.keyAllowed) && c = '\t')
    let p := if p.head? = some '#' then p.skipWhile (!isBreak ·) else p
    if p.head?.any isBreak then
      skipGap turns { l with place := p.skipBreak, keyAllowed := l.keyAllowed || !l.inFlow }
    else l.moveTo p

def single (l : Lexer) (t : Token) : Lexer := (l.moveTo (l.place.skip 1)).push t

def streamEnd? (l : Lexer) : Option Lexer := do
  let l ← (l.closeBlocks 0).removeKey?
  return l.push .streamEnd

def marker? (l : Lexer) (t : Token) : Option Lexer := do
  let l ← (l.closeBlocks 0).removeKey?
  return ((l.moveTo (l.place.skip 3)).allowKey false).push t

def flowStart? (l : Lexer) (t : Token) : Option Lexer := do
  let l ← l.saveKey?
  return ({ l with keys := none :: l.keys, flow := l.flow + 1, keyAllowed := true }).single t

def flowEnd? (l : Lexer) (t : Token) : Option Lexer := do
  let l ← l.removeKey?
  let l := if l.inFlow then { l with keys := l.keys.tail, flow := l.flow - 1 } else l
  return (l.allowKey false).single t

def flowEntry? (l : Lexer) : Option Lexer := do
  let l ← l.removeKey?
  return (l.allowKey true).single .flowEntry

def blockEntry? (l : Lexer) : Option Lexer := do
  if !l.inFlow && !l.keyAllowed then none
  let l ← (l.openBlock l.place.column l.tokens.length .blockSequenceStart).removeKey?
  return (l.allowKey true).single .blockEntry

def key? (l : Lexer) : Option Lexer := do
  if !l.inFlow && !l.keyAllowed then none
  let l ← (l.openBlock l.place.column l.tokens.length .blockMappingStart).removeKey?
  return (l.allowKey !l.inFlow).single .key

/-- A colon makes a key of the candidate before it, or else ends a key that was marked as one. -/
def value? (l : Lexer) : Option Lexer :=
  match l.keys with
  | some k :: keys =>
    let l := ({ l with keys := none :: keys }).insert k.number .key
    some (((l.openBlock k.place.column k.number .blockMappingStart).allowKey false).single .value)
  | _ =>
    if !l.inFlow && !l.keyAllowed then none
    else
      let l := l.openBlock l.place.column l.tokens.length .blockMappingStart
      some ((l.allowKey !l.inFlow).single .value)

/-- An anchor or alias name is closed by white space or an indicator. -/
def reference? (l : Lexer) (t : String → Token) : Option Lexer := do
  let l ← l.saveKey?
  let name := (l.place.skip 1).rest.takeWhile isNameChar
  let p := l.place.skip (1 + name.length)
  let closed := endsWord p.head? ||
    p.head?.any fun c => c = '?' || c = ':' || c = ',' || c = ']' || c = '\x7d' || c = '%' ||
      c = '@' || c = '\x60'
  if name.isEmpty || !closed then none
  return ((l.moveTo p).allowKey false).push (t (String.ofList name))

def isTagChar (c : Char) : Bool := isNameChar c || c ∈ ";/?:@&=+$.!~*'()%".toList

/-- A tag: its handle, empty where it has none, and the place behind it. -/
def tag? (p : Place) : Option (List Char × Place) :=
  match p.rest with
  | _ :: '<' :: cs =>
    let uri := cs.takeWhile fun c => isTagChar c || c = ',' || c = '[' || c = ']'
    if uri.isEmpty || (cs.drop uri.length).head? ≠ some '>' then none
    else some ([], p.skip (uri.length + 3))
  | _ :: cs =>
    let name := cs.takeWhile isNameChar
    let named := (cs.drop name.length).head? = some '!'
    let handle := if named then '!' :: name ++ ['!'] else ['!']
    let suffix := if named then (cs.drop (name.length + 1)).takeWhile isTagChar
      else cs.takeWhile isTagChar
    if named && suffix.isEmpty then none
    else some (if suffix.isEmpty then [] else handle, p.skip (handle.length + suffix.length))
  | [] => none

def tagged? (l : Lexer) : Option Lexer := do
  let l ← l.saveKey?
  let (handle, p) ← tag? l.place
  if !(endsWord p.head? || (l.inFlow && p.head? = some ',')) then none
  return ((l.moveTo p).allowKey false).push (.tag (String.ofList handle))

def number? (p : Place) : Option (Nat × Place) :=
  let digits := p.rest.takeWhile Char.isDigit
  if digits.isEmpty || 9 < digits.length then none
  else some (digits.foldl (fun n c => n * 10 + (c.toNat - '0'.toNat)) 0, p.skip digits.length)

def version? (p : Place) : Option (Token × Place) := do
  let (major, p) ← number? (p.skipWhile isSpace)
  if p.head? ≠ some '.' then none
  let (minor, p) ← number? (p.skip 1)
  return (.versionDirective major minor, p)

def tagPrefix? (p : Place) : Option (Token × Place) := do
  let p := p.skipWhile isSpace
  let handle := p.rest.takeWhile fun c => isNameChar c || c = '!'
  let name := handle.drop 1
  if handle.head? ≠ some '!' then none
  if !(name.isEmpty || (name.getLast? = some '!' && '!' ∉ name.dropLast)) then none
  let p := p.skip handle.length
  if !p.head?.any isSpace then none
  let p := p.skipWhile isSpace
  let uri := p.rest.takeWhile fun c => isTagChar c || c = ',' || c = '[' || c = ']'
  if uri.isEmpty then none
  let p := p.skip uri.length
  if !endsWord p.head? then none
  return (.tagDirective (String.ofList handle), p)

def directive? (l : Lexer) : Option Lexer := do
  let l ← (l.closeBlocks 0).removeKey?
  let name := (l.place.skip 1).rest.takeWhile isNameChar
  let p := l.place.skip (1 + name.length)
  if !endsWord p.head? then none
  let (t, p) ← match String.ofList name with
    | "YAML" => version? p
    | "TAG" => tagPrefix? p
    | _ => none
  let p := p.skipWhile isSpace
  let p := if p.head? = some '#' then p.skipWhile (!isBreak ·) else p
  if !endsLine p.head? then none
  return ((l.moveTo p.skipBreak).allowKey false).push t

def quotedScalar? (l : Lexer) (single : Bool) : Option Lexer := do
  let l ← l.saveKey?
  let p := l.place.skip 1
  let (text, p) ← quoted? single (p.rest.length + 1) p
  return ((l.moveTo p).allowKey false).push (.scalar (String.ofList text))

def blockScalar? (l : Lexer) (literal : Bool) : Option Lexer := do
  let l ← l.removeKey?
  let (text, p) ← block? literal l.floor (l.place.skip 1)
  return ((l.moveTo p).allowKey true).push (.scalar (String.ofList text))

def plainScalar? (l : Lexer) : Option Lexer := do
  let l ← l.saveKey?
  let (text, p, broken) ← plain? l.inFlow l.floor (l.place.rest.length + 1) .nothing l.place
  return ((l.moveTo p).allowKey broken).push (.scalar (String.ofList text))

/-- Whether a plain scalar starts here: not at an indicator, unless one of `-`, `?` and `:` has
something behind it. -/
def startsPlain (l : Lexer) (c : Char) : Bool :=
  (!endsWord (some c) && c ∉ "-?:,[]\x7b\x7d#&*!|>'\"%@\x60".toList) ||
    (c = '-' && !l.place.second?.any isSpace) ||
    (!l.inFlow && (c = '?' || c = ':') && !endsWord l.place.second?)

def atChar? (l : Lexer) (c : Char) : Option Lexer :=
  let alone := endsWord l.place.second?
  if l.place.column = 0 && c = '%' then l.directive?
  else if l.place.isMarker '-' then l.marker? .documentStart
  else if l.place.isMarker '.' then l.marker? .documentEnd
  else
    match c with
    | '[' => l.flowStart? .flowSequenceStart
    | '{' => l.flowStart? .flowMappingStart
    | ']' => l.flowEnd? .flowSequenceEnd
    | '}' => l.flowEnd? .flowMappingEnd
    | ',' => l.flowEntry?
    | '*' => l.reference? .aliasOf
    | '&' => l.reference? .anchor
    | '!' => l.tagged?
    | '\'' => l.quotedScalar? true
    | '"' => l.quotedScalar? false
    | _ =>
      if c = '-' && alone then l.blockEntry?
      else if c = '?' && (l.inFlow || alone) then l.key?
      else if c = ':' && (l.inFlow || alone) then l.value?
      else if c = '|' && !l.inFlow then l.blockScalar? true
      else if c = '>' && !l.inFlow then l.blockScalar? false
      else if l.startsPlain c then l.plainScalar?
      else none

def next? (l : Lexer) : Option Lexer := do
  let l ← (skipGap (l.place.rest.length + 1) l).dropStale?
  match l.place.head? with
  | none => l.streamEnd?
  | some c => (l.closeBlocks (l.place.column + 1)).atChar? c

/-- The tokens in order. Those from the first candidate on are not known yet. -/
def settled (l : Lexer) : List Token :=
  let pending := l.keys.filterMap (·.map (·.number))
  l.tokens.reverse.take (pending.foldl min l.tokens.length)

def run : Nat → Lexer → List Token
  | 0, l => l.settled ++ [.fault]
  | turns + 1, l =>
    match l.dropStale? with
    | none => l.settled ++ [.fault]
    | some l =>
      match l.next? with
      | none => l.settled ++ [.fault]
      | some l =>
        if l.tokens.head? = some .streamEnd then l.tokens.reverse else run turns l

end Lexer

/-- A character that no text may hold leaves nothing readable. -/
def tokens (text : List Char) : List Token :=
  if text.all isAllowed then
    let text := if text.head? = some '\uFEFF' then text.tail else text
    Lexer.run (text.length + 2) (.start text)
  else [.fault]

end TypeSchema.Yaml
