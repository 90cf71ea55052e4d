import TypeSchema.Text.Split
import TypeSchema.TypeExpr.Basic
import TypeSchema.TypeExpr.Cursor

namespace TypeSchema.TypeExpr

open Text Scanner

/-- A reader of nested types is handed down to the readers around it as `sub`, so that only the
allowance is counted down. -/
abbrev Reader (m : Type → Type) := Cursor → m (TypeExpr × Cursor)

def maxNesting : Nat := 256

/-- A word that ends its line, or that a tag follows, is an embedded type. -/
def endsEmbedded (c : Cursor) : Bool :=
  match c.head? with
  | none => true
  | some x => x = '\n' || x = ';' || x = '}' || x = '\x60'

def startsBareResult (x : Char) : Bool := x = '*' || x = '[' || isIdentifierStart x

section

variable {m : Type → Type} [Monad m] [Scanner m]

/-- The last dot of a word ends its module path. -/
def identOfWord (start : Cursor) (word : List Char) : m TypeExpr :=
  match splitLast '.' word with
  | none =>
    if isIdentifier word then pure (.ident "" (String.ofList word))
    else fail start (.invalidIdentifier (String.ofList word))
  | some (path, name) =>
    if !path.isEmpty && isIdentifier name then
      pure (.ident (String.ofList path) (String.ofList name))
    else fail start (.invalidQualifiedIdentifier (String.ofList word))

/-- Reads up to the brace that closes the one already open; `depth` more are open inside it. -/
def closeBraces : Nat → Nat → List Char → m Cursor
  | _, offset, [] => fail ⟨offset, []⟩ .unterminatedInterface
  | depth, offset, x :: rest => do
    let c ← next ⟨offset, x :: rest⟩
    if x = '{' then closeBraces (depth + 1) c.offset rest
    else if x = '}' then
      match depth with
      | 0 => return c
      | depth + 1 => closeBraces depth c.offset rest
    else closeBraces depth c.offset rest

def interfaceBody (c : Cursor) : m (TypeExpr × Cursor) := do
  let c ← expect '{' c
  let c ← closeBraces 0 c.offset c.rest
  return (.interface, c)

/-- The tag after a field, on the line where its type ends. -/
def fieldTag (c : Cursor) : m (Option String × Cursor) := do
  let c ← skipInlineBlanks c
  if c.head? = some '\x60' then
    let start ← next c
    let c ← skipWhile (· ≠ '\x60') start
    if c.rest.isEmpty then fail c .unterminatedTag
    else
      let c ← next c
      return (some (String.ofList (start.taken (· ≠ '\x60'))), c)
  else return (none, c)

/-- The names after the first one of a field line, each behind a comma. The turns of this and of
every other repetition are bounded by the characters that are left: each turn reads one of them. -/
def moreNames : Nat → Cursor → m (List String × Cursor)
  | 0, c => pure ([], c)
  | turns + 1, c => do
    let c ← skipBlanks c
    if c.head? = some ',' then
      let c ← next c
      let start ← skipBlanks c
      let c ← skipWhile isWordChar start
      if isIdentifier (start.taken isWordChar) then
        let (names, c) ← moreNames turns c
        return (String.ofList (start.taken isWordChar) :: names, c)
      else fail c .expectedFieldName
    else return ([], c)

def embeddedField (type : TypeExpr) (c : Cursor) : m (List (Field TypeExpr) × Cursor) := do
  let (tag, c) ← fieldTag c
  return ([⟨"", type, tag⟩], c)

/-- `A, B Type`, or an embedded type. -/
def fieldLine (sub : Reader m) (start : Cursor) : m (List (Field TypeExpr) × Cursor) := do
  let word := start.taken isWordChar
  let c ← skipWhile isWordChar start
  if word.isEmpty then fail c .expectedField
  else
    let c ← skipInlineBlanks c
    if endsEmbedded c then
      let type ← identOfWord start word
      embeddedField type c
    else
      let (names, c) ← moreNames c.rest.length c
      if isIdentifier word then
        let (type, c) ← sub c
        let (tag, c) ← fieldTag c
        return ((String.ofList word :: names).map (⟨·, type, tag⟩), c)
      else fail start (.invalidFieldName (String.ofList word))

def structFields (sub : Reader m) : Nat → Cursor → m (List (Field TypeExpr) × Cursor)
  | 0, c => fail c .unterminatedStruct
  | turns + 1, c => do
    let c ← skipBlanks c
    match c.head? with
    | none => fail c .unterminatedStruct
    | some x =>
      if x = '}' then
        let c ← next c
        return ([], c)
      else if x = ';' then
        let c ← next c
        structFields sub turns c
      else if x = '*' then
        let (type, c) ← sub c
        let (field, c) ← embeddedField type c
        let (fields, c) ← structFields sub turns c
        return (field ++ fields, c)
      else
        let (line, c) ← fieldLine sub c
        let (fields, c) ← structFields sub turns c
        return (line ++ fields, c)

def structBody (sub : Reader m) (c : Cursor) : m (TypeExpr × Cursor) := do
  let c ← expect '{' c
  let (fields, c) ← structFields sub (c.rest.length + 1) c
  return (.struct fields, c)

def moreTypes (sub : Reader m) : Nat → Cursor → m (List TypeExpr × Cursor)
  | 0, c => fail c .expectedType
  | turns + 1, c => do
    let (type, c) ← sub c
    let c ← skipBlanks c
    if c.head? = some ')' then
      let c ← next c
      return ([type], c)
    else
      let c ← expect ',' c
      let (types, c) ← moreTypes sub turns c
      return (type :: types, c)

def typeList (sub : Reader m) (c : Cursor) : m (List TypeExpr × Cursor) := do
  let c ← expect '(' c
  let c ← skipBlanks c
  if c.head? = some ')' then
    let c ← next c
    return ([], c)
  else moreTypes sub (c.rest.length + 1) c

/-- The results of a func stand on the line where its parameters end. -/
def funcSignature (sub : Reader m) (c : Cursor) : m (TypeExpr × Cursor) := do
  let (params, c) ← typeList sub c
  let c ← skipInlineBlanks c
  match c.head? with
  | none => return (.func params [], c)
  | some x =>
    if x = '(' then
      let (results, c) ← typeList sub c
      return (.func params results, c)
    else if startsBareResult x then
      let (result, c) ← sub c
      return (.func params [result], c)
    else return (.func params [], c)

def mapType (sub : Reader m) (c : Cursor) : m (TypeExpr × Cursor) := do
  let c ← expect '[' c
  let (key, c) ← sub c
  let c ← expect ']' c
  let (value, c) ← sub c
  return (.map key value, c)

def arrayType (sub : Reader m) (c : Cursor) : m (TypeExpr × Cursor) := do
  let c ← skipBlanks c
  let c ← skipWhile Char.isDigit c
  let c ← expect ']' c
  let (element, c) ← sub c
  return (.array element, c)

/-- What a word begins, read after the word. Only a whole word is a keyword. -/
def wordType (sub : Reader m) (start : Cursor) (word : List Char) (c : Cursor) :
    m (TypeExpr × Cursor) :=
  match String.ofList word with
  | "map" => mapType sub c
  | "struct" => structBody sub c
  | "interface" => interfaceBody c
  | "func" => funcSignature sub c
  | "chan" => do
    let (message, c) ← sub c
    return (.chan message, c)
  | _ => do
    let type ← identOfWord start word
    return (type, c)

def nestedType (sub : Reader m) (c : Cursor) : m (TypeExpr × Cursor) := do
  let start ← skipBlanks c
  match start.head? with
  | none => fail start .expectedType
  | some x =>
    if x = '*' then
      let c ← next start
      let (target, c) ← sub c
      return (.pointer target, c)
    else if x = '[' then
      let c ← next start
      arrayType sub c
    else if isIdentifierStart x then
      let c ← skipWhile isWordChar start
      wordType sub start (start.taken isWordChar) c
    else fail start .expectedType

/-- Reads a type that may nest `allowance` levels deep. -/
def parseType : Nat → Reader m
  | 0, c => fail c .tooDeep
  | allowance + 1, c => nestedType (parseType allowance) c

def parseChars (src : List Char) : m TypeExpr := do
  let (type, c) ← parseType maxNesting (.start src)
  let c ← skipBlanks c
  if c.rest.isEmpty then return type else fail c .trailingInput

end

def parse (src : String) : Attempt TypeExpr := parseChars src.toList

end TypeSchema.TypeExpr
