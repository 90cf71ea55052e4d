import TypeSchema.Manifest.Node

namespace TypeSchema.Json

open Manifest

def isBlank (c : Char) : Bool := c = ' ' || c = '\n' || c = '\t' || c = '\r'

def skipBlanks (cs : List Char) : List Char := cs.dropWhile isBlank

def hexValue? (c : Char) : Option Nat :=
  if c.isDigit then some (c.toNat - '0'.toNat)
  else if 'a' ≤ c ∧ c ≤ 'f' then some (c.toNat - 'a'.toNat + 10)
  else if 'A' ≤ c ∧ c ≤ 'F' then some (c.toNat - 'A'.toNat + 10)
  else none

/-- The value of four hexadecimal digits, and what follows them. -/
def codeUnit? : List Char → Option (Nat × List Char)
  | a :: b :: c :: d :: cs => do
    let a ← hexValue? a
    let b ← hexValue? b
    let c ← hexValue? c
    let d ← hexValue? d
    return (((a * 16 + b) * 16 + c) * 16 + d, cs)
  | _ => none

def isHighSurrogate (unit : Nat) : Bool := 0xD800 ≤ unit && unit < 0xDC00

def isLowSurrogate (unit : Nat) : Bool := 0xDC00 ≤ unit && unit < 0xE000

/-- The character of a `\u` escape. A surrogate counts only as the first of a pair. -/
def escapedUnicode? (cs : List Char) : Option (Char × List Char) := do
  let (unit, cs) ← codeUnit? cs
  if isLowSurrogate unit then none
  else if isHighSurrogate unit then
    match cs with
    | '\\' :: 'u' :: cs => do
      let (low, cs) ← codeUnit? cs
      if isLowSurrogate low then
        return (Char.ofNat (0x10000 + (unit - 0xD800) * 0x400 + (low - 0xDC00)), cs)
      else none
    | _ => none
  else return (Char.ofNat unit, cs)

def escaped? : List Char → Option (Char × List Char)
  | [] => none
  | c :: cs =>
    match c with
    | '"' | '\\' | '/' => some (c, cs)
    | 'b' => some ('\x08', cs)
    | 'f' => some ('\x0C', cs)
    | 'n' => some ('\n', cs)
    | 'r' => some ('\r', cs)
    | 't' => some ('\t', cs)
    | 'u' => escapedUnicode? cs
    | _ => none

/-- The characters up to the closing quote, and what follows it. -/
def stringBody? : Nat → List Char → Option (List Char × List Char)
  | 0, _ => none
  | _ + 1, [] => none
  | turns + 1, c :: cs =>
    if c = '"' then some ([], cs)
    else if c = '\\' then do
      let (x, cs) ← escaped? cs
      let (xs, cs) ← stringBody? turns cs
      return (x :: xs, cs)
    else if c.toNat < 0x20 then none
    else do
      let (xs, cs) ← stringBody? turns cs
      return (c :: xs, cs)

def string? : List Char → Option (String × List Char)
  | '"' :: cs => do
    let (xs, cs) ← stringBody? (cs.length + 1) cs
    return (String.ofList xs, cs)
  | _ => none

/-- What was read, and what is left to read; nothing is left behind a fault. -/
abbrev Step (α : Type) := α × Option (List Char)

/-- The members of an object up to its closing brace. -/
def members (value : List Char → Step Node) : Nat → List Char → Step (List (Node × Node))
  | 0, _ => ([(.unusable, .unusable)], none)
  | turns + 1, cs =>
    match string? (skipBlanks cs) with
    | none => ([(.unusable, .unusable)], none)
    | some (key, cs) =>
      match skipBlanks cs with
      | ':' :: cs =>
        match value cs with
        | (node, none) => ([(.text key, node)], none)
        | (node, some cs) =>
          match skipBlanks cs with
          | '}' :: cs => ([(.text key, node)], some cs)
          | ',' :: cs =>
            let (more, rest) := members value turns cs
            ((.text key, node) :: more, rest)
          | _ => ([(.text key, node), (.unusable, .unusable)], none)
      | _ => ([(.text key, .unusable)], none)

/-- The items of a list up to its closing bracket. -/
def items (value : List Char → Step Node) : Nat → List Char → Step (List Node)
  | 0, _ => ([.unusable], none)
  | turns + 1, cs =>
    match value cs with
    | (node, none) => ([node], none)
    | (node, some cs) =>
      match skipBlanks cs with
      | ']' :: cs => ([node], some cs)
      | ',' :: cs =>
        let (more, rest) := items value turns cs
        (node :: more, rest)
      | _ => ([node, .unusable], none)

def value : Nat → List Char → Step Node
  | 0, _ => (.unusable, none)
  | depth + 1, cs =>
    match skipBlanks cs with
    | '"' :: cs =>
      match string? ('"' :: cs) with
      | some (s, cs) => (.text s, some cs)
      | none => (.unusable, none)
    | '{' :: cs =>
      match skipBlanks cs with
      | '}' :: cs => (.table [], some cs)
      | cs =>
        let (entries, rest) := members (value depth) cs.length cs
        (.table entries, rest)
    | '[' :: cs =>
      match skipBlanks cs with
      | ']' :: cs => (.list [], some cs)
      | cs =>
        let (nodes, rest) := items (value depth) (cs.length + 1) cs
        (.list nodes, rest)
    | _ => (.unusable, none)

def read (text : String) : Reading :=
  let cs := text.toList
  match value (cs.length + 1) cs with
  | (root, none) => ⟨root, .empty, false⟩
  | (root, some cs) => ⟨root, .empty, (skipBlanks cs).isEmpty⟩

end TypeSchema.Json
