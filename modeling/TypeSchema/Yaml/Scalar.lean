import TypeSchema.Json.Reader
import TypeSchema.Yaml.Place

namespace TypeSchema.Yaml

/-- The white space between two words of a scalar: on one line, or broken by a first line break
and later ones. -/
structure Gap where
  spaces : List Char
  firstBreak : List Char
  laterBreaks : List Char
  isBroken : Bool

namespace Gap

def nothing : Gap := ⟨[], [], [], false⟩

/-- A break that was escaped joins the lines without a space. -/
def joined : Gap := ⟨[], [], [], true⟩

/-- A single line break becomes a space, and of several the first is dropped. -/
def text (g : Gap) : List Char :=
  if !g.isBroken then g.spaces
  else if g.firstBreak = ['\n'] then
    if g.laterBreaks.isEmpty then [' '] else g.laterBreaks
  else g.firstBreak ++ g.laterBreaks

/-- Reads on over white space. A tab that stands before the column `floor` of a broken line is no
indentation. -/
def read? (floor : Nat) : Nat → Gap → Place → Option (Gap × Place)
  | 0, g, p => some (g, p)
  | turns + 1, g, p =>
    match p.head? with
    | none => some (g, p)
    | some c =>
      if isSpace c then
        if g.isBroken then
          if c = '\t' && p.column < floor then none else read? floor turns g (p.skip 1)
        else read? floor turns { g with spaces := g.spaces ++ [c] } (p.skip 1)
      else if isBreak c then
        let g' : Gap :=
          if g.isBroken then { g with laterBreaks := g.laterBreaks ++ p.breakText }
          else ⟨[], p.breakText, [], true⟩
        read? floor turns g' p.skipBreak
      else some (g, p)

end Gap

def isFlowMark (c : Char) : Bool := c = ',' || c = '[' || c = ']' || c = '\x7b' || c = '\x7d'

/-- The characters of a plain scalar up to white space or an indicator that ends it. -/
def plainWord? (inFlow : Bool) : List Char → Option (List Char)
  | [] => some []
  | c :: cs =>
    if isSpace c || isBreak c then some []
    else if inFlow && c = ':' && cs.head?.any (fun x => isFlowMark x || x = '?') then none
    else if c = ':' && endsWord cs.head? then some []
    else if inFlow && isFlowMark c then some []
    else (plainWord? inFlow cs).map (c :: ·)

/-- The text, the place behind it, and whether that place is on a line of its own. -/
def plain? (inFlow : Bool) (floor : Nat) :
    Nat → Gap → Place → Option (List Char × Place × Bool)
  | 0, _, p => some ([], p, false)
  | turns + 1, g, p =>
    if p.atMarker || p.head? = some '#' then some ([], p, g.isBroken)
    else do
      let word ← plainWord? inFlow p.rest
      let q := p.skip word.length
      let text := if word.isEmpty then [] else g.text ++ word
      let g := if word.isEmpty then g else .nothing
      if !endsWord q.head? || q.head?.isNone then return (text, q, g.isBroken)
      let (g, q) ← Gap.read? floor q.rest.length g q
      if !inFlow && q.column < floor then return (text, q, g.isBroken)
      let (more, q, broken) ← plain? inFlow floor turns g q
      return (text ++ more, q, broken)

def hexNumber? (digits : List Char) : Option Nat :=
  digits.foldlM (fun n c => (Json.hexValue? c).map (n * 16 + ·)) 0

/-- The character written by `width` hexadecimal digits. -/
def numbered? (width : Nat) (cs : List Char) : Option Char := do
  if (cs.take width).length < width then none
  let n ← hexNumber? (cs.take width)
  if (0xD800 ≤ n ∧ n < 0xE000) ∨ 0x110000 ≤ n then none else return Char.ofNat n

/-- What an escape stands for, and the number of its characters behind the backslash. -/
def escape? : List Char → Option (Char × Nat)
  | [] => none
  | c :: cs =>
    match c with
    | '0' => some ('\x00', 1)
    | 'a' => some ('\x07', 1)
    | 'b' => some ('\x08', 1)
    | 't' | '\t' => some ('\t', 1)
    | 'n' => some ('\n', 1)
    | 'v' => some ('\x0B', 1)
    | 'f' => some ('\x0C', 1)
    | 'r' => some ('\r', 1)
    | 'e' => some ('\x1B', 1)
    | ' ' | '"' | '/' | '\\' => some (c, 1)
    | 'N' => some ('\u0085', 1)
    | '_' => some ('\u00A0', 1)
    | 'L' => some ('\u2028', 1)
    | 'P' => some ('\u2029', 1)
    | 'x' => (numbered? 2 cs).map (·, 3)
    | 'u' => (numbered? 4 cs).map (·, 5)
    | 'U' => (numbered? 8 cs).map (·, 9)
    | _ => none

/-- The characters of a quoted scalar up to white space, an escaped line break or the closing
quote. The gap that follows has begun where a break was escaped. -/
def quotedWord? (single : Bool) : Nat → Place → Option (List Char × Gap × Place)
  | 0, _ => none
  | turns + 1, p =>
    match p.rest with
    | [] => some ([], .nothing, p)
    | c :: cs =>
      if isSpace c || isBreak c then some ([], .nothing, p)
      else if single then
        if c = '\'' then
          if cs.head? = some '\'' then
            (quotedWord? single turns (p.skip 2)).map fun (xs, r) => ('\'' :: xs, r)
          else some ([], .nothing, p)
        else (quotedWord? single turns (p.skip 1)).map fun (xs, r) => (c :: xs, r)
      else if c = '"' then some ([], .nothing, p)
      else if c = '\\' then
        if cs.head?.any isBreak then some ([], .joined, (p.skip 1).skipBreak)
        else do
          let (x, width) ← escape? cs
          let (xs, r) ← quotedWord? single turns (p.skip (width + 1))
          return (x :: xs, r)
      else (quotedWord? single turns (p.skip 1)).map fun (xs, r) => (c :: xs, r)

/-- The text of a quoted scalar from behind its opening quote, and the place behind the closing
one. -/
def quoted? (single : Bool) : Nat → Place → Option (List Char × Place)
  | 0, _ => none
  | turns + 1, p =>
    if p.atMarker || p.rest.isEmpty then none
    else do
      let (word, g, q) ← quotedWord? single (p.rest.length + 1) p
      if q.head? = some (if single then '\'' else '"') then return (word, q.skip 1)
      let (g, q) ← Gap.read? 0 q.rest.length g q
      let (more, q) ← quoted? single turns q
      return (word ++ g.text ++ more, q)

inductive Chomping where
  | strip
  | clip
  | keep
  deriving DecidableEq

def chomping? : Char → Option Chomping
  | '+' => some .keep
  | '-' => some .strip
  | _ => none

def increment? (c : Char) : Option Nat :=
  if c.isDigit && c ≠ '0' then some (c.toNat - '0'.toNat) else none

/-- The chomping mark and the indentation mark of a block, in either order. -/
def blockMarks? (p : Place) : Option (Chomping × Option Nat × Place) :=
  match p.rest with
  | [] => some (.clip, none, p)
  | c :: cs =>
    match chomping? c with
    | some chomping =>
      match cs with
      | [] => some (chomping, none, p.skip 1)
      | d :: _ =>
        if d.isDigit then (increment? d).map fun n => (chomping, some n, p.skip 2)
        else some (chomping, none, p.skip 1)
    | none =>
      if c.isDigit then do
        let n ← increment? c
        match cs.head?.bind chomping? with
        | some chomping => return (chomping, some n, p.skip 2)
        | none => return (.clip, some n, p.skip 1)
      else some (.clip, none, p)

/-- Moves over empty lines and the indentation of the next line, at most `indent` columns of it.
Gives their breaks and the widest column met. -/
def blockBreaks? (indent : Option Nat) : Nat → Nat → Place → Option (List Char × Nat × Place)
  | 0, widest, p => some ([], widest, p)
  | turns + 1, widest, p =>
    let inside := fun column : Nat => indent.all (column < ·)
    let spaces := (p.rest.takeWhile (· = ' ')).length
    let p := p.skip (match indent with | none => spaces | some n => min spaces (n - p.column))
    let widest := max widest p.column
    if inside p.column && p.head? = some '\t' then none
    else if p.head?.any isBreak then do
      let (breaks, widest, q) ← blockBreaks? indent turns widest p.skipBreak
      return (p.breakText ++ breaks, widest, q)
    else some ([], widest, p)

/-- The lines of a block. `folding` holds the break before the line and whether it may become a
space: not next to a line that starts with white space. Gives the text, the last break and the
breaks after it. -/
def blockLines? (literal : Bool) (indent : Nat) :
    Nat → (lastBreak breaks : List Char) → (afterSpace : Bool) → Place →
      Option (List Char × List Char × List Char × Place)
  | 0, lastBreak, breaks, _, p => some ([], lastBreak, breaks, p)
  | turns + 1, lastBreak, breaks, afterSpace, p =>
    if p.column ≠ indent || p.rest.isEmpty then some ([], lastBreak, breaks, p)
    else do
      let startsWithSpace := p.head?.any isSpace
      let folds := !literal && lastBreak = ['\n'] && !afterSpace && !startsWithSpace
      let between :=
        (if folds then (if breaks.isEmpty then [' '] else []) else lastBreak) ++ breaks
      let line := p.rest.takeWhile (!isBreak ·)
      let q := p.skip line.length
      let (later, _, r) ← blockBreaks? (some indent) (q.rest.length + 1) 0 q.skipBreak
      let (more, last) ← blockLines? literal indent turns q.breakText later startsWithSpace r
      return (between ++ line ++ more, last)

/-- The text of a block scalar from behind its indicator. `floor` is the least column of what the
enclosing block holds. -/
def block? (literal : Bool) (floor : Nat) (p : Place) : Option (List Char × Place) := do
  let (chomping, increment, p) ← blockMarks? p
  let p := p.skipWhile isSpace
  let p := if p.head? = some '#' then p.skipWhile (!isBreak ·) else p
  if !endsLine p.head? then none
  let p := p.skipBreak
  let (breaks, widest, p) ←
    blockBreaks? (increment.map (floor - 1 + ·)) (p.rest.length + 1) 0 p
  let indent := match increment with
    | some n => floor - 1 + n
    | none => max widest (max floor 1)
  let (text, lastBreak, later, p) ←
    blockLines? literal indent (p.rest.length + 1) [] breaks false p
  let ending := match chomping with
    | .strip => []
    | .clip => lastBreak
    | .keep => lastBreak ++ later
  return (text ++ ending, p)

end TypeSchema.Yaml
