import TypeSchema.Document
import TypeSchema.TypeExpr.Cursor
import TypeSchema.Yaml.Style

namespace TypeSchema.Yaml

def spaces (n : Nat) : List Char := List.replicate n ' '

/-- The number `n` in `width` hexadecimal digits. -/
def hexDigits : Nat → Nat → List Char
  | 0, _ => []
  | width + 1, n => hexDigits width (n / 16) ++ [(Nat.digitChar (n % 16)).toUpper]

def escapeMark? (c : Char) : Option Char :=
  match c.toNat with
  | 0x00 => some '0'
  | 0x07 => some 'a'
  | 0x08 => some 'b'
  | 0x09 => some 't'
  | 0x0A => some 'n'
  | 0x0B => some 'v'
  | 0x0C => some 'f'
  | 0x0D => some 'r'
  | 0x1B => some 'e'
  | 0x22 => some '"'
  | 0x5C => some '\\'
  | 0x85 => some 'N'
  | 0x2028 => some 'L'
  | 0x2029 => some 'P'
  | _ => none

def doubleQuotedChar (c : Char) : List Char :=
  match escapeMark? c with
  | some mark => ['\\', mark]
  | none =>
    if isPrintable c then [c]
    else if c.toNat ≤ 0xFF then '\\' :: 'x' :: hexDigits 2 c.toNat
    else '\\' :: 'u' :: hexDigits 4 c.toNat

def doubleQuoted (cs : List Char) : List Char := '"' :: cs.flatMap doubleQuotedChar ++ ['"']

/-- A line break is followed by the indentation of the next line. -/
def singleQuotedChars (indent : Nat) (afterBreak : Bool) : List Char → List Char
  | [] => if afterBreak then spaces indent else []
  | c :: cs =>
    if isBreak c then c :: singleQuotedChars indent true cs
    else
      (if afterBreak then spaces indent else []) ++ (if c = '\'' then ['\'', '\''] else [c]) ++
        singleQuotedChars indent false cs

def singleQuoted (indent : Nat) (cs : List Char) : List Char :=
  '\'' :: singleQuotedChars indent false cs ++ ['\'']

/-- Only lines with text on them are indented. -/
def literalLines (indent : Nat) (afterBreak : Bool) : List Char → List Char
  | [] => []
  | c :: cs =>
    if isBreak c then c :: literalLines indent true cs
    else (if afterBreak then spaces indent else []) ++ c :: literalLines indent false cs

/-- The indentation is marked where the text itself starts with white space. -/
def indentMark (cs : List Char) : List Char :=
  if cs.head?.any fun c => c = ' ' || isBreak c then ['2'] else []

/-- No final break, one, or several. -/
def chompMark (cs : List Char) : List Char :=
  match cs.reverse with
  | [] => ['-']
  | [c] => if isBreak c then ['+'] else ['-']
  | c :: d :: _ => if !isBreak c then ['-'] else if isBreak d then ['+'] else []

/-- A literal block: its header, and below it the lines of the text. -/
def literal (indent : Nat) (cs : List Char) : List Char :=
  '|' :: indentMark cs ++ chompMark cs ++ '\n' :: literalLines indent true cs

/-- A scalar whose further lines are indented by `indent`. -/
def scalar (indent : Nat) (s : String) : List Char :=
  match style s with
  | .plain => s.toList
  | .singleQuoted => singleQuoted indent s.toList
  | .doubleQuoted => doubleQuoted s.toList
  | .literal => literal indent s.toList

/-- A longer key, or one of several lines, is marked as a key on its own. -/
def isSimpleKey (s : String) : Bool := !s.toList.any isBreak && utf8Length s.toList ≤ 128

/-- Ends the line, unless a literal block has done so. -/
def endLine (cs : List Char) : List Char :=
  if cs.getLast?.any isBreak then cs else cs ++ ['\n']

/-- Items below each other; the first one continues a line that is open at column `indent`. -/
def stacked (indent : Nat) : List (List Char) → List Char
  | [] => []
  | [item] => item
  | item :: items => endLine item ++ spaces indent ++ stacked indent items

/-- The key with its mark, up to where the value follows. -/
def keyText (indent : Nat) (key : String) : List Char :=
  if isSimpleKey key then scalar (indent + 2) key ++ [':']
  else '?' :: ' ' :: endLine (scalar (indent + 2) key) ++ spaces indent ++ [':']

mutual

/-- A node in the line of a mark at column `indent`. -/
def inlineNode (indent : Nat) : Document → List Char
  | .text s => ' ' :: scalar (indent + 2) s
  | .list [] => " []".toList
  | .list items => ' ' :: stacked (indent + 2) (itemTexts (indent + 2) items)
  | .table [] => " \x7b\x7d".toList
  | .table entries => ' ' :: stacked (indent + 2) (entryTexts (indent + 2) entries)

/-- A node below its key at column `indent`, or behind it where it needs no lines. -/
def nodeBelow (indent : Nat) : Document → List Char
  | .text s => ' ' :: scalar (indent + 2) s
  | .list [] => " []".toList
  | .list items => '\n' :: spaces indent ++ stacked indent (itemTexts indent items)
  | .table [] => " \x7b\x7d".toList
  | .table entries =>
    '\n' :: spaces (indent + 2) ++ stacked (indent + 2) (entryTexts (indent + 2) entries)

def itemTexts (indent : Nat) : List Document → List (List Char)
  | [] => []
  | item :: items => ('-' :: inlineNode indent item) :: itemTexts indent items

def entryTexts (indent : Nat) : List (String × Document) → List (List Char)
  | [] => []
  | (key, value) :: entries =>
    (keyText indent key ++
      if isSimpleKey key then nodeBelow indent value else inlineNode indent value) ::
      entryTexts indent entries

end

def rootText : Document → List Char
  | .text s => scalar 2 s
  | .list [] => "[]".toList
  | .list items => stacked 0 (itemTexts 0 items)
  | .table [] => "\x7b\x7d".toList
  | .table entries => stacked 0 (entryTexts 0 entries)

def print (d : Document) : String := String.ofList (endLine (rootText d))

end TypeSchema.Yaml
