import TypeSchema.Document

namespace TypeSchema.Json

def hexDigit (n : Nat) : Char := Nat.digitChar n

/-- Only the quote, the backslash and the control characters below the space are escaped. -/
def escape (c : Char) : List Char :=
  if c = '"' then ['\\', '"']
  else if c = '\\' then ['\\', '\\']
  else if c.toNat = 0x08 then ['\\', 'b']
  else if c = '\t' then ['\\', 't']
  else if c = '\n' then ['\\', 'n']
  else if c.toNat = 0x0C then ['\\', 'f']
  else if c = '\r' then ['\\', 'r']
  else if c.toNat < 0x20 then
    ['\\', 'u', '0', '0', hexDigit (c.toNat / 16), hexDigit (c.toNat % 16)]
  else [c]

def quoted (s : String) : String :=
  "\"" ++ String.ofList (s.toList.flatMap escape) ++ "\""

mutual

def compact : Document → String
  | .text s => quoted s
  | .list items => "[" ++ ",".intercalate (compactItems items) ++ "]"
  | .table entries => "\x7b" ++ ",".intercalate (compactEntries entries) ++ "\x7d"

def compactItems : List Document → List String
  | [] => []
  | item :: items => compact item :: compactItems items

def compactEntries : List (String × Document) → List String
  | [] => []
  | (key, value) :: entries => (quoted key ++ ":" ++ compact value) :: compactEntries entries

end

def lineStart (level : Nat) : String := "\n" ++ "".pushn ' ' (2 * level)

/-- Lines inside a pair of brackets; brackets around nothing stay together. -/
def block (level : Nat) (opening closing : String) (lines : List String) : String :=
  if lines.isEmpty then opening ++ closing
  else
    opening ++ lineStart (level + 1) ++ ("," ++ lineStart (level + 1)).intercalate lines ++
      lineStart level ++ closing

mutual

def prettyAt (level : Nat) : Document → String
  | .text s => quoted s
  | .list items => block level "[" "]" (prettyItems (level + 1) items)
  | .table entries => block level "\x7b" "\x7d" (prettyEntries (level + 1) entries)

def prettyItems (level : Nat) : List Document → List String
  | [] => []
  | item :: items => prettyAt level item :: prettyItems level items

def prettyEntries (level : Nat) : List (String × Document) → List String
  | [] => []
  | (key, value) :: entries =>
    (quoted key ++ ": " ++ prettyAt level value) :: prettyEntries level entries

end

def pretty (d : Document) : String := prettyAt 0 d

end TypeSchema.Json
