import TypeSchema.TypeExpr.Basic

namespace TypeSchema.TypeExpr

def identChars (path name : String) : List Char :=
  if path.isEmpty then name.toList else (shortModuleName path).toList ++ '.' :: name.toList

/-- An embedded field is written by its type alone. -/
def fieldChars (name : String) (type : List Char) (tag : Option String) : List Char :=
  (if name.isEmpty then type else name.toList ++ ' ' :: type) ++
    match tag with
    | none => []
    | some tag => ' ' :: '\x60' :: tag.toList ++ ['\x60']

def separated (separator : List Char) : List (List Char) → List Char
  | [] => []
  | [item] => item
  | item :: items => item ++ separator ++ separated separator items

/-- One result is written bare, several in parentheses. -/
def resultsChars : List (List Char) → List Char
  | [] => []
  | [result] => ' ' :: result
  | results => ' ' :: '(' :: separated [',', ' '] results ++ [')']

mutual

def chars : TypeExpr → List Char
  | ident path name => identChars path name
  | pointer target => '*' :: target.chars
  | array element => '[' :: ']' :: element.chars
  | map key value => "map[".toList ++ key.chars ++ ']' :: value.chars
  | struct fields => "struct\x7b".toList ++ separated [';', ' '] (fieldTexts fields) ++ ['}']
  | interface => "interface\x7b\x7d".toList
  | func params results =>
    "func(".toList ++ separated [',', ' '] (typeTexts params) ++ ')' ::
      resultsChars (typeTexts results)
  | chan message => "chan ".toList ++ message.chars

def fieldTexts : List (Field TypeExpr) → List (List Char)
  | [] => []
  | ⟨name, type, tag⟩ :: fields => fieldChars name type.chars tag :: fieldTexts fields

def typeTexts : List TypeExpr → List (List Char)
  | [] => []
  | type :: types => type.chars :: typeTexts types

end

def text (e : TypeExpr) : String := String.ofList e.chars

theorem toList_text (e : TypeExpr) : e.text.toList = e.chars := String.toList_ofList

end TypeSchema.TypeExpr
