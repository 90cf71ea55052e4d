namespace TypeSchema

inductive SchemaKind where
  | array
  | boolean
  | integer
  | null
  | number
  | object
  | string
  deriving DecidableEq, Repr

/-- Only ASCII letters lose their case. -/
def foldCase (name : String) : String := String.ofList (name.toList.map Char.toLower)

namespace SchemaKind

def all : List SchemaKind := [array, boolean, integer, null, number, object, string]

def word : SchemaKind → String
  | array => "array"
  | boolean => "boolean"
  | integer => "integer"
  | null => "null"
  | number => "number"
  | object => "object"
  | string => "string"

def ofWord? (w : String) : Option SchemaKind := all.find? (·.word = w)

/-- The names of well-known value types. -/
def narrow? (name : String) : Option SchemaKind :=
  match foldCase name with
  | "time" | "objectid" | "uuid" => some string
  | "decimal" => some number
  | _ => none

/-- The narrow names first, then the built-in names and the words of the vocabulary; any other
name is a string. -/
def broad (name : String) : SchemaKind :=
  match narrow? name with
  | some kind => kind
  | none =>
    match foldCase name with
    | "int" | "int8" | "int16" | "int32" | "int64" | "uint" | "uint8" | "uint16" | "uint32"
    | "uint64" | "uintptr" | "byte" | "rune" | "integer" => integer
    | "float32" | "float64" | "number" => number
    | "bool" | "boolean" => boolean
    | "array" => array
    | "object" => object
    | "null" => null
    | _ => string

end SchemaKind

end TypeSchema
