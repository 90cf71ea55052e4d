namespace TypeSchema

inductive Fault where
  | expectedType
  | expectedChar (c : Char)
  | tooDeep
  | trailingInput
  | invalidIdentifier (word : String)
  | invalidQualifiedIdentifier (word : String)
  | unterminatedStruct
  | expectedField
  | expectedFieldName
  | invalidFieldName (word : String)
  | unterminatedTag
  | unterminatedInterface
  deriving DecidableEq, Repr

namespace Fault

def message : Fault → String
  | expectedType => "expected a type"
  | expectedChar c => "expected '" ++ c.toString ++ "'"
  | tooDeep => "type expression nested too deeply"
  | trailingInput => "unexpected trailing input"
  | invalidIdentifier word => "invalid identifier: '" ++ word ++ "'"
  | invalidQualifiedIdentifier word => "invalid qualified identifier: '" ++ word ++ "'"
  | unterminatedStruct => "unterminated struct"
  | expectedField => "expected a field"
  | expectedFieldName => "expected a field name"
  | invalidFieldName word => "invalid field name: '" ++ word ++ "'"
  | unterminatedTag => "unterminated struct tag"
  | unterminatedInterface => "unterminated interface"

end Fault

/-- The offset counts the UTF-8 bytes before the fault. -/
structure ParseError where
  offset : Nat
  fault : Fault
  deriving DecidableEq, Repr

namespace ParseError

def message (e : ParseError) : String :=
  "Parse Error at offset " ++ toString e.offset ++ ": " ++ e.fault.message

end ParseError

end TypeSchema
