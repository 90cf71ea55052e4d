import TypeSchema.Text.Alphabetic
import TypeSchema.Text.Numeric

namespace TypeSchema.Text

def isAlphanumeric (c : Char) : Bool := isAlphabetic c || isNumeric c

def isIdentifierStart (c : Char) : Bool := isAlphabetic c || c = '_'

def isIdentifierChar (c : Char) : Bool := isAlphanumeric c || c = '_'

def isWordChar (c : Char) : Bool :=
  isAlphanumeric c || c = '_' || c = '.' || c = '/' || c = '-'

def isIdentifier : List Char → Bool
  | [] => false
  | c :: cs => isIdentifierStart c && cs.all isIdentifierChar

theorem isIdentifierChar_of_start {c : Char} (h : isIdentifierStart c = true) :
    isIdentifierChar c = true := by
  simp only [isIdentifierStart, Bool.or_eq_true] at h
  simp only [isIdentifierChar, isAlphanumeric, Bool.or_eq_true]
  exact h.imp Or.inl id

theorem isWordChar_of_identifierChar {c : Char} (h : isIdentifierChar c = true) :
    isWordChar c = true := by
  simp only [isIdentifierChar, Bool.or_eq_true] at h
  simp only [isWordChar, Bool.or_eq_true]
  exact .inl (.inl (.inl h))

end TypeSchema.Text
