import TypeSchema.Text.Split

namespace TypeSchema.Path

open Text

def isAbsolute (path : String) : Bool := path.toList.head? = some '/'

def endsInSlash (path : String) : Bool := path.toList.getLast? = some '/'

/-- What is written between the slashes. -/
def segments (path : String) : List String :=
  ((splitAll '/' path.toList).filter (!·.isEmpty)).map String.ofList

def names (path : String) : List String := (segments path).filter (· ≠ ".")

/-- The path without its last name. -/
def parent? (path : String) : Option String :=
  if (names path).isEmpty && (path.isEmpty || isAbsolute path) then none
  else some ((if isAbsolute path then "/" else "") ++ "/".intercalate (names path).dropLast)

/-- What follows the last dot of the last name. A dot at its start begins no extension. -/
def extension? (path : String) : Option String := do
  let name ← (names path).getLast?
  if name = ".." then none
  let (before, after) ← splitLast '.' name.toList
  if before.isEmpty then none else return String.ofList after

end TypeSchema.Path
