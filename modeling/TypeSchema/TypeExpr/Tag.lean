import TypeSchema.TypeExpr.Basic

namespace TypeSchema

namespace Tag

/-- The value whose opening quote has just been read; a value that is never closed is none. -/
def quotedValue (cs : List Char) : Option (List Char) :=
  if '"' ∈ cs then some (cs.takeWhile (· ≠ '"')) else none

/-- Searches for `opening`, the key with its colon and quote, where a key may stand: behind a
space, at the start, or right behind an occurrence that was passed over. `atKey` says whether one
may stand here. -/
def search (opening : List Char) (atKey : Bool) : List Char → Option (List Char)
  | [] => none
  | c :: cs =>
    if opening.isPrefixOf (c :: cs) then
      if atKey then quotedValue ((c :: cs).drop opening.length)
      else search opening true (cs.drop (opening.length - 1))
    else search opening (c = ' ') cs
termination_by cs => cs.length
decreasing_by all_goals simp only [List.length_cons, List.length_drop]; omega

def opening (key : String) : List Char := key.toList ++ [':', '"']

def value? (tag key : String) : Option String :=
  (search (opening key) true tag.toList).map String.ofList

end Tag

namespace Field

def tagValue? {τ : Type} (f : Field τ) (key : String) : Option String :=
  f.tag.bind (Tag.value? · key)

end Field

end TypeSchema
