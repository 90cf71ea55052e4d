namespace TypeSchema.Text

/-- What stands before and after the last `x`. -/
def splitLast (x : Char) : List Char → Option (List Char × List Char)
  | [] => none
  | c :: cs =>
    match splitLast x cs with
    | some (before, after) => some (c :: before, after)
    | none => if c = x then some ([], cs) else none

/-- The parts between the separators `x`, empty ones included. -/
def splitAll (x : Char) : List Char → List (List Char)
  | [] => [[]]
  | c :: cs =>
    if c = x then [] :: splitAll x cs
    else
      match splitAll x cs with
      | [] => [[c]]
      | part :: parts => (c :: part) :: parts

theorem eq_of_splitLast {x : Char} {cs before after : List Char}
    (h : splitLast x cs = some (before, after)) : cs = before ++ x :: after := by
  induction cs generalizing before with
  | nil => simp [splitLast] at h
  | cons c cs ih =>
    unfold splitLast at h
    split at h
    · next b a hs =>
      cases h
      rw [ih hs, List.cons_append]
    · split at h
      · next hc =>
        cases h
        rw [hc, List.nil_append]
      · simp at h

end TypeSchema.Text
