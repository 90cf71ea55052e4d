import TypeSchema.Proofs.Positions
import TypeSchema.Proofs.WellFormedReading

namespace TypeSchema

namespace Cursor

variable {c : Cursor}

theorem length_next_lt {x : Char} (h : c.head? = some x) :
    c.next.rest.length < c.rest.length := by
  obtain ⟨offset, rest⟩ := c
  cases rest with
  | nil => cases h
  | cons y rest => exact Nat.lt_succ_self _

theorem length_next_skipBlanks_lt {x : Char} (h : c.skipBlanks.head? = some x) :
    c.skipBlanks.next.rest.length < c.rest.length :=
  lt_of_lt_of_le (length_next_lt h) (length_skipWhile_le Text.isBlank c)

theorem taken_ne_nil {p : Char → Bool} {x : Char} (h : c.head? = some x) (hx : p x = true) :
    c.taken p ≠ [] := by
  obtain ⟨offset, rest⟩ := c
  cases rest with
  | nil => cases h
  | cons y rest =>
    obtain rfl : y = x := Option.some.inj h
    rw [taken, List.takeWhile_cons_of_pos hx]
    exact List.cons_ne_nil _ _

theorem length_skipWhile_lt {p : Char → Bool} (h : c.taken p ≠ []) :
    (c.skipWhile p).rest.length < c.rest.length := by
  have hread := congrArg List.length (reads_skipWhile p c).1
  rw [List.length_append] at hread
  have hpos := List.length_pos_iff.mpr h
  omega

end Cursor

namespace TypeExpr

open Text Tracked

variable {c d : Cursor} {allowance : Nat}

/-- The reader takes at least one character. -/
def GetsOn (sub : Reader Attempt) : Prop :=
  ∀ c, Returns (sub c) fun r => r.2.rest.length < c.rest.length

theorem returns_length_lt {α : Type} {attempt : Attempt (α × Cursor)}
    (h : Returns attempt fun r => d.Reaches r.2) (hd : d.rest.length < c.rest.length) :
    Returns attempt fun r => r.2.rest.length < c.rest.length :=
  fun r hr => lt_of_le_of_lt (h r hr).length_le hd

theorem reaches_wordType (start : Cursor) (word : List Char) (c : Cursor) :
    Returns (wordType (parseType allowance) start word c) fun r => c.Reaches r.2 := by
  have hsub := accounts_parseType allowance
  rw [wordType_eq]
  split
  · exact (accounts_mapType hsub c).stops
  split
  · exact (accounts_structBody hsub c).stops
  split
  · exact (accounts_interfaceBody c).stops
  split
  · exact (accounts_funcSignature hsub c).stops
  split
  · exact returns_bind (hsub c).stops fun r hr => returns_ok hr
  · exact returns_bind_any fun type => returns_ok (.refl c)

theorem getsOn_nestedType : GetsOn (nestedType (parseType allowance)) := by
  intro c
  have hsub := accounts_parseType allowance
  rw [nestedType, Scanner.skipBlanks_bind]
  split
  · exact returns_error _
  · next x hx =>
    have hnext := Cursor.length_next_skipBlanks_lt hx
    split
    · rw [Scanner.next_bind]
      exact returns_length_lt (returns_bind (hsub _).stops fun r hr => returns_ok hr) hnext
    split
    · rw [Scanner.next_bind]
      exact returns_length_lt (accounts_arrayType hsub _).stops hnext
    split
    · next hstart =>
      have hword := isWordChar_of_identifierChar (isIdentifierChar_of_start hstart)
      rw [Scanner.skipWhile_bind]
      refine returns_length_lt (reaches_wordType _ _ _) ?_
      exact lt_of_lt_of_le (Cursor.length_skipWhile_lt (Cursor.taken_ne_nil hx hword))
        (Cursor.length_skipWhile_le isBlank c)
    · exact returns_error _

theorem getsOn_parseType (allowance : Nat) : GetsOn (parseType allowance) := by
  cases allowance with
  | zero => exact fun c => returns_error _
  | succ allowance => exact getsOn_nestedType

theorem length_embeddedField_le (type : TypeExpr) (c : Cursor) :
    Returns (embeddedField type c) fun r => r.2.rest.length ≤ c.rest.length :=
  fun r hr => ((accounts_embeddedField type c).stops r hr).length_le

theorem length_expect_skipBlanks_le (x : Char) (c : Cursor) :
    Returns (Scanner.expect x c.skipBlanks) fun d => d.rest.length ≤ c.rest.length :=
  fun d hd => le_trans ((accounts_expect x c.skipBlanks).stops d hd).length_le
    (Cursor.length_skipWhile_le isBlank c)

theorem length_fieldLine_lt (start : Cursor) :
    Returns (fieldLine (parseType allowance) start) fun r =>
      r.2.rest.length < start.rest.length := by
  have hsub := accounts_parseType allowance
  rw [fieldLine, Scanner.skipWhile_bind]
  split
  · exact returns_error _
  next hword =>
  rw [Scanner.skipInlineBlanks_bind]
  have hplace : (start.skipWhile isWordChar).skipInlineBlanks.rest.length < start.rest.length :=
    lt_of_le_of_lt (Cursor.length_skipWhile_le isInlineBlank _)
      (Cursor.length_skipWhile_lt fun hnil => hword (List.isEmpty_iff.mpr hnil))
  refine returns_length_lt ?_ hplace
  split
  · exact returns_bind_any fun type => (accounts_embeddedField type _).stops
  · refine returns_bind (accounts_moreNames _ _).stops fun r hr => ?_
    dsimp only
    split
    · refine returns_bind (hsub r.2).stops fun s hs => ?_
      refine returns_bind (accounts_fieldTag s.2).stops fun t ht => ?_
      exact returns_ok ((hr.trans hs).trans ht)
    · exact returns_error _

end TypeExpr

end TypeSchema
