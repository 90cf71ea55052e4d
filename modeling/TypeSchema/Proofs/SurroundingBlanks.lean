import TypeSchema.Proofs.Progress
import TypeSchema.Proofs.Reading
import TypeSchema.Proofs.SideBySide

namespace TypeSchema.TypeExpr

open Text Cursor
open Scanner (expect next_bind skipWhile_bind skipBlanks_bind skipInlineBlanks_bind)

section

variable {α : Type} {k : Nat} {w : List Char} {c d : Cursor}

theorem expect_beside (x : Char) (h : Beside k w c d) :
    SideBySide k w (Beside k w) (expect x c) (expect x d) := by
  simp only [expect, skipBlanks_bind, h.head?_skipBlanks]
  exact .ite Iff.rfl (fun hx => .ok (h.skipBlanks.next hx)) fun _ => .fail h.skipBlanks _

/-- A word is the same wherever it stands; only the place of its fault moves. -/
theorem identOfWord_beside (h : Beside k w c d) (word : List Char) :
    SideBySide k w Eq (identOfWord c word) (identOfWord d word) := by
  unfold identOfWord
  split
  · exact .ite Iff.rfl (fun _ => .ok rfl) fun _ => .fail h _
  · exact .ite Iff.rfl (fun _ => .ok rfl) fun _ => .fail h _

theorem closeBraces_blanks {cs : List Char} (hcs : Blanks cs) (depth offset : Nat) :
    ∃ e, (closeBraces depth offset cs : Attempt Cursor) = .error e := by
  induction cs generalizing offset with
  | nil => exact ⟨_, rfl⟩
  | cons x cs ih =>
    obtain ⟨hx, hmore⟩ := List.forall_mem_cons.mp hcs
    rw [closeBraces_other (ne_of_isBlank hx (by decide)) (ne_of_isBlank hx (by decide))]
    exact ih hmore _

theorem closeBraces_beside (h : Beside k w c d) (depth : Nat) :
    SideBySide k w (Beside k w) (closeBraces depth c.offset c.rest)
      (closeBraces depth d.offset d.rest) := by
  obtain ⟨offset, rest⟩ := c
  induction rest generalizing depth offset d with
  | nil =>
    by_cases hw : w = []
    · subst hw
      cases h with
      | within hrest hoffset =>
        rw [hrest]
        exact .error fun _ => congrArg (ParseError.mk · _) hoffset
      | behind _ _ hw => exact absurd rfl hw
    · exact .of_errors hw ⟨_, rfl⟩ (closeBraces_blanks (h.blanks rfl) depth d.offset)
  | cons x rest ih =>
    cases h with
    | behind hend => cases hend
    | within hrest hoffset hblanks =>
      have hstep : Beside k w ⟨offset + x.utf8Size, rest⟩ ⟨d.offset + x.utf8Size, rest ++ w⟩ :=
        .within rfl (by rw [hoffset]; exact Nat.add_assoc _ _ _) hblanks
      rw [hrest, List.cons_append]
      simp only [closeBraces, next_bind]
      refine .ite Iff.rfl (fun _ => ih _ _ hstep) fun _ =>
        .ite Iff.rfl (fun _ => ?_) fun _ => ih _ _ hstep
      cases depth with
      | zero => exact .ok hstep
      | succ depth => exact ih _ _ hstep

theorem interfaceBody_beside (h : Beside k w c d) :
    SideBySide k w (Alongside k w) (interfaceBody c) (interfaceBody d) :=
  .bind (expect_beside '{' h) fun _ _ h => .bind (closeBraces_beside h 0) fun _ _ h => .ok ⟨rfl, h⟩

theorem fieldTag_beside (h : Beside k w c d) :
    SideBySide k w (Alongside k w) (fieldTag c) (fieldTag d) := by
  have hblanks := h.skipInlineBlanks
  simp only [fieldTag, skipInlineBlanks_bind, next_bind, skipWhile_bind]
  refine .ite (hblanks.head?_eq_some_iff (by decide)).symm (fun hx => ?_) fun _ =>
    .ok ⟨rfl, hblanks⟩
  have hnext := hblanks.next hx
  have htag := hnext.skipWhile (· ≠ '\x60')
  have hhead := hnext.head?_skipWhile (p := (· ≠ '\x60')) fun x hx =>
    decide_eq_true (ne_of_isBlank hx (by decide))
  refine .ite (isEmpty_iff_of_head? hhead) (fun _ => .fail htag _) fun hsome => ?_
  obtain ⟨x, hx⟩ := exists_head? hsome
  have htaken := hnext.taken_eq (p := (· ≠ '\x60')) fun hnil => by
    rw [head?, hnil] at hx
    cases hx
  rw [htaken]
  exact .ok ⟨rfl, htag.next hx⟩

theorem embeddedField_beside (type : TypeExpr) (h : Beside k w c d) :
    SideBySide k w (Alongside k w) (embeddedField type c) (embeddedField type d) :=
  .bind_alongside (fieldTag_beside h) fun _ _ _ h => .ok ⟨rfl, h⟩

theorem moreNames_of_ne {turns : Nat} (hx : c.skipBlanks.head? ≠ some ',')
    (hturns : c.rest.length ≤ turns) :
    (moreNames turns c : Attempt _) = .ok ([], c.skipBlanks) := by
  cases turns with
  | zero =>
    rw [skipBlanks_of_end (List.length_eq_zero_iff.mp (Nat.le_zero.mp hturns))]
    rfl
  | succ turns =>
    rw [moreNames, skipBlanks_bind, if_neg hx]
    rfl

/-- With enough turns on both sides it does not matter how many there are. -/
theorem moreNames_beside {turns turns' : Nat} (h : Beside k w c d)
    (hc : c.rest.length ≤ turns) (hd : d.rest.length ≤ turns') :
    SideBySide k w (Alongside k w) (moreNames turns c) (moreNames turns' d) := by
  have hshort : ∀ {c : Cursor}, c.skipBlanks.head? = some ',' →
      (c.skipBlanks.next.skipBlanks.skipWhile isWordChar).rest.length < c.rest.length := by
    intro c hx
    calc (c.skipBlanks.next.skipBlanks.skipWhile isWordChar).rest.length
        ≤ c.skipBlanks.next.skipBlanks.rest.length := length_skipWhile_le _ _
      _ ≤ c.skipBlanks.next.rest.length := length_skipWhile_le _ _
      _ < c.skipBlanks.rest.length := length_next_lt hx
      _ ≤ c.rest.length := length_skipWhile_le _ _
  induction turns generalizing c d turns' with
  | zero =>
    have hx : c.skipBlanks.head? ≠ some ',' := fun hx => absurd (hshort hx) (by omega)
    rw [moreNames_of_ne hx hc, moreNames_of_ne (h.head?_skipBlanks ▸ hx) hd]
    exact .ok ⟨rfl, h.skipBlanks⟩
  | succ turns ih =>
    by_cases hx : c.skipBlanks.head? = some ','
    · have hx' := h.head?_skipBlanks.trans hx
      have hc' := hshort hx
      have hd' := hshort hx'
      obtain ⟨turns', rfl⟩ : ∃ n, turns' = n + 1 := Nat.exists_eq_add_one_of_ne_zero (by omega)
      rw [moreNames, moreNames, skipBlanks_bind, skipBlanks_bind, if_pos hx, if_pos hx']
      have hname := (h.skipBlanks.next hx).skipBlanks
      have hword := hname.skipWhile isWordChar
      have hsame : d.skipBlanks.next.skipBlanks.taken isWordChar =
          c.skipBlanks.next.skipBlanks.taken isWordChar :=
        hname.taken_eq fun _ _ => isWordChar_of_isBlank
      simp only [next_bind, skipBlanks_bind, skipWhile_bind, hsame]
      refine .ite Iff.rfl (fun _ => ?_) fun _ => .fail hword _
      exact .bind_alongside (ih hword (by omega) (by omega)) fun _ _ _ h => .ok ⟨rfl, h⟩
    · rw [moreNames_of_ne hx hc, moreNames_of_ne (h.head?_skipBlanks ▸ hx) hd]
      exact .ok ⟨rfl, h.skipBlanks⟩

end

section

variable {k : Nat} {w : List Char} {c d : Cursor} {sub : Reader Attempt}

/-- A reader does the same in both texts. -/
def ReadsAlike (k : Nat) (w : List Char) (sub : Reader Attempt) : Prop :=
  ∀ c d, Beside k w c d → SideBySide k w (Alongside k w) (sub c) (sub d)

/-- A reader that gets on has nothing to read among the blanks behind a text. -/
theorem error_of_blanks (hsub : ReadsAlike k w sub) (hgets : GetsOn sub) (hw : w ≠ [])
    (hd : Blanks d.rest) : ∃ e, sub d = .error e := by
  have halike := hsub ⟨0, []⟩ d (.behind rfl hd hw)
  cases hc : sub ⟨0, []⟩ with
  | ok r => exact absurd (hgets _ r hc) (Nat.not_lt_zero _)
  | error e => exact (hc ▸ halike).exists_error

theorem returns_embeddedField_end (type : TypeExpr) (hc : c.rest = []) :
    Returns (embeddedField type c) fun r => r.2.rest = [] := by
  intro r hr
  have hle := length_embeddedField_le type c r hr
  rw [hc] at hle
  exact List.length_eq_zero_iff.mp (Nat.le_zero.mp hle)

/-- The line of a field, behind its names. -/
def namedLine (sub : Reader Attempt) (start : Cursor) (word : List Char)
    (r : List String × Cursor) : Attempt (List (Field TypeExpr) × Cursor) :=
  if isIdentifier word then do
    let (type, c) ← sub r.2
    let (tag, c) ← fieldTag c
    return ((String.ofList word :: r.1).map (⟨·, type, tag⟩), c)
  else start.fail (.invalidFieldName (String.ofList word))

theorem fieldLine_eq (sub : Reader Attempt) (start : Cursor) :
    fieldLine sub start =
      let word := start.taken isWordChar
      let c := (start.skipWhile isWordChar).skipInlineBlanks
      if word.isEmpty then (start.skipWhile isWordChar).fail .expectedField
      else if endsEmbedded c then identOfWord start word >>= fun type => embeddedField type c
      else moreNames c.rest.length c >>= namedLine sub start word :=
  rfl

theorem namedLine_beside {start start' : Cursor} {r s : List String × Cursor}
    (hsub : ReadsAlike k w sub) (hstart : Beside k w start start') (h : Alongside k w r s)
    (word : List Char) :
    SideBySide k w (Alongside k w) (namedLine sub start word r) (namedLine sub start' word s) := by
  obtain ⟨names, c⟩ := r
  obtain ⟨_, d⟩ := s
  obtain ⟨rfl, h⟩ := h
  refine .ite Iff.rfl (fun _ => ?_) fun _ => .fail hstart _
  refine .bind_alongside (hsub c d h) fun type c d h => ?_
  exact .bind_alongside (fieldTag_beside h) fun _ _ _ h => .ok ⟨rfl, h⟩

theorem embeddedLine_beside {start start' : Cursor} (hstart : Beside k w start start')
    (h : Beside k w c d) (word : List Char) :
    SideBySide k w (Alongside k w)
      (identOfWord start word >>= fun type => embeddedField type c)
      (identOfWord start' word >>= fun type => embeddedField type d) :=
  .bind (identOfWord_beside hstart word) fun type _ htype => htype ▸ embeddedField_beside type h

/-- Among the blanks behind the first text no name goes on, and no type follows. -/
theorem error_of_namedLine (hsub : ReadsAlike k w sub) (hgets : GetsOn sub) (hw : w ≠ [])
    (h : Beside k w c d) (hend : c.rest = []) (start : Cursor) (word : List Char) :
    ∃ e, moreNames d.rest.length d >>= namedLine sub start word = .error e := by
  have hskip : c.skipBlanks = c := skipBlanks_of_end hend
  have hnone : c.skipBlanks.head? ≠ some ',' := by
    rw [hskip, head?, hend]
    intro hcomma
    cases hcomma
  have hnames := moreNames_beside h le_rfl le_rfl
  rw [moreNames_of_ne hnone le_rfl, hskip] at hnames
  obtain ⟨⟨names, d'⟩, hd, -, hblanks⟩ := hnames.exists_ok
  rw [hd, ok_bind, namedLine]
  split
  · obtain ⟨e, he⟩ := error_of_blanks hsub hgets hw (hblanks.blanks hend)
    exact ⟨e, by rw [he]; rfl⟩
  · exact ⟨_, rfl⟩

/-- At the end of the first text an embedded type ends its line, which is left open there. Behind it
another blank may stand that does not end a line; then a type is missing. -/
theorem fieldLine_beside (hsub : ReadsAlike k w sub) (hgets : GetsOn sub) (h : Beside k w c d) :
    SideBySide k w (Alongside k w) (fieldLine sub c) (fieldLine sub d) ∨
      w ≠ [] ∧ Returns (fieldLine sub c) (fun r => r.2.rest = []) ∧
        ∃ e, fieldLine sub d = .error e := by
  have hword := h.skipWhile isWordChar
  have hline := hword.skipInlineBlanks
  have hsame : d.taken isWordChar = c.taken isWordChar :=
    h.taken_eq fun _ _ => isWordChar_of_isBlank
  rw [fieldLine_eq, fieldLine_eq, hsame]
  dsimp only
  by_cases hempty : (c.taken isWordChar).isEmpty = true
  · rw [if_pos hempty, if_pos hempty]
    exact .inl (.fail hword _)
  rw [if_neg hempty, if_neg hempty]
  rcases hline.head?_eq with hhead | ⟨hend, hw, -⟩
  · left
    have hends : endsEmbedded (d.skipWhile isWordChar).skipInlineBlanks =
        endsEmbedded (c.skipWhile isWordChar).skipInlineBlanks := by
      rw [endsEmbedded, endsEmbedded, hhead]
    rw [hends]
    refine .ite Iff.rfl (fun _ => embeddedLine_beside h hline _) fun _ => ?_
    exact .bind (moreNames_beside hline le_rfl le_rfl) fun _ _ hr => namedLine_beside hsub h hr _
  · have hends : endsEmbedded (c.skipWhile isWordChar).skipInlineBlanks = true := by
      rw [endsEmbedded, head?, hend]
      rfl
    rw [if_pos hends]
    by_cases hends' : endsEmbedded (d.skipWhile isWordChar).skipInlineBlanks = true
    · rw [if_pos hends']
      exact .inl (embeddedLine_beside h hline _)
    · rw [if_neg hends']
      exact .inr ⟨hw, returns_bind_any fun type => returns_embeddedField_end type hend,
        error_of_namedLine hsub hgets hw hline hend d _⟩

/-- A struct is left open where a line reads the first text to its end. -/
theorem error_of_structFields {line : Attempt (List (Field TypeExpr) × Cursor)}
    (hline : Returns line fun r => r.2.rest = []) (turns : Nat) :
    ∃ e, (do
      let (fields, c) ← line
      let (more, c) ← structFields sub turns c
      return (fields ++ more, c)) = .error e := by
  cases hr : line with
  | error e => exact ⟨e, rfl⟩
  | ok r =>
    obtain ⟨fields, c⟩ := r
    have hend : c.rest = [] := hline _ hr
    cases turns with
    | zero => exact ⟨_, rfl⟩
    | succ turns =>
      rw [ok_bind]
      dsimp only
      rw [structFields, skipBlanks_bind, skipBlanks_of_end hend, head?, hend]
      exact ⟨_, rfl⟩

end

section

variable {k : Nat} {w : List Char} {c d : Cursor} {allowance : Nat}
  (hsub : ReadsAlike k w (parseType allowance))
include hsub

theorem structFields_beside {turns turns' : Nat} (h : Beside k w c d)
    (hc : c.rest.length < turns) (hd : d.rest.length < turns') :
    SideBySide k w (Alongside k w) (structFields (parseType allowance) turns c)
      (structFields (parseType allowance) turns' d) := by
  have hgets := getsOn_parseType allowance
  induction turns generalizing c d turns' with
  | zero => exact absurd hc (Nat.not_lt_zero _)
  | succ turns ih =>
    obtain ⟨turns', rfl⟩ : ∃ n, turns' = n + 1 := Nat.exists_eq_add_one_of_ne_zero (by omega)
    have hblanks := h.skipBlanks
    have hle : c.skipBlanks.rest.length ≤ c.rest.length := length_skipWhile_le isBlank c
    have hle' : d.skipBlanks.rest.length ≤ d.rest.length := length_skipWhile_le isBlank d
    have hmore : ∀ line {c₁ d₁ : Cursor}, Beside k w c₁ d₁ → c₁.rest.length < turns →
        d₁.rest.length < turns' → SideBySide k w (Alongside k w)
          (structFields (parseType allowance) turns c₁ >>= fun r => .ok (line ++ r.1, r.2))
          (structFields (parseType allowance) turns' d₁ >>= fun r => .ok (line ++ r.1, r.2)) :=
      fun line _ _ h₁ hc₁ hd₁ =>
        .bind (ih h₁ hc₁ hd₁) fun _ _ hr => .ok ⟨congrArg (line ++ ·) hr.1, hr.2⟩
    rw [structFields, structFields, skipBlanks_bind, skipBlanks_bind, h.head?_skipBlanks]
    cases hx : c.skipBlanks.head? with
    | none => exact .fail hblanks _
    | some x =>
      refine .ite Iff.rfl (fun _ => .ok ⟨rfl, hblanks.next hx⟩) fun _ =>
        .ite Iff.rfl (fun _ => ?_) fun _ => .ite Iff.rfl (fun _ => ?_) fun _ => ?_
      · have hlt := length_next_skipBlanks_lt hx
        have hlt' := length_next_skipBlanks_lt (h.head?_skipBlanks.trans hx)
        exact ih (hblanks.next hx) (by omega) (by omega)
      · refine .bind_of (hsub _ _ hblanks) ?_
        rintro ⟨type, c₁⟩ ⟨_, d₁⟩ hc₁ hd₁ ⟨rfl, h₁⟩
        refine .bind_of (embeddedField_beside type h₁) ?_
        rintro ⟨field, c₂⟩ ⟨_, d₂⟩ hc₂ hd₂ ⟨rfl, h₂⟩
        have hlt := lt_of_le_of_lt (length_embeddedField_le _ _ _ hc₂) (hgets _ _ hc₁)
        have hlt' := lt_of_le_of_lt (length_embeddedField_le _ _ _ hd₂) (hgets _ _ hd₁)
        dsimp only at hlt hlt'
        exact hmore field h₂ (by omega) (by omega)
      · rcases fieldLine_beside hsub hgets hblanks with hline | ⟨hw, hend, e, he⟩
        · refine .bind_of hline ?_
          rintro ⟨line, c₁⟩ ⟨_, d₁⟩ hc₁ hd₁ ⟨rfl, h₁⟩
          have hlt := length_fieldLine_lt _ _ hc₁
          have hlt' := length_fieldLine_lt _ _ hd₁
          dsimp only at hlt hlt'
          exact hmore line h₁ (by omega) (by omega)
        · exact .of_errors hw (error_of_structFields hend turns) ⟨e, by rw [he]; rfl⟩

theorem structBody_beside (h : Beside k w c d) :
    SideBySide k w (Alongside k w) (structBody (parseType allowance) c)
      (structBody (parseType allowance) d) := by
  refine .bind (expect_beside '\x7b' h) fun c d h => ?_
  have hfields := structFields_beside hsub h (Nat.lt_succ_self _) (Nat.lt_succ_self _)
  exact .bind_alongside hfields fun _ _ _ h => .ok ⟨rfl, h⟩

theorem moreTypes_beside {turns turns' : Nat} (h : Beside k w c d)
    (hc : c.rest.length < turns) (hd : d.rest.length < turns') :
    SideBySide k w (Alongside k w) (moreTypes (parseType allowance) turns c)
      (moreTypes (parseType allowance) turns' d) := by
  have hgets := getsOn_parseType allowance
  induction turns generalizing c d turns' with
  | zero => exact absurd hc (Nat.not_lt_zero _)
  | succ turns ih =>
    obtain ⟨turns', rfl⟩ : ∃ n, turns' = n + 1 := Nat.exists_eq_add_one_of_ne_zero (by omega)
    refine .bind_of (hsub c d h) ?_
    rintro ⟨type, c₁⟩ ⟨_, d₁⟩ hc₁ hd₁ ⟨rfl, h₁⟩
    have hlt := hgets c _ hc₁
    have hlt' := hgets d _ hd₁
    dsimp only at hlt hlt' ⊢
    rw [skipBlanks_bind, skipBlanks_bind, h₁.head?_skipBlanks]
    refine .ite Iff.rfl (fun hx => .ok ⟨rfl, h₁.skipBlanks.next hx⟩) fun _ => ?_
    refine .bind_of (expect_beside ',' h₁.skipBlanks) fun c₂ d₂ hc₂ hd₂ h₂ => ?_
    have hle := length_expect_skipBlanks_le ',' c₁ c₂ hc₂
    have hle' := length_expect_skipBlanks_le ',' d₁ d₂ hd₂
    exact .bind_alongside (ih h₂ (by omega) (by omega)) fun _ _ _ h₃ => .ok ⟨rfl, h₃⟩

theorem typeList_beside (h : Beside k w c d) :
    SideBySide k w (Alongside k w) (typeList (parseType allowance) c)
      (typeList (parseType allowance) d) := by
  refine .bind (expect_beside '(' h) fun c d h => ?_
  rw [skipBlanks_bind, skipBlanks_bind, h.head?_skipBlanks]
  refine .ite Iff.rfl (fun hx => .ok ⟨rfl, h.skipBlanks.next hx⟩) fun _ => ?_
  exact moreTypes_beside hsub h.skipBlanks (Nat.lt_succ_self _) (Nat.lt_succ_self _)

theorem funcSignature_beside (h : Beside k w c d) :
    SideBySide k w (Alongside k w) (funcSignature (parseType allowance) c)
      (funcSignature (parseType allowance) d) := by
  refine .bind_alongside (typeList_beside hsub h) fun params c d h => ?_
  have hline := h.skipInlineBlanks
  simp only [skipInlineBlanks_bind]
  rcases hline.head?_eq with hhead | ⟨hend, -, x, hx, hblank⟩
  · rw [hhead]
    cases hx : c.skipInlineBlanks.head? with
    | none => exact .ok ⟨rfl, hline⟩
    | some x =>
      refine .ite Iff.rfl (fun _ => ?_) fun _ => .ite Iff.rfl (fun _ => ?_) fun _ =>
        .ok ⟨rfl, hline⟩
      · exact .bind_alongside (typeList_beside hsub hline) fun _ _ _ h => .ok ⟨rfl, h⟩
      · exact .bind_alongside (hsub _ _ hline) fun _ _ _ h => .ok ⟨rfl, h⟩
  · -- A blank begins no result, and neither does the end of the text.
    have hresult : startsBareResult x ≠ true := fun hstart => by
      rw [isBlank_of_startsBareResult hstart] at hblank
      cases hblank
    rw [head?, hend, hx]
    dsimp only
    rw [if_neg (ne_of_isBlank hblank (by decide)), if_neg hresult]
    exact .ok ⟨rfl, hline⟩

theorem mapType_beside (h : Beside k w c d) :
    SideBySide k w (Alongside k w) (mapType (parseType allowance) c)
      (mapType (parseType allowance) d) := by
  refine .bind (expect_beside '[' h) fun c d h => ?_
  refine .bind_alongside (hsub c d h) fun key c d h => ?_
  refine .bind (expect_beside ']' h) fun c d h => ?_
  exact .bind_alongside (hsub c d h) fun _ _ _ h => .ok ⟨rfl, h⟩

theorem arrayType_beside (h : Beside k w c d) :
    SideBySide k w (Alongside k w) (arrayType (parseType allowance) c)
      (arrayType (parseType allowance) d) := by
  refine .bind (.ok h.skipBlanks) fun c d h => ?_
  refine .bind (.ok (h.skipWhile Char.isDigit)) fun c d h => ?_
  refine .bind (expect_beside ']' h) fun c d h => ?_
  exact .bind_alongside (hsub c d h) fun _ _ _ h => .ok ⟨rfl, h⟩

theorem wordType_beside {start start' : Cursor} (hstart : Beside k w start start')
    (h : Beside k w c d) (word : List Char) :
    SideBySide k w (Alongside k w) (wordType (parseType allowance) start word c)
      (wordType (parseType allowance) start' word d) := by
  rw [wordType_eq, wordType_eq]
  refine .ite Iff.rfl (fun _ => mapType_beside hsub h) fun _ =>
    .ite Iff.rfl (fun _ => structBody_beside hsub h) fun _ =>
    .ite Iff.rfl (fun _ => interfaceBody_beside h) fun _ =>
    .ite Iff.rfl (fun _ => funcSignature_beside hsub h) fun _ =>
    .ite Iff.rfl (fun _ => ?_) fun _ => ?_
  · exact .bind_alongside (hsub _ _ h) fun _ _ _ h => .ok ⟨rfl, h⟩
  · exact .bind (identOfWord_beside hstart word) fun type _ htype => .ok ⟨htype, h⟩

theorem nestedType_beside : ReadsAlike k w (nestedType (parseType allowance)) := by
  intro c d h
  have hstart := h.skipBlanks
  simp only [nestedType, skipBlanks_bind, h.head?_skipBlanks]
  cases hx : c.skipBlanks.head? with
  | none => exact .fail hstart _
  | some x =>
    refine .ite Iff.rfl (fun _ => ?_) fun _ =>
      .ite Iff.rfl (fun _ => arrayType_beside hsub (hstart.next hx)) fun _ =>
      .ite Iff.rfl (fun _ => ?_) fun _ => .fail hstart _
    · refine .bind (.ok (hstart.next hx)) fun c d h => ?_
      exact .bind_alongside (hsub c d h) fun _ _ _ h => .ok ⟨rfl, h⟩
    · have hsame : d.skipBlanks.taken isWordChar = c.skipBlanks.taken isWordChar :=
        hstart.taken_eq fun _ _ => isWordChar_of_isBlank
      rw [skipWhile_bind, skipWhile_bind, hsame]
      exact wordType_beside hsub hstart (hstart.skipWhile isWordChar) _

end

theorem parseType_beside (k : Nat) (w : List Char) (allowance : Nat) :
    ReadsAlike k w (parseType allowance) := by
  induction allowance with
  | zero => exact fun c d h => .fail h _
  | succ allowance ih => exact nestedType_beside ih

theorem nestedType_congr {c d : Cursor} (h : c.skipBlanks = d.skipBlanks) (sub : Reader Attempt) :
    nestedType sub c = nestedType sub d := by
  rw [nestedType, nestedType, skipBlanks_bind, skipBlanks_bind, h]

theorem parseChars_beside {u w : List Char} (hu : Blanks u) (hw : Blanks w) (src : List Char) :
    SideBySide (utf8Length u) w Eq (parseChars src) (parseChars (u ++ (src ++ w))) := by
  have hskip : (start (u ++ (src ++ w))).skipBlanks =
      (⟨utf8Length u, src ++ w⟩ : Cursor).skipBlanks := by
    simp only [start, Cursor.skipBlanks, Cursor.skipWhile, List.takeWhile_append_of_pos hu,
      List.dropWhile_append_of_pos hu, utf8Length_append, Nat.zero_add]
  have hstart : (parseType maxNesting (start (u ++ (src ++ w))) : Attempt _) =
      parseType maxNesting ⟨utf8Length u, src ++ w⟩ := nestedType_congr hskip _
  have h : Beside (utf8Length u) w (start src) ⟨utf8Length u, src ++ w⟩ := .within rfl rfl hw
  unfold parseChars
  rw [hstart]
  refine .bind_alongside (parseType_beside _ w maxNesting _ _ h) fun type c d h => ?_
  simp only [skipBlanks_bind]
  exact .ite (isEmpty_iff_of_head? h.head?_skipBlanks) (fun _ => .ok rfl) fun _ =>
    .fail h.skipBlanks _

/-- Blanks before a text move its fault by as many bytes as they have. Blanks behind it make no
difference to the type that is read, nor to whether one is. -/
theorem parse_between_blanks (src w : String) (hw : ∀ x ∈ w.toList, isBlank x = true) :
    parse (w ++ src) =
        (parse src).mapError (fun e => ⟨w.utf8ByteSize + e.offset, e.fault⟩) ∧
      ∀ t, parse (src ++ w) = .ok t ↔ parse src = .ok t := by
  have hsize : w.utf8ByteSize = utf8Length w.toList := by
    rw [← utf8ByteSize_ofList, String.ofList_toList]
  have hbefore := parseChars_beside hw blanks_nil src.toList
  have hbehind := parseChars_beside blanks_nil hw src.toList
  rw [List.append_nil, ← String.toList_append, ← hsize] at hbefore
  rw [List.nil_append, ← String.toList_append] at hbehind
  exact ⟨hbefore.eq_mapError, hbehind.ok_iff⟩

/-- The first blank does not break the line, and the second one ends it. -/
theorem parse_between_blanks_of_both_kinds :
    (∀ x ∈ "\u00a0\n".toList, isBlank x = true) ∧
      parse ("\u00a0\n" ++ "struct\x7bA") = .error ⟨11, .unterminatedStruct⟩ ∧
      parse ("func(int)" ++ "\u00a0\n") = .ok (.func [.ident "" "int"] []) := by
  have hw : Blanks "\u00a0\n".toList := by decide +kernel
  have hopen : parse "struct\x7bA" = .error ⟨8, .unterminatedStruct⟩ := by decide +kernel
  have hfunc : parse "func(int)" = .ok (.func [.ident "" "int"] []) := by decide +kernel
  refine ⟨hw, ?_, ((parse_between_blanks "func(int)" _ hw).2 _).mpr hfunc⟩
  rw [(parse_between_blanks "struct\x7bA" _ hw).1, hopen]
  rfl

/-- Behind a struct that is left open, a blank that does not end the line makes another fault. -/
example : parse "struct\x7bA" = .error ⟨8, .unterminatedStruct⟩ ∧
    parse "struct\x7bA\u00a0" = .error ⟨10, .expectedType⟩ := by
  decide +kernel

end TypeSchema.TypeExpr
