import TypeSchema.Proofs.Words

namespace TypeSchema

open Text Scanner

namespace Cursor

/-- The next token of `c` is the next one of `cs`. -/
def StandsAt (c : Cursor) (cs : List Char) : Prop :=
  c.rest.dropWhile isInlineBlank = cs.dropWhile isInlineBlank

theorem standsAt_of_rest {c : Cursor} {cs : List Char} (h : c.rest = cs) : c.StandsAt cs := by
  rw [StandsAt, h]

theorem StandsAt.rest_skipBlanks {c : Cursor} {cs : List Char} (h : c.StandsAt cs) :
    c.skipBlanks.rest = cs.dropWhile isBlank := by
  have hc := dropWhile_dropWhile_of_imp (fun x => isBlank_of_isInlineBlank (c := x)) c.rest
  rw [h, dropWhile_dropWhile_of_imp fun x => isBlank_of_isInlineBlank] at hc
  exact hc.symm

theorem StandsAt.rest_skipBlanks_of_stops {c : Cursor} {b cs : List Char}
    (h : c.StandsAt (b ++ cs)) (hb : Blanks b) (hcs : Stops isBlank cs) :
    c.skipBlanks.rest = cs := by
  rw [h.rest_skipBlanks, dropWhile_append_of_stops hb hcs]

theorem StandsAt.skipInlineBlanks {c : Cursor} {cs : List Char} (h : c.StandsAt cs) :
    c.skipInlineBlanks.StandsAt cs := by
  have hc := dropWhile_dropWhile_of_imp (fun x (hx : isInlineBlank x = true) => hx) c.rest
  exact hc.trans h

theorem StandsAt.rest_skipInlineBlanks_of_stops {c : Cursor} {b cs : List Char}
    (h : c.StandsAt (b ++ cs)) (hb : InlineBlanks b) (hcs : Stops isInlineBlank cs) :
    c.skipInlineBlanks.rest = cs :=
  h.trans (dropWhile_append_of_stops hb hcs)

theorem rest_next {c : Cursor} {x : Char} {cs : List Char} (h : c.rest = x :: cs) :
    c.next.rest = cs := by
  rw [next, h]

theorem head?_of_rest {c : Cursor} {x : Char} {cs : List Char} (h : c.rest = x :: cs) :
    c.head? = some x := by
  rw [head?, h]
  rfl

theorem StandsAt.expect {c : Cursor} {b cs : List Char} {x : Char} (h : c.StandsAt (b ++ x :: cs))
    (hb : Blanks b) (hx : isBlank x = false) :
    ∃ c', (expect x c : Attempt Cursor) = .ok c' ∧ c'.rest = cs := by
  have hrest := h.rest_skipBlanks_of_stops hb (stops_cons hx)
  refine ⟨c.skipBlanks.next, ?_, rest_next hrest⟩
  rw [Scanner.expect, skipBlanks_bind, if_pos (head?_of_rest hrest)]
  rfl

end Cursor

namespace TypeExpr

/-- From the text `cs` on, `read` returns `a` and stops at `rest`. -/
def Yields {α : Type} (read : Cursor → Attempt (α × Cursor)) (cs rest : List Char) (a : α) :
    Prop :=
  ∀ c : Cursor, c.StandsAt cs → ∃ c', read c = .ok (a, c') ∧ c'.StandsAt rest

theorem ok_bind {α β : Type} (a : α) (f : α → Attempt β) : (Except.ok a >>= f : Attempt β) = f a :=
  rfl

theorem head?_of_isTypeWord {w : List Char} (h : isTypeWord w = true) :
    ∃ x xs, w = x :: xs ∧ isIdentifierStart x = true := by
  cases w with
  | nil => exact absurd h (by decide)
  | cons x xs =>
    rw [isTypeWord, Bool.and_eq_true] at h
    exact ⟨x, xs, rfl, h.1⟩

theorem all_of_isTypeWord {w : List Char} (h : isTypeWord w = true) :
    ∀ c ∈ w, isWordChar c = true := by
  rw [isTypeWord, Bool.and_eq_true] at h
  exact List.all_eq_true.1 h.2

theorem ne_of_isIdentifierStart {x y : Char} (h : isIdentifierStart x = true)
    (hy : isIdentifierStart y = false) : x ≠ y := by
  rintro rfl
  rw [hy] at h
  exact absurd h (by decide)

theorem isBlank_of_isIdentifierStart {x : Char} (h : isIdentifierStart x = true) :
    isBlank x = false :=
  isBlank_of_isWordChar (isWordChar_of_identifierChar (isIdentifierChar_of_start h))

section

variable {sub : Reader Attempt} {b cs rest : List Char} {t : TypeExpr}

theorem yields_nestedType_word {w : List Char} (hb : Blanks b) (hw : isTypeWord w = true)
    (hcs : Stops isWordChar cs) (h : ∀ start, Yields (wordType sub start w) cs rest t) :
    Yields (nestedType sub) (b ++ (w ++ cs)) rest t := by
  obtain ⟨x, xs, rfl, hx⟩ := head?_of_isTypeWord hw
  intro c hc
  have hrest := hc.rest_skipBlanks_of_stops hb (stops_cons (isBlank_of_isIdentifierStart hx))
  have htaken : c.skipBlanks.taken isWordChar = x :: xs := by
    rw [Cursor.taken, hrest]
    exact takeWhile_append_of_stops (all_of_isTypeWord hw) hcs
  have hleft : (c.skipBlanks.skipWhile isWordChar).rest = cs := by
    rw [Cursor.skipWhile, hrest]
    exact dropWhile_append_of_stops (all_of_isTypeWord hw) hcs
  obtain ⟨c', hc', hcr⟩ := h c.skipBlanks _ (Cursor.standsAt_of_rest hleft)
  refine ⟨c', ?_, hcr⟩
  rw [nestedType, skipBlanks_bind, Cursor.head?_of_rest hrest]
  simp only [ne_of_isIdentifierStart hx (by decide : isIdentifierStart '*' = false),
    ne_of_isIdentifierStart hx (by decide : isIdentifierStart '[' = false), hx, if_true, if_false]
  rw [skipWhile_bind, htaken, hc']

theorem yields_nestedType_pointer (hb : Blanks b) (h : Yields sub cs rest t) :
    Yields (nestedType sub) (b ++ '*' :: cs) rest (.pointer t) := by
  intro c hc
  have hrest := hc.rest_skipBlanks_of_stops hb (stops_cons (by decide))
  obtain ⟨c', hc', hcr⟩ := h c.skipBlanks.next (Cursor.standsAt_of_rest (Cursor.rest_next hrest))
  refine ⟨c', ?_, hcr⟩
  rw [nestedType, skipBlanks_bind, Cursor.head?_of_rest hrest]
  simp only [if_true, next_bind, hc', ok_bind]
  rfl

theorem yields_nestedType_array (hb : Blanks b) (h : Yields (arrayType sub) cs rest t) :
    Yields (nestedType sub) (b ++ '[' :: cs) rest t := by
  intro c hc
  have hrest := hc.rest_skipBlanks_of_stops hb (stops_cons (by decide))
  obtain ⟨c', hc', hcr⟩ := h c.skipBlanks.next (Cursor.standsAt_of_rest (Cursor.rest_next hrest))
  refine ⟨c', ?_, hcr⟩
  rw [nestedType, skipBlanks_bind, Cursor.head?_of_rest hrest]
  simp only [show ¬('[' = '*') by decide, if_true, if_false, next_bind, hc']

theorem stops_isDigit_blanks_append (hb : Blanks b) (hcs : Stops Char.isDigit cs) :
    Stops Char.isDigit (b ++ cs) := by
  refine stops_blanks_append (fun c hc => ?_) hb hcs
  rw [Bool.eq_false_iff]
  intro hd
  have := isNumeric_of_isDigit hd
  rw [isNumeric_of_isBlank hc] at this
  exact absurd this (by decide)

theorem yields_arrayType {digits b' : List Char} (hb : Blanks b) (hd : Digits digits)
    (hb' : Blanks b') (h : Yields sub cs rest t) :
    Yields (arrayType sub) (b ++ (digits ++ (b' ++ ']' :: cs))) rest (.array t) := by
  intro c hc
  have hstops : Stops Char.isDigit (b' ++ ']' :: cs) :=
    stops_isDigit_blanks_append hb' (stops_cons (by decide))
  -- Without digits, the blanks on both sides of them are passed over at once.
  have hbracket : ∃ b'', Blanks b'' ∧
      (c.skipBlanks.skipWhile Char.isDigit).rest = b'' ++ ']' :: cs := by
    cases digits with
    | nil =>
      refine ⟨[], blanks_nil, ?_⟩
      have hrest : c.skipBlanks.rest = ']' :: cs := by
        rw [hc.rest_skipBlanks, List.dropWhile_append_of_pos hb, List.nil_append,
          dropWhile_append_of_stops hb' (stops_cons (by decide))]
      rw [Cursor.skipWhile, hrest]
      exact dropWhile_of_stops (stops_cons (by decide))
    | cons d digits =>
      refine ⟨b', hb', ?_⟩
      have hblank : isBlank d = false := by
        apply isBlank_of_isWordChar
        simp [isWordChar, isAlphanumeric, isNumeric_of_isDigit (hd d List.mem_cons_self)]
      rw [Cursor.skipWhile, hc.rest_skipBlanks_of_stops hb (stops_cons hblank)]
      exact dropWhile_append_of_stops hd hstops
  obtain ⟨b'', hb'', hrest⟩ := hbracket
  obtain ⟨c₁, h₁, hc₁⟩ := (Cursor.standsAt_of_rest hrest).expect hb'' (by decide)
  obtain ⟨c₂, h₂, hc₂⟩ := h c₁ (Cursor.standsAt_of_rest hc₁)
  refine ⟨c₂, ?_, hc₂⟩
  simp only [arrayType, skipBlanks_bind, skipWhile_bind, h₁, h₂, ok_bind]
  rfl

theorem yields_mapType {b' vs : List Char} {k v : TypeExpr} (hb : Blanks b)
    (hk : Yields sub cs (b' ++ ']' :: vs) k) (hb' : Blanks b') (hv : Yields sub vs rest v) :
    Yields (mapType sub) (b ++ '[' :: cs) rest (.map k v) := by
  intro c hc
  obtain ⟨c₁, h₁, hc₁⟩ := hc.expect hb (by decide)
  obtain ⟨c₂, h₂, hc₂⟩ := hk c₁ (Cursor.standsAt_of_rest hc₁)
  obtain ⟨c₃, h₃, hc₃⟩ := hc₂.expect hb' (by decide)
  obtain ⟨c₄, h₄, hc₄⟩ := hv c₃ (Cursor.standsAt_of_rest hc₃)
  refine ⟨c₄, ?_, hc₄⟩
  simp only [mapType, h₁, h₂, h₃, h₄, ok_bind]
  rfl

theorem yields_wordType_chan (h : Yields sub cs rest t) (start : Cursor) :
    Yields (wordType sub start "chan".toList) cs rest (.chan t) := by
  intro c hc
  obtain ⟨c₁, h₁, hc₁⟩ := h c hc
  refine ⟨c₁, ?_, hc₁⟩
  rw [wordType, String.ofList_toList]
  simp only [h₁, ok_bind]
  rfl

theorem closeBraces_open (depth offset : Nat) (cs : List Char) :
    (closeBraces depth offset ('{' :: cs) : Attempt Cursor) =
      closeBraces (depth + 1) (offset + 1) cs := by
  rw [closeBraces, next_bind]
  exact if_pos rfl

theorem closeBraces_close (depth offset : Nat) (cs : List Char) :
    (closeBraces (depth + 1) offset ('}' :: cs) : Attempt Cursor) =
      closeBraces depth (offset + 1) cs := by
  rw [closeBraces, next_bind]
  exact (if_neg (by decide)).trans (if_pos rfl)

theorem closeBraces_last (offset : Nat) (cs : List Char) :
    (closeBraces 0 offset ('}' :: cs) : Attempt Cursor) = .ok ⟨offset + 1, cs⟩ := by
  rw [closeBraces, next_bind]
  exact (if_neg (by decide)).trans (if_pos rfl)

theorem closeBraces_other {x : Char} (hopen : x ≠ '{') (hclose : x ≠ '}') (depth offset : Nat)
    (cs : List Char) :
    (closeBraces depth offset (x :: cs) : Attempt Cursor) =
      closeBraces depth (offset + x.utf8Size) cs := by
  rw [closeBraces, next_bind]
  exact (if_neg hopen).trans (if_neg hclose)

/-- A text with balanced braces changes nothing but the place. -/
theorem closeBraces_append {body : List Char} (h : Balanced body) (depth offset : Nat)
    (cs : List Char) :
    ∃ offset', (closeBraces depth offset (body ++ cs) : Attempt Cursor) =
      closeBraces depth offset' cs := by
  induction h generalizing depth offset cs with
  | nil => exact ⟨offset, rfl⟩
  | @char c body hopen hclose _ ih =>
    obtain ⟨offset', h'⟩ := ih depth (offset + c.utf8Size) cs
    refine ⟨offset', ?_⟩
    rw [List.cons_append, closeBraces_other hopen hclose, h']
  | @braces inner body _ _ ihinner ih =>
    obtain ⟨o₁, h₁⟩ := ihinner (depth + 1) (offset + 1) ('}' :: (body ++ cs))
    obtain ⟨o₂, h₂⟩ := ih depth (o₁ + 1) cs
    refine ⟨o₂, ?_⟩
    rw [List.append_assoc, List.cons_append, List.cons_append, closeBraces_open, h₁,
      closeBraces_close, h₂]

theorem yields_interfaceBody {body : List Char} (hb : Blanks b) (hbody : Balanced body) :
    Yields interfaceBody (b ++ '{' :: (body ++ '}' :: rest)) rest .interface := by
  intro c hc
  obtain ⟨c₁, h₁, hc₁⟩ := hc.expect hb (by decide)
  obtain ⟨offset, h₂⟩ := closeBraces_append hbody 0 c₁.offset ('}' :: rest)
  have h₃ : (closeBraces 0 c₁.offset c₁.rest : Attempt Cursor) = .ok ⟨offset + 1, rest⟩ := by
    rw [hc₁, h₂, closeBraces_last]
  refine ⟨⟨offset + 1, rest⟩, ?_, Cursor.standsAt_of_rest rfl⟩
  simp only [interfaceBody, h₁, h₃, ok_bind]
  rfl

theorem yields_typeList_nil {b' : List Char} (hb : Blanks b) (hb' : Blanks b') :
    Yields (typeList sub) (b ++ '(' :: (b' ++ ')' :: rest)) rest [] := by
  intro c hc
  obtain ⟨c₁, h₁, hc₁⟩ := hc.expect hb (by decide)
  have hrest : c₁.skipBlanks.rest = ')' :: rest :=
    (Cursor.standsAt_of_rest hc₁).rest_skipBlanks_of_stops hb' (stops_cons (by decide))
  refine ⟨c₁.skipBlanks.next, ?_, Cursor.standsAt_of_rest (Cursor.rest_next hrest)⟩
  simp only [typeList, h₁, ok_bind, skipBlanks_bind, Cursor.head?_of_rest hrest, if_true]
  rfl

theorem yields_moreTypes_last (h : Yields sub cs (b ++ ')' :: rest) t) (hb : Blanks b)
    (turns : Nat) : Yields (moreTypes sub (turns + 1)) cs rest [t] := by
  intro c hc
  obtain ⟨c₁, h₁, hc₁⟩ := h c hc
  have hrest := hc₁.rest_skipBlanks_of_stops hb (stops_cons (by decide))
  refine ⟨c₁.skipBlanks.next, ?_, Cursor.standsAt_of_rest (Cursor.rest_next hrest)⟩
  simp only [moreTypes, h₁, ok_bind, skipBlanks_bind, Cursor.head?_of_rest hrest, if_true]
  rfl

theorem yields_moreTypes_cons {ds : List Char} {types : List TypeExpr} {turns : Nat}
    (h : Yields sub cs (b ++ ',' :: ds) t) (hb : Blanks b)
    (hmore : Yields (moreTypes sub turns) ds rest types) :
    Yields (moreTypes sub (turns + 1)) cs rest (t :: types) := by
  intro c hc
  obtain ⟨c₁, h₁, hc₁⟩ := h c hc
  have hrest := hc₁.rest_skipBlanks_of_stops hb (stops_cons (by decide))
  obtain ⟨c₂, h₂, hc₂⟩ := (Cursor.standsAt_of_rest hrest).expect blanks_nil (by decide)
  obtain ⟨c₃, h₃, hc₃⟩ := hmore c₂ (Cursor.standsAt_of_rest hc₂)
  refine ⟨c₃, ?_, hc₃⟩
  have hcomma : ¬(some ',' = some ')') := by decide
  simp only [moreTypes, h₁, h₂, h₃, ok_bind, skipBlanks_bind, Cursor.head?_of_rest hrest,
    if_neg hcomma]
  rfl

theorem ne_of_startsBareResult {x y : Char} (h : startsBareResult x = true)
    (hy : startsBareResult y = false) : x ≠ y := by
  rintro rfl
  rw [hy] at h
  exact absurd h (by decide)

theorem isBlank_of_startsBareResult {x : Char} (h : startsBareResult x = true) :
    isBlank x = false := by
  rw [startsBareResult, Bool.or_eq_true, Bool.or_eq_true, decide_eq_true_eq,
    decide_eq_true_eq] at h
  rcases h with (rfl | rfl) | h
  · decide
  · decide
  · exact isBlank_of_isIdentifierStart h

theorem isInlineBlank_of_startsBareResult {x : Char} (h : startsBareResult x = true) :
    isInlineBlank x = false :=
  isInlineBlank_of_isBlank (isBlank_of_startsBareResult h)

/-- The text `cs` goes on with a type. -/
def StartsType (cs : List Char) : Prop := ∃ x xs, cs = x :: xs ∧ startsBareResult x = true

theorem StartsType.append (h : StartsType cs) (rest : List Char) : StartsType (cs ++ rest) := by
  obtain ⟨x, xs, rfl, hx⟩ := h
  exact ⟨x, xs ++ rest, rfl, hx⟩

theorem yields_typeList {b' : List Char} {types : List TypeExpr} (hb : Blanks b)
    (hb' : Blanks b') (hcs : StartsType cs)
    (h : Yields (moreTypes sub (cs.length + 1)) cs rest types) :
    Yields (typeList sub) (b ++ '(' :: (b' ++ cs)) rest types := by
  obtain ⟨x, xs, rfl, hx⟩ := hcs
  intro c hc
  obtain ⟨c₁, h₁, hc₁⟩ := hc.expect hb (by decide)
  have hrest : c₁.skipBlanks.rest = x :: xs :=
    (Cursor.standsAt_of_rest hc₁).rest_skipBlanks_of_stops hb'
      (stops_cons (isBlank_of_startsBareResult hx))
  obtain ⟨c₂, h₂, hc₂⟩ := h c₁.skipBlanks (Cursor.standsAt_of_rest hrest)
  refine ⟨c₂, ?_, hc₂⟩
  have hclose : ¬(some x = some ')') := by
    intro heq
    exact ne_of_startsBareResult hx (by decide) (Option.some.inj heq)
  simp only [typeList, h₁, ok_bind, skipBlanks_bind, Cursor.head?_of_rest hrest, if_neg hclose,
    hrest, h₂]

theorem yields_funcSignature {params : List TypeExpr} (h : Yields (typeList sub) cs rest params)
    (hrest : Stops startsResult (rest.dropWhile isInlineBlank)) :
    Yields (funcSignature sub) cs rest (.func params []) := by
  intro c hc
  obtain ⟨c₁, h₁, hc₁⟩ := h c hc
  -- The inline blanks behind the parameters are read even where no result follows.
  have hleft : c₁.skipInlineBlanks.rest = rest.dropWhile isInlineBlank := hc₁
  refine ⟨c₁.skipInlineBlanks, ?_, hc₁.skipInlineBlanks⟩
  simp only [funcSignature, h₁, ok_bind, skipInlineBlanks_bind]
  split
  · rfl
  · next x hx =>
    have hstop : startsResult x = false := by
      apply hrest
      rw [← hleft]
      exact hx
    rw [startsResult, Bool.or_eq_false_iff, decide_eq_false_iff_not] at hstop
    rw [if_neg hstop.1, if_neg (by rw [hstop.2]; decide)]
    rfl

theorem yields_funcSignature_result {params : List TypeExpr} {i rs : List Char}
    (h : Yields (typeList sub) cs (i ++ rs) params) (hi : InlineBlanks i) (hrs : StartsType rs)
    (hresult : Yields sub rs rest t) :
    Yields (funcSignature sub) cs rest (.func params [t]) := by
  obtain ⟨x, xs, rfl, hx⟩ := hrs
  intro c hc
  obtain ⟨c₁, h₁, hc₁⟩ := h c hc
  have hleft : c₁.skipInlineBlanks.rest = x :: xs :=
    hc₁.rest_skipInlineBlanks_of_stops hi (stops_cons (isInlineBlank_of_startsBareResult hx))
  obtain ⟨c₂, h₂, hc₂⟩ := hresult c₁.skipInlineBlanks (Cursor.standsAt_of_rest hleft)
  refine ⟨c₂, ?_, hc₂⟩
  simp only [funcSignature, h₁, ok_bind, skipInlineBlanks_bind, Cursor.head?_of_rest hleft]
  rw [if_neg (ne_of_startsBareResult hx (by decide)), if_pos hx, h₂]
  rfl

theorem yields_funcSignature_results {params results : List TypeExpr} {i rs : List Char}
    (h : Yields (typeList sub) cs (i ++ rs) params) (hi : InlineBlanks i)
    (hrs : ∃ xs, rs = '(' :: xs) (hresults : Yields (typeList sub) rs rest results) :
    Yields (funcSignature sub) cs rest (.func params results) := by
  obtain ⟨xs, rfl⟩ := hrs
  intro c hc
  obtain ⟨c₁, h₁, hc₁⟩ := h c hc
  have hleft : c₁.skipInlineBlanks.rest = '(' :: xs :=
    hc₁.rest_skipInlineBlanks_of_stops hi (stops_cons (by decide))
  obtain ⟨c₂, h₂, hc₂⟩ := hresults c₁.skipInlineBlanks (Cursor.standsAt_of_rest hleft)
  refine ⟨c₂, ?_, hc₂⟩
  simp only [funcSignature, h₁, ok_bind, skipInlineBlanks_bind, Cursor.head?_of_rest hleft,
    if_true, h₂]
  rfl

end

end TypeExpr

end TypeSchema
