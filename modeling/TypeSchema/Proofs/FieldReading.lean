import TypeSchema.Proofs.Reading

namespace TypeSchema.TypeExpr

open Text Scanner

section

variable {sub : Reader Attempt} {b cs gs rest : List Char} {t : TypeExpr} {tag : Option String}
  {fields : List (Field TypeExpr)}

/-- The text `cs` does not go on with a tag. -/
def Untagged (cs : List Char) : Prop := Stops (· = '\x60') (cs.dropWhile isInlineBlank)

theorem yields_fieldTag_none (h : Untagged cs) : Yields fieldTag cs cs none := by
  intro c hc
  have hhead : c.skipInlineBlanks.head? ≠ some '\x60' := by
    have hrest : c.skipInlineBlanks.rest = cs.dropWhile isInlineBlank := hc
    rw [Cursor.head?, hrest]
    intro hquote
    exact absurd (h _ hquote) (by decide)
  refine ⟨c.skipInlineBlanks, ?_, hc.skipInlineBlanks⟩
  rw [fieldTag, skipInlineBlanks_bind, if_neg hhead]
  rfl

theorem yields_fieldTag_some {i : List Char} {tag : String} (hi : InlineBlanks i)
    (htag : '\x60' ∉ tag.toList) :
    Yields fieldTag (i ++ '\x60' :: (tag.toList ++ '\x60' :: cs)) cs (some tag) := by
  intro c hc
  have hrest := hc.rest_skipInlineBlanks_of_stops hi (stops_cons (by decide))
  have hnext := Cursor.rest_next hrest
  have hin : ∀ x ∈ tag.toList, decide (x ≠ '\x60') = true := by
    intro x hx
    rw [decide_eq_true_eq]
    rintro rfl
    exact htag hx
  have hstops : Stops (fun x => decide (x ≠ '\x60')) ('\x60' :: cs) := stops_cons (by decide)
  have htaken : c.skipInlineBlanks.next.taken (· ≠ '\x60') = tag.toList := by
    rw [Cursor.taken, hnext]
    exact takeWhile_append_of_stops hin hstops
  have hleft : (c.skipInlineBlanks.next.skipWhile (· ≠ '\x60')).rest = '\x60' :: cs := by
    rw [Cursor.skipWhile, hnext]
    exact dropWhile_append_of_stops hin hstops
  refine ⟨(c.skipInlineBlanks.next.skipWhile (· ≠ '\x60')).next, ?_,
    Cursor.standsAt_of_rest (Cursor.rest_next hleft)⟩
  rw [fieldTag, skipInlineBlanks_bind, if_pos (Cursor.head?_of_rest hrest)]
  simp only [next_bind, skipWhile_bind, htaken, hleft, List.isEmpty_cons, String.ofList_toList,
    if_false, Bool.false_eq_true]
  rfl

theorem yields_fieldTag (h : SpellsTag tag gs)
    (hq : tag.all isTagText = true)
    (hcs : tag = none → Untagged cs) : Yields fieldTag (gs ++ cs) cs tag := by
  cases h with
  | none => exact yields_fieldTag_none (hcs rfl)
  | some tag hi =>
    have htag : '\x60' ∉ tag.toList := by
      simpa [isTagText] using hq
    rw [List.append_assoc, List.append_assoc]
    exact yields_fieldTag_some hi htag

theorem yields_embeddedField (h : Yields fieldTag gs rest tag) :
    Yields (embeddedField t) gs rest [⟨"", t, tag⟩] := by
  intro c hc
  obtain ⟨c₁, h₁, hc₁⟩ := h c hc
  refine ⟨c₁, ?_, hc₁⟩
  simp only [embeddedField, h₁, ok_bind]
  rfl

/-- What stands behind an embedded name. -/
def EndsName (cs : List Char) : Prop :=
  ∃ x ∈ ['\n', ';', '}', '\x60'], (cs.dropWhile isInlineBlank).head? = some x

theorem stops_isWordChar_of_dropWhile {x : Char} (hx : isWordChar x = false)
    (h : (cs.dropWhile isInlineBlank).head? = some x) : Stops isWordChar cs := by
  intro c hc
  by_cases hinline : isInlineBlank c = true
  · exact isWordChar_of_isBlank (isBlank_of_isInlineBlank hinline)
  · cases cs with
    | nil => cases hc
    | cons d cs =>
      cases hc
      rw [List.dropWhile_cons_of_neg hinline] at h
      cases h
      exact hx

theorem EndsName.stops (h : EndsName cs) : Stops isWordChar cs := by
  obtain ⟨x, hmem, hx⟩ := h
  have hend : isWordChar x = false := by
    simp only [List.mem_cons, List.not_mem_nil, or_false] at hmem
    rcases hmem with rfl | rfl | rfl | rfl <;> decide
  exact stops_isWordChar_of_dropWhile hend hx

theorem EndsName.endsEmbedded (h : EndsName cs) {c : Cursor} (hc : c.rest = cs) :
    endsEmbedded c.skipInlineBlanks = true := by
  obtain ⟨x, hmem, hx⟩ := h
  have hhead : c.skipInlineBlanks.head? = some x := by
    rw [← hx, ← hc]
    rfl
  rw [TypeExpr.endsEmbedded, hhead]
  simp only [List.mem_cons, List.not_mem_nil, or_false] at hmem
  rcases hmem with rfl | rfl | rfl | rfl <;> rfl

theorem fieldLine_embedded {path name : String} (hn : isIdentifier name.toList = true)
    (hp : path.isEmpty = false → isPathText path = true) (hends : EndsName (gs ++ cs))
    (htag : Yields fieldTag (gs ++ cs) cs tag) {c : Cursor}
    (hc : c.rest = wordChars path name ++ (gs ++ cs)) :
    ∃ c', fieldLine sub c = .ok ([⟨"", .ident path name, tag⟩], c') ∧ c'.StandsAt cs := by
  have hword := isTypeWord_wordChars hn hp
  have htaken : c.taken isWordChar = wordChars path name := by
    rw [Cursor.taken, hc]
    exact takeWhile_append_of_stops (all_of_isTypeWord hword) hends.stops
  have hleft : (c.skipWhile isWordChar).rest = gs ++ cs := by
    rw [Cursor.skipWhile, hc]
    exact dropWhile_append_of_stops (all_of_isTypeWord hword) hends.stops
  have hnonempty : (wordChars path name).isEmpty = false := by
    obtain ⟨x, xs, heq, -⟩ := head?_of_isTypeWord hword
    rw [heq]
    rfl
  have hstands := (Cursor.standsAt_of_rest hleft).skipInlineBlanks
  obtain ⟨c₁, h₁, hc₁⟩ := yields_embeddedField (t := .ident path name) htag _ hstands
  refine ⟨c₁, ?_, hc₁⟩
  simp only [fieldLine, skipWhile_bind, skipInlineBlanks_bind, htaken, hnonempty,
    hends.endsEmbedded hleft, identOfWord_wordChars hn, if_true, if_false, Bool.false_eq_true,
    ok_bind, h₁]

section

variable {names : List String} {ns i ts : List Char}

theorem SpellsNames.length_le (h : SpellsNames names ns) : names.length ≤ ns.length := by
  induction h with
  | nil => exact Nat.le_refl 0
  | cons _ _ _ ih =>
    simp only [List.length_append, List.length_cons]
    omega

/-- Behind a name stands a comma or, after the last one, the type. -/
theorem SpellsNames.head?_dropWhile (h : SpellsNames names ns) (hi : InlineBlanks i)
    (hts : StartsType ts) :
    ∃ y, ((ns ++ (i ++ ts)).dropWhile isInlineBlank).head? = some y ∧
      (y = ',' ∨ startsBareResult y = true) := by
  cases h with
  | nil =>
    obtain ⟨x, xs, rfl, hx⟩ := hts
    refine ⟨x, ?_, .inr hx⟩
    rw [List.nil_append,
      dropWhile_append_of_stops hi (stops_cons (isInlineBlank_of_startsBareResult hx))]
    rfl
  | cons hb₁ hb₂ hmore =>
    refine ⟨',', ?_, .inl rfl⟩
    simp only [List.append_assoc, List.cons_append]
    rw [dropWhile_append_of_stops hb₁ (stops_cons (by decide))]
    rfl

theorem SpellsNames.stops (h : SpellsNames names ns) (hw : Stops isWordChar (i ++ ts)) :
    Stops isWordChar (ns ++ (i ++ ts)) := by
  cases h with
  | nil => exact hw
  | cons hb₁ hb₂ hmore =>
    simp only [List.append_assoc, List.cons_append]
    exact stops_blanks_append (fun c => isWordChar_of_isBlank) hb₁.blanks (stops_cons (by decide))

theorem yields_moreNames_nil (turns : Nat) (hi : InlineBlanks i) (hts : StartsType ts) :
    Yields (moreNames turns) (i ++ ts) ts [] := by
  obtain ⟨x, xs, rfl, hx⟩ := hts
  intro c hc
  have hblank := isBlank_of_startsBareResult hx
  have hinline := isInlineBlank_of_startsBareResult hx
  cases turns with
  | zero =>
    refine ⟨c, rfl, ?_⟩
    rw [Cursor.StandsAt, hc, dropWhile_append_of_stops hi (stops_cons hinline),
      dropWhile_of_stops (stops_cons hinline)]
  | succ turns =>
    have hrest := hc.rest_skipBlanks_of_stops hi.blanks (stops_cons hblank)
    have hcomma : ¬(some x = some ',') := by
      intro heq
      exact ne_of_startsBareResult hx (by decide) (Option.some.inj heq)
    refine ⟨c.skipBlanks, ?_, Cursor.standsAt_of_rest hrest⟩
    simp only [moreNames, skipBlanks_bind, Cursor.head?_of_rest hrest, if_neg hcomma]
    rfl

theorem yields_moreNames (h : SpellsNames names ns)
    (hnames : ∀ name ∈ names, isIdentifier name.toList = true) (hi : InlineBlanks i)
    (hts : StartsType ts) (hw : Stops isWordChar (i ++ ts)) {turns : Nat}
    (hturns : names.length ≤ turns) :
    Yields (moreNames turns) (ns ++ (i ++ ts)) ts names := by
  induction h generalizing turns with
  | nil => exact yields_moreNames_nil turns hi hts
  | @cons b₁ b₂ ns names name hb₁ hb₂ hmore ih =>
    cases turns with
    | zero => exact absurd hturns (Nat.not_succ_le_zero _)
    | succ turns =>
      intro c hc
      have hname := hnames name List.mem_cons_self
      have hword := isTypeWord_of_isIdentifier hname
      have hstops := hmore.stops hw
      obtain ⟨y, ys, hy, hstart⟩ := head?_of_isTypeWord hword
      simp only [List.append_assoc, List.cons_append] at hc
      have hcomma := hc.rest_skipBlanks_of_stops hb₁.blanks (stops_cons (by decide))
      have hnext : c.skipBlanks.next.skipBlanks.rest = name.toList ++ (ns ++ (i ++ ts)) := by
        have hafter := Cursor.standsAt_of_rest (Cursor.rest_next hcomma)
        apply hafter.rest_skipBlanks_of_stops hb₂.blanks
        rw [hy]
        exact stops_cons (isBlank_of_isIdentifierStart hstart)
      have htaken : c.skipBlanks.next.skipBlanks.taken isWordChar = name.toList := by
        rw [Cursor.taken, hnext]
        exact takeWhile_append_of_stops (all_of_isTypeWord hword) hstops
      have hleft : (c.skipBlanks.next.skipBlanks.skipWhile isWordChar).rest =
          ns ++ (i ++ ts) := by
        rw [Cursor.skipWhile, hnext]
        exact dropWhile_append_of_stops (all_of_isTypeWord hword) hstops
      have hrest : ∀ name ∈ names, isIdentifier name.toList = true := fun name hmem =>
        hnames name (List.mem_cons_of_mem _ hmem)
      obtain ⟨c₁, h₁, hc₁⟩ := ih hrest (Nat.le_of_succ_le_succ hturns) _
        (Cursor.standsAt_of_rest hleft)
      refine ⟨c₁, ?_, hc₁⟩
      simp only [moreNames, skipBlanks_bind, next_bind, skipWhile_bind,
        Cursor.head?_of_rest hcomma, htaken, hname, if_true, h₁, ok_bind, String.ofList_toList]
      rfl

theorem fieldLine_named {name : String} (hname : isIdentifier name.toList = true)
    (hnames : ∀ name ∈ names, isIdentifier name.toList = true) (hns : SpellsNames names ns)
    (hi : InlineBlanks i) (hts : StartsType ts) (hw : Stops isWordChar (i ++ ts))
    (ht : Yields sub ts (gs ++ cs) t) (htag : Yields fieldTag (gs ++ cs) cs tag) {c : Cursor}
    (hc : c.rest = name.toList ++ (ns ++ (i ++ ts))) :
    ∃ c', fieldLine sub c = .ok ((name :: names).map (⟨·, t, tag⟩), c') ∧ c'.StandsAt cs := by
  have hword := isTypeWord_of_isIdentifier hname
  have hstops := hns.stops hw
  have htaken : c.taken isWordChar = name.toList := by
    rw [Cursor.taken, hc]
    exact takeWhile_append_of_stops (all_of_isTypeWord hword) hstops
  have hleft : (c.skipWhile isWordChar).rest = ns ++ (i ++ ts) := by
    rw [Cursor.skipWhile, hc]
    exact dropWhile_append_of_stops (all_of_isTypeWord hword) hstops
  have hnonempty : name.toList.isEmpty = false := by
    obtain ⟨y, ys, heq, -⟩ := head?_of_isTypeWord hword
    rw [heq]
    rfl
  have hinline : (c.skipWhile isWordChar).skipInlineBlanks.rest =
      (ns ++ (i ++ ts)).dropWhile isInlineBlank := by
    rw [← hleft]
    rfl
  have hembedded : endsEmbedded (c.skipWhile isWordChar).skipInlineBlanks = false := by
    have hhead : ∃ y, ((ns ++ (i ++ ts)).dropWhile isInlineBlank).head? = some y ∧
        (y = ',' ∨ startsBareResult y = true) := hns.head?_dropWhile hi hts
    obtain ⟨y, hy, hyx⟩ := hhead
    rw [endsEmbedded, Cursor.head?, hinline, hy]
    rcases hyx with rfl | hx
    · decide
    · simp [ne_of_startsBareResult hx (by decide : startsBareResult '\n' = false),
        ne_of_startsBareResult hx (by decide : startsBareResult ';' = false),
        ne_of_startsBareResult hx (by decide : startsBareResult '}' = false),
        ne_of_startsBareResult hx (by decide : startsBareResult '\x60' = false)]
  -- The blanks before the first comma are gone when the turns are counted; the commas suffice.
  have hturns : names.length ≤ (c.skipWhile isWordChar).skipInlineBlanks.rest.length := by
    rw [hinline]
    cases hns with
    | nil => exact Nat.zero_le _
    | cons hb₁ hb₂ hmore =>
      have := hmore.length_le
      simp only [List.append_assoc, List.cons_append]
      rw [dropWhile_append_of_stops hb₁ (stops_cons (by decide))]
      simp only [List.length_append, List.length_cons]
      omega
  have hstands := (Cursor.standsAt_of_rest hleft).skipInlineBlanks
  obtain ⟨c₁, h₁, hc₁⟩ := yields_moreNames hns hnames hi hts hw hturns _ hstands
  obtain ⟨c₂, h₂, hc₂⟩ := ht c₁ hc₁
  obtain ⟨c₃, h₃, hc₃⟩ := htag c₂ hc₂
  refine ⟨c₃, ?_, hc₃⟩
  simp only [fieldLine, skipWhile_bind, skipInlineBlanks_bind, htaken, hnonempty, hembedded, hname,
    if_true, if_false, Bool.false_eq_true, h₁, h₂, h₃, ok_bind, String.ofList_toList]
  rfl

end

theorem yields_structFields_nil (hb : Blanks b) (turns : Nat) :
    Yields (structFields sub (turns + 1)) (b ++ '}' :: rest) rest [] := by
  intro c hc
  have hrest := hc.rest_skipBlanks_of_stops hb (stops_cons (by decide))
  refine ⟨c.skipBlanks.next, ?_, Cursor.standsAt_of_rest (Cursor.rest_next hrest)⟩
  simp only [structFields, skipBlanks_bind, Cursor.head?_of_rest hrest, if_true, next_bind]
  rfl

theorem yields_structFields_semicolon {turns : Nat} (hb : Blanks b)
    (h : Yields (structFields sub turns) cs rest fields) :
    Yields (structFields sub (turns + 1)) (b ++ ';' :: cs) rest fields := by
  intro c hc
  have hrest := hc.rest_skipBlanks_of_stops hb (stops_cons (by decide))
  obtain ⟨c₁, h₁, hc₁⟩ := h c.skipBlanks.next (Cursor.standsAt_of_rest (Cursor.rest_next hrest))
  refine ⟨c₁, ?_, hc₁⟩
  have hclose : ¬(';' = '}') := by decide
  simp only [structFields, skipBlanks_bind, Cursor.head?_of_rest hrest, if_neg hclose, if_true,
    next_bind, h₁]

theorem yields_structFields_starred {turns : Nat} {ts : List Char} (hb : Blanks b)
    (hts : ∃ xs, ts = '*' :: xs) (ht : Yields sub ts (gs ++ cs) t)
    (htag : Yields fieldTag (gs ++ cs) cs tag)
    (h : Yields (structFields sub turns) cs rest fields) :
    Yields (structFields sub (turns + 1)) (b ++ ts) rest (⟨"", t, tag⟩ :: fields) := by
  obtain ⟨xs, rfl⟩ := hts
  intro c hc
  have hrest := hc.rest_skipBlanks_of_stops hb (stops_cons (by decide))
  obtain ⟨c₁, h₁, hc₁⟩ := ht c.skipBlanks (Cursor.standsAt_of_rest hrest)
  obtain ⟨c₂, h₂, hc₂⟩ := yields_embeddedField (t := t) htag c₁ hc₁
  obtain ⟨c₃, h₃, hc₃⟩ := h c₂ hc₂
  refine ⟨c₃, ?_, hc₃⟩
  have hclose : ¬('*' = '}') := by decide
  have hsemicolon : ¬('*' = ';') := by decide
  simp only [structFields, skipBlanks_bind, Cursor.head?_of_rest hrest, if_neg hclose,
    if_neg hsemicolon, if_true, h₁, h₂, h₃, ok_bind]
  rfl

/-- A line of fields begins with a word. -/
theorem yields_structFields_line {turns : Nat} {ls : List Char} {x : Char}
    {line : List (Field TypeExpr)} (hb : Blanks b) (hx : isIdentifierStart x = true)
    (hline : ∀ c : Cursor, c.rest = x :: ls → ∃ c', fieldLine sub c = .ok (line, c') ∧
      c'.StandsAt cs)
    (h : Yields (structFields sub turns) cs rest fields) :
    Yields (structFields sub (turns + 1)) (b ++ x :: ls) rest (line ++ fields) := by
  intro c hc
  have hrest := hc.rest_skipBlanks_of_stops hb (stops_cons (isBlank_of_isIdentifierStart hx))
  obtain ⟨c₁, h₁, hc₁⟩ := hline c.skipBlanks hrest
  obtain ⟨c₂, h₂, hc₂⟩ := h c₁ hc₁
  refine ⟨c₂, ?_, hc₂⟩
  have hne : ∀ y, isIdentifierStart y = false → x ≠ y := fun y => ne_of_isIdentifierStart hx
  simp only [structFields, skipBlanks_bind, Cursor.head?_of_rest hrest,
    if_neg (hne '}' (by decide)), if_neg (hne ';' (by decide)), if_neg (hne '*' (by decide)), h₁,
    h₂, ok_bind]
  rfl

theorem yields_structFields_embedded {path name : String} {turns : Nat} (hb : Blanks b)
    (hn : isIdentifier name.toList = true) (hp : path.isEmpty = false → isPathText path = true)
    (hends : EndsName (gs ++ cs)) (htag : Yields fieldTag (gs ++ cs) cs tag)
    (h : Yields (structFields sub turns) cs rest fields) :
    Yields (structFields sub (turns + 1)) (b ++ (wordChars path name ++ (gs ++ cs))) rest
      (⟨"", .ident path name, tag⟩ :: fields) := by
  obtain ⟨x, xs, hx, hstart⟩ := head?_of_isTypeWord (isTypeWord_wordChars hn hp)
  have hline : ∀ c : Cursor, c.rest = x :: (xs ++ (gs ++ cs)) →
      ∃ c', fieldLine sub c = .ok ([⟨"", .ident path name, tag⟩], c') ∧ c'.StandsAt cs := by
    intro c hc
    apply fieldLine_embedded hn hp hends htag
    rw [hc, hx, List.cons_append]
  rw [hx, List.cons_append]
  exact yields_structFields_line hb hstart hline h

theorem yields_structFields_named {name : String} {names : List String} {turns : Nat}
    {ns i ts : List Char} (hb : Blanks b)
    (hnames : ∀ n ∈ name :: names, isIdentifier n.toList = true) (hns : SpellsNames names ns)
    (hi : InlineBlanks i) (hts : StartsType ts) (hw : Stops isWordChar (i ++ ts))
    (ht : Yields sub ts (gs ++ cs) t) (htag : Yields fieldTag (gs ++ cs) cs tag)
    (h : Yields (structFields sub turns) cs rest fields) :
    Yields (structFields sub (turns + 1)) (b ++ (name.toList ++ (ns ++ (i ++ ts)))) rest
      ((name :: names).map (⟨·, t, tag⟩) ++ fields) := by
  rw [List.forall_mem_cons] at hnames
  obtain ⟨y, ys, hy, hstart⟩ := head?_of_isTypeWord (isTypeWord_of_isIdentifier hnames.1)
  have hline : ∀ c : Cursor, c.rest = y :: (ys ++ (ns ++ (i ++ ts))) →
      ∃ c', fieldLine sub c = .ok ((name :: names).map (⟨·, t, tag⟩), c') ∧ c'.StandsAt cs := by
    intro c hc
    apply fieldLine_named hnames.1 hnames.2 hns hi hts hw ht htag
    rw [hc, hy, List.cons_append]
  rw [hy, List.cons_append]
  exact yields_structFields_line hb hstart hline h

theorem yields_structBody (hb : Blanks b)
    (h : ∀ turns, cs.length ≤ turns → Yields (structFields sub turns) (cs ++ rest) rest fields) :
    Yields (structBody sub) (b ++ '{' :: (cs ++ rest)) rest (.struct fields) := by
  intro c hc
  obtain ⟨c₁, h₁, hc₁⟩ := hc.expect hb (by decide)
  have hturns : cs.length ≤ c₁.rest.length + 1 := by
    rw [hc₁, List.length_append]
    omega
  obtain ⟨c₂, h₂, hc₂⟩ := h _ hturns c₁ (Cursor.standsAt_of_rest hc₁)
  refine ⟨c₂, ?_, hc₂⟩
  simp only [structBody, h₁, h₂, ok_bind]
  rfl

end

end TypeSchema.TypeExpr
