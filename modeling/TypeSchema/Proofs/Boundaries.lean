import TypeSchema.Proofs.FieldReading

namespace TypeSchema.TypeExpr

open Text

theorem stops_isWordChar {b cs : List Char} {x : Char} (hb : Blanks b)
    (hx : isWordChar x = false) : Stops isWordChar (b ++ x :: cs) :=
  stops_blanks_append (fun _ => isWordChar_of_isBlank) hb (stops_cons hx)

theorem startsResult_of_isBlank {c : Char} (h : isBlank c = true) : startsResult c = false := by
  rw [Bool.eq_false_iff]
  intro hstart
  rw [startsResult, Bool.or_eq_true, decide_eq_true_eq] at hstart
  rcases hstart with rfl | hstart
  · exact absurd h (by decide)
  · rw [isBlank_of_startsBareResult hstart] at h
    exact absurd h (by decide)

/-- Whatever a type ends with, blanks and a token that begins no type may follow it. -/
theorem Ending.allows_blanks (e : Ending) {b cs : List Char} {x : Char} (hb : Blanks b)
    (hw : isWordChar x = false) (hr : startsResult x = false) (hi : isInlineBlank x = false) :
    e.Allows (b ++ x :: cs) := by
  cases e with
  | word => exact stops_isWordChar hb hw
  | signature =>
    refine stops_dropWhile_blanks_append (fun c => startsResult_of_isBlank) hb ?_
    rw [dropWhile_of_stops (stops_cons hi)]
    exact stops_cons hr
  | bracket => trivial

theorem Ending.allows_end (e : Ending) {b : List Char} (hb : Blanks b) : e.Allows b := by
  rw [← List.append_nil b]
  cases e with
  | word => exact stops_blanks_append (fun _ => isWordChar_of_isBlank) hb stops_nil
  | signature =>
    exact stops_dropWhile_blanks_append (fun _ => startsResult_of_isBlank) hb stops_nil
  | bracket => trivial

theorem Ending.allows_tag (e : Ending) {tag : Option String} {gs cs : List Char}
    (h : SpellsTag tag gs) (hcs : tag = none → e.Allows cs) : e.Allows (gs ++ cs) := by
  cases h with
  | none => exact hcs rfl
  | some tag hi =>
    rw [List.append_assoc, List.append_assoc]
    exact e.allows_blanks hi.blanks (by decide) (by decide) (by decide)

theorem startsBareResult_of_start {x : Char} (h : isIdentifierStart x = true) :
    startsBareResult x = true := by
  rw [startsBareResult, h, Bool.or_true]

theorem Spells.startsType {t : TypeExpr} {e : Ending} {cs : List Char} (h : Spells t e cs)
    (hwf : t.wellFormed isPathText false = true) : StartsType cs := by
  cases h with
  | ident path name =>
    obtain ⟨hn, hp, -⟩ := wellFormed_ident hwf
    obtain ⟨x, xs, hx, hstart⟩ := head?_of_isTypeWord (isTypeWord_wordChars hn hp)
    exact ⟨x, xs, hx, startsBareResult_of_start hstart⟩
  | pointer _ _ => exact ⟨'*', _, rfl, by decide⟩
  | array _ _ _ _ _ => exact ⟨'[', _, rfl, by decide⟩
  | map _ _ _ _ _ _ => exact ⟨'m', _, rfl, by decide⟩
  | struct _ _ => exact ⟨'s', _, rfl, by decide⟩
  | interface _ _ => exact ⟨'i', _, rfl, by decide⟩
  | func _ _ => exact ⟨'f', _, rfl, by decide⟩
  | funcResult _ _ _ _ => exact ⟨'f', _, rfl, by decide⟩
  | funcResults _ _ _ _ => exact ⟨'f', _, rfl, by decide⟩
  | chan _ _ _ => exact ⟨'c', _, rfl, by decide⟩

theorem Spells.append_ne_nil {t : TypeExpr} {e : Ending} {cs : List Char} (h : Spells t e cs)
    (hwf : t.wellFormed isPathText false = true) (b : List Char) : b ++ cs ≠ [] := by
  obtain ⟨x, xs, rfl, -⟩ := h.startsType hwf
  exact List.append_ne_nil_of_right_ne_nil b (List.cons_ne_nil x xs)

theorem Spells.head?_pointer {t : TypeExpr} {e : Ending} {cs : List Char}
    (h : Spells (.pointer t) e cs) : ∃ xs, cs = '*' :: xs := by
  cases h with
  | pointer _ _ => exact ⟨_, rfl⟩

theorem Spells.head?_append {t : TypeExpr} {e : Ending} {cs : List Char}
    (h : Spells (.pointer t) e cs) (rest : List Char) : ∃ xs, cs ++ rest = '*' :: xs := by
  obtain ⟨xs, rfl⟩ := h.head?_pointer
  exact ⟨xs ++ rest, rfl⟩

theorem SpellsTypes.startsType {types : List TypeExpr} {cs : List Char}
    (h : SpellsTypes types cs) (hwf : wellFormedTypes isPathText types = true) :
    StartsType cs := by
  cases h with
  | last ht _ =>
    rw [wellFormedTypes, Bool.and_eq_true] at hwf
    rw [List.append_assoc]
    exact (ht.startsType hwf.1).append _
  | cons ht _ _ _ =>
    rw [wellFormedTypes, Bool.and_eq_true] at hwf
    rw [List.append_assoc, List.append_assoc]
    exact (ht.startsType hwf.1).append _

theorem SpellsList.head? {types : List TypeExpr} {cs : List Char} (h : SpellsList types cs) :
    ∃ xs, cs = '(' :: xs := by
  cases h with
  | nil _ => exact ⟨_, rfl⟩
  | types _ _ => exact ⟨_, rfl⟩

theorem SpellsList.head?_append {types : List TypeExpr} {cs : List Char}
    (h : SpellsList types cs) (rest : List Char) : ∃ xs, cs ++ rest = '(' :: xs := by
  obtain ⟨xs, rfl⟩ := h.head?
  exact ⟨xs ++ rest, rfl⟩

theorem SpellsList.stops {types : List TypeExpr} {b cs : List Char} (h : SpellsList types cs)
    (hb : Blanks b) (rest : List Char) : Stops isWordChar (b ++ (cs ++ rest)) := by
  obtain ⟨xs, rfl⟩ := h.head?
  exact stops_isWordChar hb (by decide)

theorem SpellsFields.mem_close : ∀ {fields : List (Field TypeExpr)} {cs : List Char},
    SpellsFields fields cs → '}' ∈ cs
  | _, _, .nil _ => List.mem_append_right _ List.mem_cons_self
  | _, _, .semicolon _ hmore =>
    List.mem_append_right _ (List.mem_cons_of_mem _ hmore.mem_close)
  | _, _, .starred _ _ _ _ hmore => List.mem_append_right _ hmore.mem_close
  | _, _, .embedded _ _ _ hmore => List.mem_append_right _ hmore.mem_close
  | _, _, .named _ _ _ _ _ _ _ _ hmore => List.mem_append_right _ hmore.mem_close

theorem dropWhile_ne_nil {cs : List Char} (h : '}' ∈ cs) : cs.dropWhile isInlineBlank ≠ [] := by
  intro hnil
  have hinline := List.dropWhile_eq_nil_iff.1 hnil '}' h
  exact absurd hinline (by decide)

theorem dropWhile_append_of_mem {cs : List Char} (h : '}' ∈ cs) (rest : List Char) :
    (cs ++ rest).dropWhile isInlineBlank = cs.dropWhile isInlineBlank ++ rest := by
  rw [List.dropWhile_append, if_neg]
  rw [List.isEmpty_iff]
  exact dropWhile_ne_nil h

theorem stops_append {p : Char → Bool} {cs : List Char} (h : Stops p cs) (hcs : cs ≠ [])
    (rest : List Char) : Stops p (cs ++ rest) := by
  cases cs with
  | nil => exact absurd rfl hcs
  | cons c cs => exact stops_cons (h c rfl)

theorem Ending.allows_append {e : Ending} {cs : List Char} (h : e.Allows cs) (hcs : '}' ∈ cs)
    (rest : List Char) : e.Allows (cs ++ rest) := by
  cases e with
  | word => exact stops_append h (List.ne_nil_of_mem hcs) rest
  | signature =>
    have hstops : Stops startsResult (cs.dropWhile isInlineBlank ++ rest) :=
      stops_append h (dropWhile_ne_nil hcs) rest
    rw [Ending.Allows, dropWhile_append_of_mem hcs]
    exact hstops
  | bracket => trivial

theorem endsName_of_endsLine {cs : List Char} (h : EndsLine cs) (hcs : '}' ∈ cs)
    (rest : List Char) : EndsName (cs ++ rest) := by
  obtain ⟨x, hmem, hx⟩ := h
  refine ⟨x, List.mem_append_left ['\x60'] hmem, ?_⟩
  rw [dropWhile_append_of_mem hcs, List.head?_append, hx]
  rfl

theorem endsName_tag {tag : Option String} {gs cs : List Char} (h : SpellsTag tag gs)
    (hcs : tag = none → EndsName cs) : EndsName (gs ++ cs) := by
  cases h with
  | none => exact hcs rfl
  | some tag hi =>
    refine ⟨'\x60', by decide, ?_⟩
    rw [List.append_assoc, List.append_assoc, List.cons_append,
      dropWhile_append_of_stops hi (stops_cons (by decide))]
    rfl

theorem untagged_blanks {b cs : List Char} {x : Char} (hb : Blanks b) (hx : x ≠ '\x60')
    (hi : isInlineBlank x = false) : Untagged (b ++ x :: cs) := by
  refine stops_dropWhile_blanks_append (fun c hc => ?_) hb ?_
  · rw [decide_eq_false_iff_not]
    exact ne_of_isBlank hc (by decide)
  · rw [dropWhile_of_stops (stops_cons hi)]
    exact stops_cons (decide_eq_false hx)

theorem untagged_start {b cs : List Char} {x : Char} (hb : Blanks b)
    (hx : isIdentifierStart x = true) : Untagged (b ++ x :: cs) :=
  untagged_blanks hb (ne_of_isIdentifierStart hx (by decide))
    (isInlineBlank_of_isBlank (isBlank_of_isIdentifierStart hx))

theorem SpellsFields.untagged {fields : List (Field TypeExpr)} {cs : List Char}
    (h : SpellsFields fields cs) (hwf : wellFormedFields isPathText fields = true)
    (rest : List Char) : Untagged (cs ++ rest) := by
  cases h with
  | nil hb =>
    rw [List.append_assoc]
    exact untagged_blanks hb (by decide) (by decide)
  | semicolon hb _ =>
    rw [List.append_assoc]
    exact untagged_blanks hb (by decide) (by decide)
  | starred hb ht _ _ _ =>
    obtain ⟨xs, rfl⟩ := ht.head?_pointer
    simp only [List.append_assoc, List.cons_append]
    exact untagged_blanks hb (by decide) (by decide)
  | embedded hb _ _ _ =>
    obtain ⟨hn, hp, -⟩ := wellFormed_ident (wellFormedFields_embedded hwf).1
    obtain ⟨x, xs, hx, hstart⟩ := head?_of_isTypeWord (isTypeWord_wordChars hn hp)
    simp only [List.append_assoc, hx, List.cons_append]
    exact untagged_start hb hstart
  | named hb hne _ _ _ _ _ _ _ =>
    obtain ⟨hn, -, -⟩ := (wellFormedFields_named hne hwf).1 _ List.mem_cons_self
    obtain ⟨x, xs, hx, hstart⟩ := head?_of_isTypeWord (isTypeWord_of_isIdentifier hn)
    simp only [List.append_assoc, hx, List.cons_append]
    exact untagged_start hb hstart

end TypeSchema.TypeExpr
