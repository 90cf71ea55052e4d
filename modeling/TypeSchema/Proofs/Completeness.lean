import TypeSchema.Proofs.Boundaries

namespace TypeSchema.TypeExpr

open Text

theorem exists_level {t : TypeExpr} {n : Nat} (h : t.height ≤ n) : ∃ m, n = m + 1 := by
  have := t.height_pos
  exact ⟨n - 1, by omega⟩

theorem exists_turn {cs : List Char} {turns : Nat} (hcs : cs ≠ []) (h : cs.length ≤ turns) :
    ∃ m, turns = m + 1 := by
  have := List.length_pos_iff.2 hcs
  exact ⟨turns - 1, by omega⟩

theorem yields_ident {sub : Reader Attempt} {path name : String} {b rest : List Char}
    (hwf : (ident path name).wellFormed isPathText false = true) (hb : Blanks b)
    (hrest : Stops isWordChar rest) :
    Yields (nestedType sub) (b ++ (wordChars path name ++ rest)) rest (.ident path name) := by
  obtain ⟨hn, hp, hk⟩ := wellFormed_ident hwf
  refine yields_nestedType_word hb (isTypeWord_wordChars hn hp) hrest fun start c hc => ?_
  refine ⟨c, ?_, hc⟩
  have hkeyword := ofList_wordChars_not_mem_keywords fun h => hk h rfl
  rw [wordType_of_not_keyword sub start c hkeyword, identOfWord_wordChars hn]
  rfl

-- The texts are taken apart by the derivation, so each text is at hand in just the pieces that the
-- readers split it into. Blanks in front are passed over by the reader of the type behind them.

mutual

theorem Spells.yields : ∀ {t : TypeExpr} {e : Ending} {cs : List Char}, Spells t e cs →
    ∀ {n : Nat} {b rest : List Char}, t.wellFormed isPathText false = true → t.height ≤ n →
      e.Allows rest → Blanks b → Yields (parseType n) (b ++ (cs ++ rest)) rest t
  | _, _, _, .ident path name, n, b, rest, hwf, hn, he, hb => by
    obtain ⟨m, rfl⟩ := exists_level hn
    exact yields_ident hwf hb he
  | _, _, _, .pointer hb₁ ht, n, b, rest, hwf, hn, he, hb => by
    obtain ⟨m, rfl⟩ := exists_level hn
    rw [wellFormed] at hwf
    rw [height] at hn
    have hsub := ht.yields hwf (Nat.le_of_succ_le_succ hn) he hb₁
    simp only [List.append_assoc, List.cons_append]
    exact yields_nestedType_pointer hb hsub
  | _, _, _, .array hb₁ hd hb₂ hb₃ ht, n, b, rest, hwf, hn, he, hb => by
    obtain ⟨m, rfl⟩ := exists_level hn
    rw [wellFormed] at hwf
    rw [height] at hn
    have hsub := ht.yields hwf (Nat.le_of_succ_le_succ hn) he hb₃
    simp only [List.append_assoc, List.cons_append]
    exact yields_nestedType_array hb (yields_arrayType hb₁ hd hb₂ hsub)
  | _, _, _, .map hb₁ hb₂ hk hb₃ hb₄ hv, n, b, rest, hwf, hn, he, hb => by
    obtain ⟨m, rfl⟩ := exists_level hn
    rw [wellFormed, Bool.and_eq_true] at hwf
    rw [height, Nat.succ_le_succ_iff, Nat.max_le] at hn
    have hvalue := hv.yields hwf.2 hn.2 he hb₄
    simp only [List.append_assoc, List.cons_append]
    refine yields_nestedType_word hb (by decide) (stops_isWordChar hb₁ (by decide)) fun start => ?_
    rw [wordType_map]
    refine yields_mapType hb₁ (hk.yields hwf.1 hn.1 ?_ hb₂) hb₃ hvalue
    exact Ending.allows_blanks _ hb₃ (by decide) (by decide) (by decide)
  | _, _, _, .struct hb₁ hfs, n, b, rest, hwf, hn, he, hb => by
    obtain ⟨m, rfl⟩ := exists_level hn
    rw [wellFormed] at hwf
    rw [height] at hn
    simp only [List.append_assoc, List.cons_append]
    refine yields_nestedType_word hb (by decide) (stops_isWordChar hb₁ (by decide)) fun start => ?_
    rw [wordType_struct]
    exact yields_structBody hb₁ fun turns hturns =>
      hfs.yields hwf (Nat.le_of_succ_le_succ hn) hturns
  | _, _, _, .interface hb₁ hbody, n, b, rest, _, hn, _, hb => by
    obtain ⟨m, rfl⟩ := exists_level hn
    simp only [List.append_assoc, List.cons_append]
    refine yields_nestedType_word hb (by decide) (stops_isWordChar hb₁ (by decide)) fun start => ?_
    rw [wordType_interface]
    exact yields_interfaceBody hb₁ hbody
  | _, _, _, .func hb₁ hps, n, b, rest, hwf, hn, he, hb => by
    obtain ⟨m, rfl⟩ := exists_level hn
    rw [wellFormed, Bool.and_eq_true] at hwf
    rw [height, Nat.succ_le_succ_iff, Nat.max_le] at hn
    simp only [List.append_assoc]
    refine yields_nestedType_word hb (by decide) (hps.stops hb₁ rest) fun start => ?_
    rw [wordType_func]
    exact yields_funcSignature (hps.yields hwf.1 hn.1 hb₁) he
  | _, _, _, .funcResult hb₁ hps hi hr, n, b, rest, hwf, hn, he, hb => by
    obtain ⟨m, rfl⟩ := exists_level hn
    simp only [wellFormed, wellFormedTypes, Bool.and_true, Bool.and_eq_true] at hwf
    simp only [height, typesHeight, Nat.max_zero, Nat.succ_le_succ_iff, Nat.max_le] at hn
    have hstarts := (hr.startsType hwf.2).append rest
    simp only [List.append_assoc]
    refine yields_nestedType_word hb (by decide) (hps.stops hb₁ _) fun start => ?_
    rw [wordType_func]
    have hresult := hr.yields hwf.2 hn.2 he blanks_nil
    exact yields_funcSignature_result (hps.yields hwf.1 hn.1 hb₁) hi hstarts hresult
  | _, _, _, .funcResults hb₁ hps hi hrs, n, b, rest, hwf, hn, _, hb => by
    obtain ⟨m, rfl⟩ := exists_level hn
    rw [wellFormed, Bool.and_eq_true] at hwf
    rw [height, Nat.succ_le_succ_iff, Nat.max_le] at hn
    simp only [List.append_assoc]
    refine yields_nestedType_word hb (by decide) (hps.stops hb₁ _) fun start => ?_
    rw [wordType_func]
    exact yields_funcSignature_results (hps.yields hwf.1 hn.1 hb₁) hi (hrs.head?_append rest)
      (hrs.yields hwf.2 hn.2 blanks_nil)
  | _, _, _, .chan hb₁ ht hapart, n, b, rest, hwf, hn, he, hb => by
    obtain ⟨m, rfl⟩ := exists_level hn
    rw [wellFormed] at hwf
    rw [height] at hn
    have hsub := ht.yields hwf (Nat.le_of_succ_le_succ hn) he hb₁
    have hstops := stops_append hapart (ht.append_ne_nil hwf _) rest
    simp only [List.append_assoc] at hstops ⊢
    refine yields_nestedType_word hb (by decide) hstops fun start => ?_
    exact yields_wordType_chan hsub start

theorem SpellsList.yields : ∀ {types : List TypeExpr} {cs : List Char}, SpellsList types cs →
    ∀ {n : Nat} {b rest : List Char}, wellFormedTypes isPathText types = true →
      typesHeight types ≤ n → Blanks b →
      Yields (typeList (parseType n)) (b ++ (cs ++ rest)) rest types
  | _, _, .nil hb₁, n, b, rest, _, _, hb => by
    simp only [List.append_assoc, List.cons_append]
    exact yields_typeList_nil hb hb₁
  | _, _, .types hb₁ hts, n, b, rest, hwf, hn, hb => by
    simp only [List.append_assoc, List.cons_append]
    refine yields_typeList hb hb₁ ((hts.startsType hwf).append rest) ?_
    refine hts.yields hwf hn ?_ blanks_nil
    rw [List.length_append]
    omega

theorem SpellsTypes.yields : ∀ {types : List TypeExpr} {cs : List Char}, SpellsTypes types cs →
    ∀ {n turns : Nat} {b rest : List Char}, wellFormedTypes isPathText types = true →
      typesHeight types ≤ n → cs.length ≤ turns → Blanks b →
      Yields (moreTypes (parseType n) turns) (b ++ (cs ++ rest)) rest types
  | _, _, .last ht hb₁, n, turns, b, rest, hwf, hn, hturns, hb => by
    rw [wellFormedTypes, Bool.and_eq_true] at hwf
    rw [typesHeight, Nat.max_le] at hn
    -- Every item has a character of its own, so there are turns for all of them.
    obtain ⟨m, rfl⟩ := exists_turn (by simp) hturns
    simp only [List.append_assoc]
    refine yields_moreTypes_last (ht.yields hwf.1 hn.1 ?_ hb) hb₁ m
    exact Ending.allows_blanks _ hb₁ (by decide) (by decide) (by decide)
  | _, _, .cons ht hb₁ hb₂ hts, n, turns, b, rest, hwf, hn, hturns, hb => by
    rw [wellFormedTypes, Bool.and_eq_true] at hwf
    rw [typesHeight, Nat.max_le] at hn
    obtain ⟨m, rfl⟩ := exists_turn (by simp) hturns
    simp only [List.length_append, List.length_cons] at hturns
    simp only [List.append_assoc, List.cons_append]
    refine yields_moreTypes_cons (ht.yields hwf.1 hn.1 ?_ hb) hb₁
      (hts.yields hwf.2 hn.2 (by omega) hb₂)
    exact Ending.allows_blanks _ hb₁ (by decide) (by decide) (by decide)

theorem SpellsFields.yields : ∀ {fields : List (Field TypeExpr)} {cs : List Char},
    SpellsFields fields cs → ∀ {n turns : Nat} {rest : List Char},
      wellFormedFields isPathText fields = true → fieldsHeight fields ≤ n → cs.length ≤ turns →
      Yields (structFields (parseType n) turns) (cs ++ rest) rest fields
  | _, _, .nil hb, n, turns, rest, hwf, hn, hturns => by
    obtain ⟨m, rfl⟩ := exists_turn (by simp) hturns
    simp only [List.append_assoc]
    exact yields_structFields_nil hb m
  | _, _, .semicolon hb hfs, n, turns, rest, hwf, hn, hturns => by
    obtain ⟨m, rfl⟩ := exists_turn (by simp) hturns
    simp only [List.length_append, List.length_cons] at hturns
    simp only [List.append_assoc]
    exact yields_structFields_semicolon hb (hfs.yields hwf hn (by omega))
  | _, _, .starred hb ht htag he hfs, n, turns, rest, hwf, hn, hturns => by
    obtain ⟨hwt, hq, hwfs⟩ := wellFormedFields_embedded hwf
    rw [fieldsHeight, Nat.max_le] at hn
    -- The star that the loop looks for is that of the pointer itself.
    obtain ⟨xs, hxs⟩ := ht.head?_pointer
    obtain ⟨m, rfl⟩ := exists_turn (by simp [hxs]) hturns
    have hallows := Ending.allows_tag _ htag fun hnone =>
      Ending.allows_append (he hnone) hfs.mem_close rest
    have hfield := ht.yields hwt hn.1 hallows blanks_nil
    have htags := yields_fieldTag htag hq fun _ => hfs.untagged hwfs rest
    simp only [List.length_append, hxs, List.length_cons] at hturns
    simp only [List.append_assoc]
    exact yields_structFields_starred hb (ht.head?_append _) hfield htags
      (hfs.yields hwfs hn.2 (by omega))
  | _, _, .embedded hb htag he hfs, n, turns, rest, hwf, hn, hturns => by
    obtain ⟨hwt, hq, hwfs⟩ := wellFormedFields_embedded hwf
    obtain ⟨hname, hp, -⟩ := wellFormed_ident hwt
    rw [fieldsHeight, Nat.max_le] at hn
    obtain ⟨x, xs, hx, -⟩ := head?_of_isTypeWord (isTypeWord_wordChars hname hp)
    obtain ⟨m, rfl⟩ := exists_turn (by simp [hx]) hturns
    have hends := endsName_tag htag fun hnone => endsName_of_endsLine (he hnone) hfs.mem_close rest
    have htags := yields_fieldTag htag hq fun _ => hfs.untagged hwfs rest
    simp only [List.length_append, hx, List.length_cons] at hturns
    simp only [List.append_assoc]
    exact yields_structFields_embedded hb hname hp hends htags (hfs.yields hwfs hn.2 (by omega))
  | _, _, @SpellsFields.named name names t e tag fields b ns i ts gs cs hb hne hns hi ht hw htag he
      hfs, n, turns, rest, hwf, hn, hturns => by
    obtain ⟨hwn, hwfs⟩ := wellFormedFields_named hne hwf
    obtain ⟨hname, hwt, hq⟩ := hwn name List.mem_cons_self
    rw [List.map_cons, fieldsHeight_append, fieldsHeight, Nat.max_le, Nat.max_le] at hn
    obtain ⟨y, ys, hy, -⟩ := head?_of_isTypeWord (isTypeWord_of_isIdentifier hname)
    obtain ⟨m, rfl⟩ := exists_turn (by simp [hy]) hturns
    have hnames : ∀ n ∈ name :: names, isIdentifier n.toList = true := fun n hmem =>
      (hwn n hmem).1
    have hallows := Ending.allows_tag _ htag fun hnone =>
      Ending.allows_append (he hnone) hfs.mem_close rest
    have hfield := ht.yields hwt hn.1.1 hallows blanks_nil
    have htags := yields_fieldTag htag hq fun _ => hfs.untagged hwfs rest
    have hstops := stops_append hw (ht.append_ne_nil hwt i) (gs ++ (cs ++ rest))
    simp only [List.length_append, hy, List.length_cons] at hturns
    simp only [List.append_assoc] at hstops ⊢
    exact yields_structFields_named hb hnames hns hi ((ht.startsType hwt).append _) hstops hfield
      htags (hfs.yields hwfs hn.2 (by omega))

end

theorem parseChars_of_spells_blanks {t : TypeExpr} {e : Ending} {b cs b' : List Char}
    (h : Spells t e cs) (hwf : t.wellFormed isPathText false = true) (hn : t.height ≤ maxNesting)
    (hb : Blanks b) (hb' : Blanks b') :
    (parseChars (b ++ (cs ++ b')) : Attempt TypeExpr) = .ok t := by
  have hread := h.yields hwf hn (e.allows_end hb') hb
  obtain ⟨c, hc, hrest⟩ := hread (.start (b ++ (cs ++ b'))) (Cursor.standsAt_of_rest rfl)
  have hleft : c.skipBlanks.rest = [] := by
    rw [hrest.rest_skipBlanks]
    exact List.dropWhile_eq_nil_iff.2 hb'
  simp only [parseChars, hc, ok_bind, Scanner.skipBlanks_bind, hleft]
  rfl

theorem parseChars_of_spells {t : TypeExpr} {e : Ending} {b cs : List Char} (h : Spells t e cs)
    (hwf : t.wellFormed isPathText false = true) (hn : t.height ≤ maxNesting) (hb : Blanks b) :
    (parseChars (b ++ cs) : Attempt TypeExpr) = .ok t := by
  have hparse := parseChars_of_spells_blanks h hwf hn hb blanks_nil
  rw [List.append_nil] at hparse
  exact hparse

/-- Every way to write a type is read as that type. -/
theorem parse_of_isTextOf (t : TypeExpr) (s : String) (hwf : t.wellFormed isPathText false = true)
    (hheight : t.height ≤ 256) (h : t.IsTextOf s) : parse s = .ok t := by
  obtain ⟨e, b, cs, b', hb, hspells, hb', hs⟩ := h
  rw [parse, hs]
  exact parseChars_of_spells_blanks hspells hwf hheight hb hb'

/-- Fields with and without a name, a keyword as an embedded type, and funcs at the end of
fields. -/
def workshop : TypeExpr :=
  .struct [⟨"A", .array (.ident "" "int"), some "x"⟩, ⟨"B", .array (.ident "" "int"), some "x"⟩,
    ⟨"", .ident "" "map", none⟩, ⟨"", .pointer (.ident "acme/models" "Widget"), none⟩,
    ⟨"F", .func [] [], none⟩, ⟨"G", .func [.chan (.ident "" "int")] [.ident "" "error"], none⟩,
    ⟨"I", .interface, none⟩]

def workshopText : String :=
  "\u00a0struct\n\x7bA ,\tB [ 3 ] int \x60x\x60map\r\n*\u2003acme/models.Widget; F func ( )( )\n" ++
  "G func(chan\tint) (error) I interface \x7bm \x7b \x7d\x7d ;\x7d\n"

theorem isTextOf_workshopText : workshop.IsTextOf workshopText := by
  have hnone : Blanks [] := blanks_nil
  have hspace : Blanks [' '] := by decide
  have hline : Blanks ['\n'] := by decide
  have hinline : InlineBlanks [' '] := by decide
  have htab : InlineBlanks ['\t'] := by decide
  have hwide : Blanks ['\u2003'] := by decide
  have hdigit : Digits ['3'] := by decide
  have hint : Spells (.ident "" "int") .word "int".toList := .ident "" "int"
  have hinner : Balanced [' '] := .char (by decide) (by decide) .nil
  have hbody : Balanced "m \x7b \x7d".toList :=
    .char (by decide) (by decide) (.char (by decide) (by decide) (.braces hinner .nil))
  have hclose := SpellsFields.semicolon hspace (.nil hnone)
  have hI := SpellsFields.named hspace (by decide : ∀ n ∈ ["I"], n ≠ "") .nil hinline
    (.interface hspace hbody) (stops_cons (by decide)) .none (fun _ => trivial) hclose
  have hchan := Spells.chan htab.blanks hint (stops_cons (by decide))
  have hG := SpellsFields.named hline (by decide : ∀ n ∈ ["G"], n ≠ "") .nil hinline
    (.funcResults hnone (.types hnone (.last hchan hnone)) hinline
      (.types hnone (.last (.ident "" "error") hnone)))
    (stops_cons (by decide)) .none (fun _ => trivial) hI
  have hF := SpellsFields.named hspace (by decide : ∀ n ∈ ["F"], n ≠ "") .nil hinline
    (.funcResults hspace (.nil hspace) (by decide : InlineBlanks []) (.nil hspace))
    (stops_cons (by decide)) .none (fun _ => trivial) hG
  have hWidget := SpellsFields.starred (by decide : Blanks ['\r', '\n'])
    (.pointer hwide (.ident "acme/models" "Widget")) .none (fun _ => stops_cons (by decide))
    (.semicolon hnone hF)
  have hmap : SpellsFields (⟨"", .ident "" "map", none⟩ :: _) _ :=
    .embedded hnone .none (fun _ => ⟨'\n', by decide, rfl⟩) hWidget
  have hAB := SpellsFields.named hnone (by decide : ∀ n ∈ ["A", "B"], n ≠ "")
    (.cons hinline htab .nil) hinline (.array hspace hdigit hspace hspace hint)
    (stops_cons (by decide)) (.some "x" hinline) nofun hmap
  exact ⟨_, ['\u00a0'], _, ['\n'], by decide, .struct hline hAB, hline, by decide +kernel⟩

theorem parse_workshopText :
    workshop.wellFormed isPathText false = true ∧ workshop.height ≤ 256 ∧
      workshop.IsTextOf workshopText ∧ parse workshopText = .ok workshop :=
  ⟨by decide, by decide, isTextOf_workshopText,
    parse_of_isTextOf workshop workshopText (by decide) (by decide) isTextOf_workshopText⟩

end TypeSchema.TypeExpr
