import TypeSchema.Proofs.Boundaries
import TypeSchema.TypeExpr.Printer

namespace TypeSchema

open Text

namespace TypeExpr

/-- The module paths whose short names can stand in a text. -/
def isModulePath (path : String) : Bool :=
  path.toList.all isWordChar && (shortModuleName path).toList.head?.any isIdentifierStart

theorem toList_shortModuleName (path : String) :
    (shortModuleName path).toList = (path.toList.reverse.takeWhile (· ≠ '/')).reverse := by
  rw [shortModuleName, String.toList_ofList]

theorem mem_of_mem_shortModuleName {path : String} {c : Char}
    (hc : c ∈ (shortModuleName path).toList) : c ∈ path.toList := by
  rw [toList_shortModuleName, List.mem_reverse] at hc
  exact List.mem_reverse.1 ((List.takeWhile_prefix _).subset hc)

theorem shortModuleName_empty : shortModuleName "" = "" := by
  decide

/-- A short name has no slash to cut it at. -/
theorem shortModuleName_shortModuleName (path : String) :
    shortModuleName (shortModuleName path) = shortModuleName path := by
  have hself : ((shortModuleName path).toList.reverse).takeWhile (· ≠ '/') =
      (shortModuleName path).toList.reverse := by
    rw [toList_shortModuleName, List.reverse_reverse, List.takeWhile_idem]
  rw [shortModuleName, hself, List.reverse_reverse, String.ofList_toList]

theorem isPathText_shortModuleName {path : String} (h : isModulePath path = true) :
    isPathText (shortModuleName path) = true := by
  rw [isModulePath, Bool.and_eq_true, List.all_eq_true] at h
  rw [isPathText, isTypeWord, h.2, Bool.true_and, List.all_eq_true]
  exact fun c hc => h.1 c (mem_of_mem_shortModuleName hc)

theorem isEmpty_shortModuleName {path : String} (h : isModulePath path = true) :
    (shortModuleName path).isEmpty = false := by
  rw [isModulePath, Bool.and_eq_true] at h
  rw [Bool.eq_false_iff, Ne, String.isEmpty_iff]
  intro hempty
  rw [hempty] at h
  exact absurd h.2 (by decide)

theorem identChars_shortModuleName {path : String} (name : String)
    (h : path.isEmpty = false → isModulePath path = true) :
    identChars (shortModuleName path) name = identChars path name := by
  by_cases hp : path.isEmpty = true
  · rw [String.isEmpty_iff.1 hp, shortModuleName_empty]
  · have hshort := isEmpty_shortModuleName (h (Bool.eq_false_iff.2 hp))
    rw [identChars, identChars, if_neg hp, if_neg (by rw [hshort]; decide),
      shortModuleName_shortModuleName]

/-- An identifier is printed as it is spelled with the short name of its module path. -/
theorem identChars_eq {path : String} (name : String)
    (h : path.isEmpty = false → isModulePath path = true) :
    identChars path name = wordChars (shortModuleName path) name := by
  by_cases hp : path.isEmpty = true
  · rw [String.isEmpty_iff.1 hp, identChars, wordChars, shortModuleName_empty]
  · have hshort := isEmpty_shortModuleName (h (Bool.eq_false_iff.2 hp))
    rw [identChars, wordChars, if_neg hp, if_neg (by rw [hshort]; decide)]

theorem fieldChars_tag (tag : Option String) :
    ∃ gs, SpellsTag tag gs ∧
      ∀ name type, fieldChars name type tag = fieldChars name type none ++ gs := by
  cases tag with
  | none =>
    refine ⟨[], .none, fun name type => ?_⟩
    rw [List.append_nil]
  | some tag =>
    refine ⟨[' '] ++ '\x60' :: tag.toList ++ ['\x60'], .some tag inlineBlanks_space, ?_⟩
    intro name type
    simp only [fieldChars, List.append_nil, List.cons_append, List.nil_append]

theorem fieldChars_embedded (type : List Char) : fieldChars "" type none = type := by
  simp [fieldChars]

theorem fieldChars_named {name : String} (h : name.isEmpty = false) (type : List Char) :
    fieldChars name type none = name.toList ++ ' ' :: type := by
  simp [fieldChars, h]

/-- A printed field is spelled when a semicolon or the closing brace follows it. -/
theorem spellsFields_cons {name : String} {t : TypeExpr} {tag : Option String}
    {fields : List (Field TypeExpr)} {e : Ending} {b ts cs : List Char} {x : Char} (hb : Blanks b)
    (ht : Spells t e ts) (hname : name.isEmpty = true → t.isEmbeddable = true)
    (hfs : SpellsFields fields (x :: cs)) (hx : x = ';' ∨ x = '}') :
    SpellsFields (⟨name, t, tag⟩ :: fields) (b ++ fieldChars name ts tag ++ x :: cs) := by
  have hallows : e.Allows (x :: cs) := by
    rcases hx with rfl | rfl
    · exact e.allows_blanks blanks_nil (by decide) (by decide) (by decide)
    · exact e.allows_blanks blanks_nil (by decide) (by decide) (by decide)
  have hends : EndsLine (x :: cs) := by
    rcases hx with rfl | rfl
    · exact ⟨';', by decide, rfl⟩
    · exact ⟨'}', by decide, rfl⟩
  obtain ⟨gs, htag, htext⟩ := fieldChars_tag tag
  rw [htext, ← List.append_assoc]
  by_cases hempty : name.isEmpty = true
  · -- Only an identifier and a pointer may stand without a name.
    have hembeddable := hname hempty
    obtain rfl := String.isEmpty_iff.1 hempty
    rw [fieldChars_embedded]
    cases ht with
    | ident path name => exact .embedded hb htag (fun _ => hends) hfs
    | pointer hb₁ ht₁ => exact .starred hb (.pointer hb₁ ht₁) htag (fun _ => hallows) hfs
    | _ => exact absurd hembeddable (by simp [isEmbeddable])
  · have hne : ∀ n ∈ [name], n ≠ "" := by
      intro n hn heq
      rw [List.mem_singleton.1 hn] at heq
      exact hempty (String.isEmpty_iff.2 heq)
    have hline := SpellsFields.named hb hne .nil inlineBlanks_space ht (stops_cons (by decide)) htag
      (fun _ => hallows) hfs
    rw [fieldChars_named (Bool.eq_false_iff.2 hempty)]
    simpa using hline

theorem separated_cons_cons (separator item next : List Char) (items : List (List Char)) :
    separated separator (item :: next :: items) =
      item ++ separator ++ separated separator (next :: items) :=
  rfl

theorem spellsList_chars {types : List TypeExpr}
    (h : types ≠ [] → SpellsTypes (mapTypePaths shortModuleName types)
      (separated [',', ' '] (typeTexts types) ++ [')'])) :
    SpellsList (mapTypePaths shortModuleName types)
      ('(' :: (separated [',', ' '] (typeTexts types) ++ [')'])) := by
  cases types with
  | nil => exact .nil blanks_nil
  | cons t types => exact .types (b := []) blanks_nil (h (List.cons_ne_nil _ _))

theorem chars_map (key value : TypeExpr) :
    (map key value).chars = "map".toList ++ '[' :: (key.chars ++ ']' :: value.chars) :=
  rfl

theorem chars_struct (fields : List (Field TypeExpr)) :
    (struct fields).chars =
      "struct".toList ++ '{' :: (separated [';', ' '] (fieldTexts fields) ++ ['}']) :=
  rfl

theorem chars_interface : interface.chars = "interface".toList ++ ['{', '}'] :=
  rfl

theorem chars_func (params results : List TypeExpr) :
    (func params results).chars = "func".toList ++ '(' ::
      (separated [',', ' '] (typeTexts params) ++ ')' :: resultsChars (typeTexts results)) :=
  rfl

theorem chars_chan (message : TypeExpr) :
    (chan message).chars = "chan".toList ++ ' ' :: message.chars :=
  rfl

theorem isEmbeddable_of_unnamed {name : String} {type : TypeExpr}
    (h : (if name.isEmpty = true then type.isEmbeddable else isIdentifier name.toList) = true) :
    name.isEmpty = true → (type.mapPaths shortModuleName).isEmbeddable = true := by
  intro hempty
  rw [if_pos hempty] at h
  rw [isEmbeddable_mapPaths, h]

mutual

theorem spells_chars : ∀ (t : TypeExpr) {embedded : Bool},
    t.wellFormed isModulePath embedded = true →
      ∃ e, Spells (t.mapPaths shortModuleName) e t.chars
  | ident path name, embedded, h => by
    obtain ⟨-, hp, -⟩ := wellFormed_ident h
    have hident := Spells.ident (shortModuleName path) name
    rw [← identChars_eq name hp] at hident
    exact ⟨_, hident⟩
  | pointer target, embedded, h => by
    rw [wellFormed] at h
    obtain ⟨e, ht⟩ := spells_chars target h
    exact ⟨e, .pointer (b := []) blanks_nil ht⟩
  | array element, embedded, h => by
    rw [wellFormed] at h
    obtain ⟨e, ht⟩ := spells_chars element h
    have hdigits : Digits [] := List.forall_mem_nil _
    have harray := Spells.array blanks_nil hdigits blanks_nil blanks_nil ht
    exact ⟨e, harray⟩
  | map key value, embedded, h => by
    rw [wellFormed, Bool.and_eq_true] at h
    obtain ⟨d, hk⟩ := spells_chars key h.1
    obtain ⟨e, hv⟩ := spells_chars value h.2
    have hmap := Spells.map blanks_nil blanks_nil hk blanks_nil blanks_nil hv
    rw [chars_map, mapPaths]
    simp only [List.append_assoc, List.cons_append, List.nil_append, List.append_nil] at hmap ⊢
    exact ⟨e, hmap⟩
  | struct fields, embedded, h => by
    rw [wellFormed] at h
    have hstruct := Spells.struct blanks_nil (spellsFields_chars fields h blanks_nil)
    rw [chars_struct, mapPaths]
    simp only [List.append_assoc, List.nil_append] at hstruct ⊢
    exact ⟨_, hstruct⟩
  | interface, embedded, h => by
    rw [chars_interface, mapPaths]
    exact ⟨_, .interface (b := []) blanks_nil .nil⟩
  | func params [], embedded, h => by
    rw [wellFormed, Bool.and_eq_true] at h
    have hfunc := Spells.func blanks_nil (spellsList_chars (spellsTypes_chars params h.1))
    rw [chars_func, mapPaths, typeTexts, resultsChars, mapTypePaths]
    simp only [List.append_assoc, List.nil_append] at hfunc ⊢
    exact ⟨_, hfunc⟩
  | func params [result], embedded, h => by
    simp only [wellFormed, wellFormedTypes, Bool.and_true, Bool.and_eq_true] at h
    obtain ⟨e, hr⟩ := spells_chars result h.2
    have hfunc := Spells.funcResult blanks_nil (spellsList_chars (spellsTypes_chars params h.1))
      inlineBlanks_space hr
    rw [chars_func, mapPaths]
    simp only [typeTexts, resultsChars, mapTypePaths, List.append_assoc, List.cons_append,
      List.nil_append] at hfunc ⊢
    exact ⟨e, hfunc⟩
  | func params (r :: s :: results), embedded, h => by
    rw [wellFormed, Bool.and_eq_true] at h
    have hfunc := Spells.funcResults blanks_nil (spellsList_chars (spellsTypes_chars params h.1))
      inlineBlanks_space (spellsList_chars (spellsTypes_chars (r :: s :: results) h.2))
    rw [chars_func, mapPaths]
    simp only [typeTexts, resultsChars, List.append_assoc, List.cons_append,
      List.nil_append] at hfunc ⊢
    exact ⟨_, hfunc⟩
  | chan message, embedded, h => by
    rw [wellFormed] at h
    obtain ⟨e, ht⟩ := spells_chars message h
    have hchan := Spells.chan inlineBlanks_space.blanks ht (stops_cons (by decide))
    rw [chars_chan, mapPaths]
    exact ⟨e, hchan⟩

theorem spellsFields_chars : ∀ (fields : List (Field TypeExpr)),
    wellFormedFields isModulePath fields = true → ∀ {b : List Char}, Blanks b →
      SpellsFields (mapFieldPaths shortModuleName fields)
        (b ++ separated [';', ' '] (fieldTexts fields) ++ ['}'])
  | [], _, b, hb => by
    rw [fieldTexts, separated, List.append_nil]
    exact .nil hb
  | [⟨name, type, tag⟩], h, b, hb => by
    rw [wellFormedFields, Bool.and_eq_true, Bool.and_eq_true, Bool.and_eq_true] at h
    obtain ⟨e, ht⟩ := spells_chars type h.1.1.2
    have hlast := SpellsFields.nil blanks_nil
    have hname := isEmbeddable_of_unnamed h.1.1.1
    exact spellsFields_cons hb ht hname hlast (.inr rfl)
  | ⟨name, type, tag⟩ :: f :: fields, h, b, hb => by
    rw [wellFormedFields, Bool.and_eq_true, Bool.and_eq_true, Bool.and_eq_true] at h
    obtain ⟨e, ht⟩ := spells_chars type h.1.1.2
    have hmore := SpellsFields.semicolon blanks_nil
      (spellsFields_chars (f :: fields) h.2 inlineBlanks_space.blanks)
    have hname := isEmbeddable_of_unnamed h.1.1.1
    have hfields : SpellsFields (⟨name, type.mapPaths shortModuleName, tag⟩ :: _) _ :=
      spellsFields_cons hb ht hname hmore (.inl rfl)
    obtain ⟨name', type', tag'⟩ := f
    rw [fieldTexts, fieldTexts, separated_cons_cons, mapFieldPaths]
    rw [fieldTexts] at hfields
    simp only [List.append_assoc, List.cons_append, List.nil_append] at hfields ⊢
    exact hfields

theorem spellsTypes_chars : ∀ (types : List TypeExpr), wellFormedTypes isModulePath types = true →
    types ≠ [] → SpellsTypes (mapTypePaths shortModuleName types)
      (separated [',', ' '] (typeTexts types) ++ [')'])
  | [], _, h => absurd rfl h
  | [t], h, _ => by
    rw [wellFormedTypes, Bool.and_eq_true] at h
    obtain ⟨e, ht⟩ := spells_chars t h.1
    have hlast := SpellsTypes.last ht blanks_nil
    rw [List.append_nil] at hlast
    exact hlast
  | t :: u :: types, h, _ => by
    rw [wellFormedTypes, Bool.and_eq_true] at h
    obtain ⟨e, ht⟩ := spells_chars t h.1
    have hmore := spellsTypes_chars (u :: types) h.2 (List.cons_ne_nil _ _)
    have htypes := SpellsTypes.cons ht blanks_nil inlineBlanks_space.blanks hmore
    rw [typeTexts, typeTexts, separated_cons_cons, mapTypePaths]
    rw [typeTexts] at htypes
    simp only [List.append_assoc, List.cons_append, List.nil_append] at htypes ⊢
    exact htypes

end

mutual

/-- A text shows the short names of the module paths only. -/
theorem chars_mapPaths : ∀ (t : TypeExpr) {embedded : Bool},
    t.wellFormed isModulePath embedded = true → (t.mapPaths shortModuleName).chars = t.chars
  | ident path name, _, h => identChars_shortModuleName name (wellFormed_ident h).2.1
  | pointer target, _, h => congrArg ('*' :: ·) (chars_mapPaths target h)
  | array element, _, h => congrArg ('[' :: ']' :: ·) (chars_mapPaths element h)
  | map key value, _, h => by
    rw [wellFormed, Bool.and_eq_true] at h
    rw [mapPaths, chars_map, chars_map, chars_mapPaths key h.1, chars_mapPaths value h.2]
  | struct fields, _, h => by
    rw [wellFormed] at h
    rw [mapPaths, chars_struct, chars_struct, fieldTexts_mapFieldPaths fields h]
  | interface, _, _ => rfl
  | func params results, _, h => by
    rw [wellFormed, Bool.and_eq_true] at h
    rw [mapPaths, chars_func, chars_func, typeTexts_mapTypePaths params h.1,
      typeTexts_mapTypePaths results h.2]
  | chan message, _, h => by
    rw [wellFormed] at h
    rw [mapPaths, chars_chan, chars_chan, chars_mapPaths message h]

theorem fieldTexts_mapFieldPaths : ∀ fields : List (Field TypeExpr),
    wellFormedFields isModulePath fields = true →
      fieldTexts (mapFieldPaths shortModuleName fields) = fieldTexts fields
  | [], _ => rfl
  | ⟨name, type, tag⟩ :: fields, h => by
    rw [wellFormedFields, Bool.and_eq_true, Bool.and_eq_true, Bool.and_eq_true] at h
    rw [mapFieldPaths, fieldTexts, fieldTexts, chars_mapPaths type h.1.1.2,
      fieldTexts_mapFieldPaths fields h.2]

theorem typeTexts_mapTypePaths : ∀ types : List TypeExpr,
    wellFormedTypes isModulePath types = true →
      typeTexts (mapTypePaths shortModuleName types) = typeTexts types
  | [], _ => rfl
  | type :: types, h => by
    rw [wellFormedTypes, Bool.and_eq_true] at h
    rw [mapTypePaths, typeTexts, typeTexts, chars_mapPaths type h.1,
      typeTexts_mapTypePaths types h.2]

end

end TypeExpr

end TypeSchema
