import TypeSchema.Proofs.Pointers
import TypeSchema.Proofs.WellFormedReading

namespace TypeSchema.TypeExpr

open Text

/-- The name of an embedded type. -/
def Part.IsEmbeddedName (p : Part) : Prop :=
  p.embedded = true ∧ ∃ path name, p.type = .ident path name

def FieldsFrom (P : TypeExpr → Prop) (fields : List (Field TypeExpr)) : Prop :=
  ∀ f ∈ fields, P f.type ∨ Part.IsEmbeddedName ⟨f.isEmbedded, f.type⟩

/-- Whatever stands directly in the type has `P`, but for the names of embedded types. -/
def BuiltFrom (P : TypeExpr → Prop) (t : TypeExpr) : Prop :=
  ∀ q ∈ t.parts, P q.type ∨ q.IsEmbeddedName

section

variable {P : TypeExpr → Prop}

theorem builtFrom_struct {fields : List (Field TypeExpr)}
    (h : FieldsFrom P fields) : BuiltFrom P (.struct fields) := by
  intro q hq
  obtain ⟨f, hf, rfl⟩ := List.mem_map.mp hq
  exact h f hf

theorem builtFrom_func {params results : List TypeExpr}
    (hparams : ∀ t ∈ params, P t) (hresults : ∀ t ∈ results, P t) :
    BuiltFrom P (.func params results) := by
  intro q hq
  obtain ⟨t, ht, rfl⟩ := List.mem_map.mp hq
  rcases List.mem_append.mp ht with ht | ht
  · exact .inl (hparams t ht)
  · exact .inl (hresults t ht)

theorem fieldsFrom_embeddedField {t : TypeExpr}
    (ht : P t ∨ Part.IsEmbeddedName ⟨true, t⟩) (c : Cursor) :
    Returns (embeddedField t c) fun r => FieldsFrom P r.1 :=
  returns_bind_any fun _ => returns_ok (List.forall_mem_singleton.mpr ht)

variable {sub : Reader Attempt} (hsub : ∀ c, Returns (sub c) fun r => P r.1)
include hsub

theorem fieldsFrom_fieldLine (c : Cursor) :
    Returns (fieldLine sub c) fun r => FieldsFrom P r.1 := by
  refine returns_bind_any fun c => ?_
  split
  · exact returns_error _
  · refine returns_bind_any fun c => ?_
    split
    · refine returns_bind (returns_identOfWord _ fun x => mem_taken) ?_
      rintro _ ⟨path, name, rfl, -⟩
      exact fieldsFrom_embeddedField (.inr ⟨rfl, path, name, rfl⟩) _
    · refine returns_bind_any fun r => ?_
      dsimp only
      split
      · refine returns_bind (hsub _) ?_
        rintro ⟨type, c'⟩ htype
        refine returns_bind_any fun r' => returns_ok ?_
        intro f hf
        obtain ⟨name, -, rfl⟩ := List.mem_map.mp hf
        exact .inl htype
      · exact returns_error _

theorem fieldsFrom_structFields (turns : Nat) (c : Cursor) :
    Returns (structFields sub turns c) fun r => FieldsFrom P r.1 := by
  induction turns generalizing c with
  | zero => exact returns_error _
  | succ turns ih =>
    have hmore : ∀ line : List (Field TypeExpr), FieldsFrom P line → ∀ c',
        Returns (structFields sub turns c' >>= fun r => .ok (line ++ r.1, r.2))
          fun r => FieldsFrom P r.1 := by
      intro line hline c'
      refine returns_bind (ih c') ?_
      rintro ⟨fields, c'⟩ hfields
      exact returns_ok (List.forall_mem_append.mpr ⟨hline, hfields⟩)
    refine returns_bind_any fun c => ?_
    dsimp only
    split
    · exact returns_error _
    split
    · exact returns_bind_any fun c => returns_ok (List.forall_mem_nil _)
    split
    · exact returns_bind_any fun c => ih c
    split
    · refine returns_bind (hsub _) ?_
      rintro ⟨type, c'⟩ htype
      refine returns_bind (fieldsFrom_embeddedField (.inl htype) c') ?_
      rintro ⟨field, c'⟩ hfield
      exact hmore field hfield c'
    · refine returns_bind (fieldsFrom_fieldLine hsub _) ?_
      rintro ⟨line, c'⟩ hline
      exact hmore line hline c'

theorem forall_mem_moreTypes (turns : Nat) (c : Cursor) :
    Returns (moreTypes sub turns c) fun r => ∀ t ∈ r.1, P t := by
  induction turns generalizing c with
  | zero => exact returns_error _
  | succ turns ih =>
    refine returns_bind (hsub c) ?_
    rintro ⟨type, c'⟩ htype
    refine returns_bind_any fun c' => ?_
    split
    · exact returns_bind_any fun c' => returns_ok (List.forall_mem_singleton.mpr htype)
    · refine returns_bind_any fun c' => returns_bind (ih c') ?_
      rintro ⟨types, c'⟩ htypes
      exact returns_ok (List.forall_mem_cons.mpr ⟨htype, htypes⟩)

theorem forall_mem_typeList (c : Cursor) :
    Returns (typeList sub c) fun r => ∀ t ∈ r.1, P t := by
  refine returns_bind_any fun c' => returns_bind_any fun c' => ?_
  split
  · exact returns_bind_any fun c' => returns_ok (List.forall_mem_nil _)
  · exact forall_mem_moreTypes hsub _ _

theorem builtFrom_funcSignature (c : Cursor) :
    Returns (funcSignature sub c) fun r => BuiltFrom P r.1 := by
  refine returns_bind (forall_mem_typeList hsub c) ?_
  rintro ⟨params, c'⟩ hparams
  have hnone := builtFrom_func hparams (List.forall_mem_nil P)
  refine returns_bind_any fun c' => ?_
  dsimp only
  split
  · exact returns_ok hnone
  · split
    · refine returns_bind (forall_mem_typeList hsub _) ?_
      rintro ⟨results, c'⟩ hresults
      exact returns_ok (builtFrom_func hparams hresults)
    · split
      · refine returns_bind (hsub _) ?_
        rintro ⟨result, c'⟩ hresult
        exact returns_ok (builtFrom_func hparams (List.forall_mem_singleton.mpr hresult))
      · exact returns_ok hnone

theorem builtFrom_mapType (c : Cursor) :
    Returns (mapType sub c) fun r => BuiltFrom P r.1 := by
  refine returns_bind_any fun c' => returns_bind (hsub c') ?_
  rintro ⟨key, c'⟩ hkey
  refine returns_bind_any fun c' => returns_bind (hsub c') ?_
  rintro ⟨value, c'⟩ hvalue
  exact returns_ok (List.forall_mem_cons.mpr
    ⟨.inl hkey, List.forall_mem_singleton.mpr (.inl hvalue)⟩)

theorem builtFrom_arrayType (c : Cursor) :
    Returns (arrayType sub c) fun r => BuiltFrom P r.1 := by
  refine returns_bind_any fun c' => returns_bind_any fun c' => returns_bind_any fun c' => ?_
  refine returns_bind (hsub c') ?_
  rintro ⟨element, c'⟩ helement
  exact returns_ok (List.forall_mem_singleton.mpr (.inl helement))

theorem builtFrom_wordType (start : Cursor) {word : List Char}
    (hw : ∀ c ∈ word, isWordChar c = true) (c : Cursor) :
    Returns (wordType sub start word c) fun r => BuiltFrom P r.1 := by
  unfold wordType
  split
  · exact builtFrom_mapType hsub c
  · refine returns_bind_any fun c' => returns_bind (fieldsFrom_structFields hsub _ c') ?_
    rintro ⟨fields, c'⟩ hfields
    exact returns_ok (builtFrom_struct hfields)
  · exact returns_bind_any fun c' => returns_bind_any fun c' =>
      returns_ok (List.forall_mem_nil _)
  · exact builtFrom_funcSignature hsub c
  · refine returns_bind (hsub c) ?_
    rintro ⟨message, c'⟩ hmessage
    exact returns_ok (List.forall_mem_singleton.mpr (.inl hmessage))
  · refine returns_bind (returns_identOfWord start hw) ?_
    rintro _ ⟨path, name, rfl, -⟩
    exact returns_ok (List.forall_mem_nil _)

/-- A type is built from types that the reader of nested types returns. -/
theorem builtFrom_nestedType (c : Cursor) :
    Returns (nestedType sub c) fun r => BuiltFrom P r.1 := by
  refine returns_bind_any fun start => ?_
  dsimp only
  split
  · exact returns_error _
  split
  · refine returns_bind_any fun c' => returns_bind (hsub c') ?_
    rintro ⟨target, c'⟩ htarget
    exact returns_ok (List.forall_mem_singleton.mpr (.inl htarget))
  split
  · exact returns_bind_any fun c' => builtFrom_arrayType hsub c'
  split
  · exact returns_bind_any fun c' => builtFrom_wordType hsub start (fun x => mem_taken) c'
  · exact returns_error _

end

/-- Nothing stands below this level, but for names of embedded types on the next one. -/
def StaysWithin (levels : Nat) (t : TypeExpr) : Prop :=
  ∀ embedded level q, Part.Holds ⟨embedded, t⟩ level q →
    level ≤ levels ∨ level = levels + 1 ∧ q.IsEmbeddedName

theorem holds_embeddedName {p q : Part} {level : Nat} (hp : p.IsEmbeddedName)
    (h : p.Holds level q) : level = 1 ∧ q = p := by
  cases h with
  | self => exact ⟨rfl, rfl⟩
  | part hmem _ =>
    obtain ⟨-, path, name, htype⟩ := hp
    rw [htype] at hmem
    cases hmem

theorem staysWithin_succ {levels : Nat} {t : TypeExpr} (h : BuiltFrom (StaysWithin levels) t) :
    StaysWithin (levels + 1) t := by
  intro embedded level q hq
  cases hq with
  | self => exact .inl (Nat.le_add_left 1 levels)
  | @part _ p _ level hmem hq =>
    rcases h p hmem with hp | hname
    · rcases hp p.embedded level q hq with hle | ⟨heq, hname⟩
      · exact .inl (Nat.succ_le_succ hle)
      · exact .inr ⟨congrArg (· + 1) heq, hname⟩
    · obtain ⟨rfl, rfl⟩ := holds_embeddedName hname hq
      rcases Nat.eq_zero_or_pos levels with rfl | hpos
      · exact .inr ⟨rfl, hname⟩
      · exact .inl (Nat.succ_le_succ hpos)

theorem staysWithin_parseType (allowance : Nat) (c : Cursor) :
    Returns (parseType allowance c) fun r => StaysWithin allowance r.1 := by
  induction allowance generalizing c with
  | zero => exact returns_error _
  | succ allowance ih => exact fun r hr => staysWithin_succ (builtFrom_nestedType ih c r hr)

theorem staysWithin_of_parse {src : String} {t : TypeExpr} (h : parse src = .ok t) :
    StaysWithin maxNesting t := by
  have hread : Returns (parse src) (StaysWithin maxNesting) := by
    refine returns_bind (staysWithin_parseType maxNesting _) ?_
    rintro ⟨type, c⟩ htype
    refine returns_bind_any fun c => ?_
    split
    · exact returns_ok htype
    · exact returns_error _
  exact hread t h

/-- What is read is at most 256 levels high, unless the name of an embedded type stands on level
257. Nothing else stands there, and nothing stands below. -/
theorem height_of_parse {src : String} {t : TypeExpr} (h : parse src = .ok t) :
    t.height ≤ 257 ∧
      (t.height ≤ 256 ↔ ¬ ∃ path name, Part.Holds ⟨false, t⟩ 257 ⟨true, .ident path name⟩) ∧
      ∀ level q, Part.Holds ⟨false, t⟩ level q →
        level ≤ 256 ∨ level = 257 ∧ q.embedded = true ∧ ∃ path name, q.type = .ident path name := by
  have hwithin : ∀ level q, Part.Holds ⟨false, t⟩ level q →
      level ≤ 256 ∨ level = 257 ∧ q.IsEmbeddedName := staysWithin_of_parse h false
  obtain ⟨last, hlast⟩ := exists_holds_height ⟨false, t⟩
  have hheight : t.height ≤ 256 ∨ t.height = 257 ∧ last.IsEmbeddedName := hwithin _ _ hlast
  refine ⟨by omega, ⟨?_, ?_⟩, hwithin⟩
  · rintro hle ⟨path, name, hname⟩
    have hlevel := hname.level_add_height_le
    simp only [height] at hlevel
    omega
  · intro hnone
    rcases hheight with hle | ⟨heq, he, path, name, htype⟩
    · exact hle
    · obtain ⟨embedded, type⟩ := last
      obtain rfl : embedded = true := he
      obtain rfl : type = .ident path name := htype
      exact absurd ⟨path, name, heq ▸ hlast⟩ hnone

/-- Each star takes one level of the allowance. -/
theorem parseType_stars (n allowance offset : Nat) (cs : List Char) :
    (parseType (allowance + n) ⟨offset, List.replicate n '*' ++ cs⟩ : Attempt _) =
      (parseType allowance ⟨offset + n, cs⟩ : Attempt _).map fun r => (r.1.pointers n, r.2) := by
  induction n generalizing offset with
  | zero =>
    cases hr : (parseType allowance ⟨offset, cs⟩ : Attempt _) <;> simp [hr, Except.map, pointers]
  | succ n ih =>
    have hskip : (⟨offset, List.replicate (n + 1) '*' ++ cs⟩ : Cursor).skipBlanks =
        ⟨offset, '*' :: (List.replicate n '*' ++ cs)⟩ :=
      Cursor.skipWhile_of_stops (stops_cons (by decide))
    rw [← Nat.add_assoc allowance n 1, parseType, nestedType, Scanner.skipBlanks_bind, hskip]
    simp only [Cursor.head?, List.head?_cons, if_true, Scanner.next_bind, Cursor.next]
    rw [show offset + '*'.utf8Size = offset + 1 from rfl, ih (offset + 1),
      show offset + 1 + n = offset + (n + 1) by omega]
    cases (parseType allowance ⟨offset + (n + 1), cs⟩ : Attempt _) <;> rfl

theorem height_pointers (t : TypeExpr) (n : Nat) : (t.pointers n).height = t.height + n := by
  induction n with
  | zero => rfl
  | succ n ih => rw [pointers, height, ih, Nat.add_assoc]

/-- A struct on the last level that is allowed, with an embedded type. -/
def lastLevelStruct : TypeExpr := (struct [⟨"", .ident "" "A", none⟩]).pointers 255

theorem parse_lastLevelStruct :
    parse (starred 255 "struct\x7bA\x7d") = .ok lastLevelStruct := by
  have hstruct : (parseType 1 ⟨255, "struct\x7bA\x7d".toList⟩ : Attempt _) =
      .ok (.struct [⟨"", .ident "" "A", none⟩], ⟨264, []⟩) := by decide +kernel
  have hstars := parseType_stars 255 1 0 "struct\x7bA\x7d".toList
  rw [Nat.zero_add, hstruct] at hstars
  rw [parse, parseChars, starred, String.toList_append, String.toList_ofList]
  exact congrArg (· >>= _) hstars

theorem height_of_parse_lastLevelStruct :
    parse (starred 255 "struct\x7bA\x7d") = .ok lastLevelStruct ∧
      ∃ path name, Part.Holds ⟨false, lastLevelStruct⟩ 257 ⟨true, .ident path name⟩ := by
  refine ⟨parse_lastLevelStruct, ?_⟩
  by_contra hnone
  have hle := (height_of_parse parse_lastLevelStruct).2.1.mpr hnone
  rw [lastLevelStruct, height_pointers] at hle
  exact absurd hle (by decide)

/-- The type that a struct on the last level embeds stands below it. -/
theorem height_lastLevelStruct :
    parse (starred 255 "struct\x7bA\x7d") = .ok lastLevelStruct ∧
      ¬ lastLevelStruct.height ≤ 256 := by
  refine ⟨parse_lastLevelStruct, ?_⟩
  rw [lastLevelStruct, height_pointers]
  decide

/-- Behind a star the embedded type would take a level of its own, and there is none left. -/
example : (parseType 1 (.start "struct\x7b*A\x7d".toList) : Attempt _) =
    .error ⟨7, .tooDeep⟩ := by
  decide +kernel

end TypeSchema.TypeExpr
