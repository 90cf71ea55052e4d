import TypeSchema.Proofs.Parts
import TypeSchema.Proofs.Words

namespace TypeSchema.TypeExpr

open Text

/-- `P` holds of what `attempt` returns, if it returns anything. -/
def Returns {α : Type} (attempt : Attempt α) (P : α → Prop) : Prop := ∀ a, attempt = .ok a → P a

section

variable {α β : Type} {P : α → Prop} {Q : β → Prop}

theorem returns_ok {a : α} (h : P a) : Returns (.ok a) P := by
  rintro _ ⟨⟩
  exact h

theorem returns_error (e : ParseError) : Returns (.error e) P := by
  rintro _ ⟨⟩

theorem returns_bind {attempt : Attempt α} {next : α → Attempt β} (h : Returns attempt P)
    (hn : ∀ a, P a → Returns (next a) Q) : Returns (attempt >>= next) Q := by
  cases hr : attempt with
  | error e => exact returns_error e
  | ok a => exact hn a (h a hr)

theorem returns_and {attempt : Attempt α} {P' : α → Prop} (h : Returns attempt P)
    (h' : Returns attempt P') : Returns attempt fun a => P a ∧ P' a :=
  fun a ha => ⟨h a ha, h' a ha⟩

/-- Where nothing is asked of what the first attempt returns. -/
theorem returns_bind_any {attempt : Attempt α} {next : α → Attempt β}
    (hn : ∀ a, Returns (next a) Q) : Returns (attempt >>= next) Q := by
  cases hr : attempt with
  | error e => exact returns_error e
  | ok a => exact hn a

end

/-- The module paths that are read: words, as far as their characters go. -/
def isWordPath (path : String) : Bool := path.toList.all isWordChar

theorem returns_identOfWord (start : Cursor) {word : List Char}
    (hw : ∀ c ∈ word, isWordChar c = true) :
    Returns (identOfWord start word) fun t => ∃ path name, t = .ident path name ∧
      isIdentifier name.toList = true ∧ isWordPath path = true ∧
        (path.isEmpty = true → name = String.ofList word) := by
  unfold identOfWord
  split
  · split
    · next hi =>
      exact returns_ok ⟨"", _, rfl, by rw [String.toList_ofList]; exact hi, by decide,
        fun _ => rfl⟩
    · exact returns_error _
  · next path name hs =>
    split
    · next hi =>
      rw [Bool.and_eq_true, Bool.not_eq_true'] at hi
      have hword := eq_of_splitLast hs
      have hpath : isWordPath (String.ofList path) = true := by
        rw [isWordPath, String.toList_ofList, List.all_eq_true]
        exact fun c hc => hw c (hword ▸ List.mem_append_left _ hc)
      have hne : (String.ofList path).isEmpty = false := by
        rw [Bool.eq_false_iff, Ne, String.isEmpty_iff]
        intro he
        have hnil := congrArg String.toList he
        rw [String.toList_ofList] at hnil
        rw [hnil] at hi
        exact absurd hi.1 (by decide)
      exact returns_ok ⟨_, _, rfl, by rw [String.toList_ofList]; exact hi.2, hpath,
        fun he => by rw [hne] at he; cases he⟩
    · exact returns_error _

theorem wellFormedFields_append {isPath : String → Bool} (fs gs : List (Field TypeExpr)) :
    wellFormedFields isPath (fs ++ gs) =
      (wellFormedFields isPath fs && wellFormedFields isPath gs) := by
  induction fs with
  | nil => rfl
  | cons f fs ih =>
    rw [List.cons_append, wellFormedFields, wellFormedFields, ih]
    simp only [Bool.and_assoc]

theorem isEmpty_of_isIdentifier {name : String} (h : isIdentifier name.toList = true) :
    name.isEmpty = false := by
  rw [Bool.eq_false_iff, Ne, String.isEmpty_iff]
  rintro rfl
  exact absurd h (by decide)

theorem wellFormedFields_names {isPath : String → Bool} {names : List String} {t : TypeExpr}
    {tag : Option String} (hnames : ∀ name ∈ names, isIdentifier name.toList = true)
    (ht : t.wellFormed isPath false = true) (htag : tag.all isTagText = true) :
    wellFormedFields isPath (names.map (⟨·, t, tag⟩)) = true := by
  induction names with
  | nil => rfl
  | cons name names ih =>
    obtain ⟨hname, hmore⟩ := List.forall_mem_cons.mp hnames
    have hempty := isEmpty_of_isIdentifier hname
    rw [List.map_cons, wellFormedFields, hempty, if_neg Bool.false_ne_true, hname, ht, htag,
      ih hmore]
    rfl

/-- No blank is skipped where something else stands. -/
theorem head?_skipBlanks {c : Cursor} {x : Char} (hx : c.head? = some x)
    (hblank : isBlank x = false) : c.skipBlanks.head? = some x := by
  obtain ⟨offset, rest⟩ := c
  cases rest with
  | nil => cases hx
  | cons y rest =>
    obtain rfl : y = x := Option.some.inj hx
    have hrest : (y :: rest).dropWhile isBlank = y :: rest :=
      List.dropWhile_cons_of_neg (by rw [hblank]; decide)
    simp only [Cursor.skipBlanks, Cursor.skipWhile, Cursor.head?, hrest, List.head?_cons]

theorem mem_taken {p : Char → Bool} {c : Cursor} {x : Char} (hx : x ∈ c.taken p) : p x = true :=
  List.mem_takeWhile_imp hx

theorem returns_fieldTag (c : Cursor) :
    Returns (fieldTag c) fun r => r.1.all isTagText = true := by
  refine returns_bind_any fun c => ?_
  split
  · refine returns_bind_any fun start => returns_bind_any fun c => ?_
    split
    · exact returns_error _
    · refine returns_bind_any fun c => returns_ok ?_
      have htag : '\x60' ∉ start.taken (· ≠ '\x60') := fun hx => by
        simpa using mem_taken hx
      simpa [isTagText] using htag
  · exact returns_ok rfl

theorem returns_embeddedField {t : TypeExpr} (he : t.isEmbeddable = true)
    (ht : t.wellFormed isWordPath true = true) (c : Cursor) :
    Returns (embeddedField t c) fun r => wellFormedFields isWordPath r.1 = true := by
  refine returns_bind (returns_fieldTag c) ?_
  rintro ⟨tag, c⟩ htag
  refine returns_ok ?_
  have hempty : "".isEmpty = true := by decide
  rw [wellFormedFields, hempty, if_pos rfl, he, ht, htag]
  rfl

theorem returns_moreNames (turns : Nat) (c : Cursor) :
    Returns (moreNames turns c) fun r => ∀ name ∈ r.1, isIdentifier name.toList = true := by
  induction turns generalizing c with
  | zero => exact returns_ok (List.forall_mem_nil _)
  | succ turns ih =>
    refine returns_bind_any fun c => ?_
    split
    · refine returns_bind_any fun c => returns_bind_any fun start => returns_bind_any fun c => ?_
      split
      · next hname =>
        refine returns_bind (ih _) ?_
        rintro ⟨names, c⟩ hnames
        refine returns_ok (List.forall_mem_cons.mpr ⟨?_, hnames⟩)
        rw [String.toList_ofList]
        exact hname
      · exact returns_error _
    · exact returns_ok (List.forall_mem_nil _)

/-- The types that a reader of nested types returns are well formed, and pointers where a star
stands. -/
structure ReadsTypes (sub : Reader Attempt) : Prop where
  wellFormed : ∀ c, Returns (sub c) fun r => r.1.wellFormed isWordPath false = true
  isPointer : ∀ c, c.head? = some '*' → Returns (sub c) fun r => r.1.isPointer = true

theorem embeddable_of_isPointer {t : TypeExpr} (hp : t.isPointer = true)
    (ht : t.wellFormed isWordPath false = true) :
    t.isEmbeddable = true ∧ t.wellFormed isWordPath true = true := by
  cases t with
  | pointer target => exact ⟨rfl, ht⟩
  | _ => cases hp

section

variable {sub : Reader Attempt}

theorem returns_fieldLine (hsub : ReadsTypes sub) (c : Cursor) :
    Returns (fieldLine sub c) fun r => wellFormedFields isWordPath r.1 = true := by
  refine returns_bind_any fun c => ?_
  split
  · exact returns_error _
  · refine returns_bind_any fun c => ?_
    split
    · refine returns_bind (returns_identOfWord _ fun x => mem_taken) ?_
      rintro _ ⟨path, name, rfl, hname, hpath, -⟩
      -- A keyword may name an embedded type, so the word itself does not matter here.
      refine returns_embeddedField rfl ?_ _
      rw [wellFormed, hname, hpath]
      simp
    · refine returns_bind (returns_moreNames _ _) ?_
      rintro ⟨names, c'⟩ hnames
      dsimp only
      split
      · next hword =>
        refine returns_bind (hsub.wellFormed c') ?_
        rintro ⟨type, c'⟩ htype
        refine returns_bind (returns_fieldTag c') ?_
        rintro ⟨tag, c'⟩ htag
        refine returns_ok (wellFormedFields_names ?_ htype htag)
        refine List.forall_mem_cons.mpr ⟨?_, hnames⟩
        rw [String.toList_ofList]
        exact hword
      · exact returns_error _

theorem returns_structFields (hsub : ReadsTypes sub) (turns : Nat) (c : Cursor) :
    Returns (structFields sub turns c) fun r => wellFormedFields isWordPath r.1 = true := by
  induction turns generalizing c with
  | zero => exact returns_error _
  | succ turns ih =>
    have hmore : ∀ line, wellFormedFields isWordPath line = true → ∀ c',
        Returns (structFields sub turns c' >>= fun r => .ok (line ++ r.1, r.2))
          fun r => wellFormedFields isWordPath r.1 = true := by
      intro line hline c'
      refine returns_bind (ih c') ?_
      rintro ⟨fields, c'⟩ hfields
      refine returns_ok ?_
      rw [wellFormedFields_append, hline, hfields]
      rfl
    refine returns_bind_any fun c => ?_
    dsimp only
    split
    · exact returns_error _
    next x hx =>
    split
    · exact returns_bind_any fun c => returns_ok rfl
    split
    · exact returns_bind_any fun c => ih c
    split
    · next hstar =>
      refine returns_bind (returns_and (hsub.wellFormed c) (hsub.isPointer c (hstar ▸ hx))) ?_
      rintro ⟨type, c'⟩ ⟨htype, hpointer⟩
      obtain ⟨he, hw⟩ := embeddable_of_isPointer hpointer htype
      refine returns_bind (returns_embeddedField he hw c') ?_
      rintro ⟨field, c'⟩ hfield
      exact hmore field hfield c'
    · refine returns_bind (returns_fieldLine hsub _) ?_
      rintro ⟨line, c'⟩ hline
      exact hmore line hline c'

theorem returns_structBody (hsub : ReadsTypes sub) (c : Cursor) :
    Returns (structBody sub c) fun r => r.1.wellFormed isWordPath false = true := by
  refine returns_bind_any fun c' => ?_
  refine returns_bind (returns_structFields hsub _ c') ?_
  rintro ⟨fields, c'⟩ hfields
  exact returns_ok hfields

theorem returns_moreTypes (hsub : ReadsTypes sub) (turns : Nat) (c : Cursor) :
    Returns (moreTypes sub turns c) fun r => wellFormedTypes isWordPath r.1 = true := by
  induction turns generalizing c with
  | zero => exact returns_error _
  | succ turns ih =>
    refine returns_bind (hsub.wellFormed c) ?_
    rintro ⟨type, c'⟩ htype
    dsimp only at htype ⊢
    refine returns_bind_any fun c' => ?_
    split
    · refine returns_bind_any fun c' => returns_ok ?_
      rw [wellFormedTypes, htype]
      rfl
    · refine returns_bind_any fun c' => returns_bind (ih c') ?_
      rintro ⟨types, c'⟩ htypes
      refine returns_ok ?_
      rw [wellFormedTypes, htype, htypes]
      rfl

theorem returns_typeList (hsub : ReadsTypes sub) (c : Cursor) :
    Returns (typeList sub c) fun r => wellFormedTypes isWordPath r.1 = true := by
  refine returns_bind_any fun c' => returns_bind_any fun c' => ?_
  split
  · exact returns_bind_any fun c' => returns_ok rfl
  · exact returns_moreTypes hsub _ _

theorem returns_funcSignature (hsub : ReadsTypes sub) (c : Cursor) :
    Returns (funcSignature sub c) fun r => r.1.wellFormed isWordPath false = true := by
  refine returns_bind (returns_typeList hsub c) ?_
  rintro ⟨params, c'⟩ hparams
  have hfunc : ∀ results, wellFormedTypes isWordPath results = true →
      (func params results).wellFormed isWordPath false = true := by
    intro results hresults
    rw [wellFormed, hparams, hresults]
    rfl
  refine returns_bind_any fun c' => ?_
  dsimp only
  split
  · exact returns_ok (hfunc [] rfl)
  · split
    · refine returns_bind (returns_typeList hsub _) ?_
      rintro ⟨results, c'⟩ hresults
      exact returns_ok (hfunc results hresults)
    · split
      · refine returns_bind (hsub.wellFormed _) ?_
        rintro ⟨result, c'⟩ hresult
        refine returns_ok (hfunc [result] ?_)
        rw [wellFormedTypes, hresult]
        rfl
      · exact returns_ok (hfunc [] rfl)

theorem returns_mapType (hsub : ReadsTypes sub) (c : Cursor) :
    Returns (mapType sub c) fun r => r.1.wellFormed isWordPath false = true := by
  refine returns_bind_any fun c' => returns_bind (hsub.wellFormed c') ?_
  rintro ⟨key, c'⟩ hkey
  refine returns_bind_any fun c' => returns_bind (hsub.wellFormed c') ?_
  rintro ⟨value, c'⟩ hvalue
  refine returns_ok ?_
  rw [wellFormed, hkey, hvalue]
  rfl

theorem returns_arrayType (hsub : ReadsTypes sub) (c : Cursor) :
    Returns (arrayType sub c) fun r => r.1.wellFormed isWordPath false = true := by
  refine returns_bind_any fun c' => returns_bind_any fun c' => returns_bind_any fun c' => ?_
  refine returns_bind (hsub.wellFormed c') ?_
  rintro ⟨element, c'⟩ helement
  exact returns_ok helement

theorem wellFormed_of_word {word : List Char} (hk : String.ofList word ∉ keywords)
    {path name : String} (hname : isIdentifier name.toList = true) (hpath : isWordPath path = true)
    (hword : path.isEmpty = true → name = String.ofList word) :
    (ident path name).wellFormed isWordPath false = true := by
  rw [wellFormed, hname, Bool.true_and, Bool.false_or]
  by_cases hp : path.isEmpty = true
  · rw [if_pos hp, hword hp]
    simpa using hk
  · rw [if_neg hp]
    exact hpath

theorem returns_wordType (hsub : ReadsTypes sub) (start : Cursor) {word : List Char}
    (hw : ∀ c ∈ word, isWordChar c = true) (c : Cursor) :
    Returns (wordType sub start word c) fun r => r.1.wellFormed isWordPath false = true := by
  unfold wordType
  split
  · exact returns_mapType hsub c
  · exact returns_structBody hsub c
  · exact returns_bind_any fun c' => returns_bind_any fun c' => returns_ok rfl
  · exact returns_funcSignature hsub c
  · refine returns_bind (hsub.wellFormed c) ?_
    rintro ⟨message, c'⟩ hmessage
    exact returns_ok hmessage
  · next hmap hstruct hinterface hfunc hchan =>
    have hk : String.ofList word ∉ keywords := by
      simp only [keywords, List.mem_cons, List.not_mem_nil, or_false, not_or]
      exact ⟨hmap, hstruct, hinterface, hfunc, hchan⟩
    refine returns_bind (returns_identOfWord start hw) ?_
    rintro _ ⟨path, name, rfl, hname, hpath, hword⟩
    exact returns_ok (wellFormed_of_word hk hname hpath hword)

theorem readsTypes_nestedType (hsub : ReadsTypes sub) : ReadsTypes (nestedType sub) where
  wellFormed c := by
    refine returns_bind_any fun start => ?_
    dsimp only
    split
    · exact returns_error _
    split
    · refine returns_bind_any fun c => returns_bind (hsub.wellFormed c) ?_
      rintro ⟨target, c'⟩ htarget
      exact returns_ok htarget
    split
    · exact returns_bind_any fun c => returns_arrayType hsub c
    split
    · exact returns_bind_any fun c => returns_wordType hsub start (fun x => mem_taken) c
    · exact returns_error _
  isPointer c hstar := by
    rw [nestedType, Scanner.skipBlanks_bind, head?_skipBlanks hstar (by decide)]
    exact returns_bind_any fun c => returns_bind_any fun r => returns_ok rfl

theorem readsTypes_parseType (allowance : Nat) : ReadsTypes (parseType allowance) := by
  induction allowance with
  | zero => exact ⟨fun c => returns_error _, fun c _ => returns_error _⟩
  | succ allowance ih => exact readsTypes_nestedType ih

end

/-- What is read is well formed. -/
theorem wellFormed_of_parse {src : String} {t : TypeExpr} (h : parse src = .ok t) :
    t.wellFormed isWordPath false = true := by
  have hread : Returns (parse src) fun t => t.wellFormed isWordPath false = true := by
    refine returns_bind ((readsTypes_parseType maxNesting).wellFormed _) ?_
    rintro ⟨type, c⟩ htype
    refine returns_bind_any fun c => ?_
    split
    · exact returns_ok htype
    · exact returns_error _
  exact hread t h

/-- What may stand at a place of a type that was read. -/
structure Part.IsSound (p : Part) : Prop where
  name : ∀ path name, p.type = .ident path name → isIdentifier name.toList = true
  path : ∀ path name, p.type = .ident path name → path ≠ "" →
    ∀ c ∈ path.toList, isWordChar c = true
  keyword : ∀ name, p.type = .ident "" name → name ∈ keywords → p.embedded = true
  field : ∀ fields, p.type = .struct fields → ∀ f ∈ fields,
    isIdentifier f.name.toList = true ∨ f.name = "" ∧
      ((∃ path name, f.type = .ident path name) ∨ ∃ target, f.type = .pointer target)
  tag : ∀ fields, p.type = .struct fields → ∀ f ∈ fields, ∀ tag, f.tag = some tag →
    '\x60' ∉ tag.toList

theorem ident_or_pointer_of_isEmbeddable {t : TypeExpr} (h : t.isEmbeddable = true) :
    (∃ path name, t = .ident path name) ∨ ∃ target, t = .pointer target := by
  cases t with
  | ident path name => exact .inl ⟨path, name, rfl⟩
  | pointer target => exact .inr ⟨target, rfl⟩
  | _ => cases h

theorem isSound_of_wellFormed {p : Part}
    (h : p.type.wellFormed isWordPath p.embedded = true) : p.IsSound := by
  obtain ⟨embedded, t⟩ := p
  refine ⟨?_, ?_, ?_, ?_, ?_⟩
  · rintro path name rfl
    exact (wellFormed_ident h).1
  · rintro path name rfl hpath
    have hne : path.isEmpty = false := by rwa [Bool.eq_false_iff, Ne, String.isEmpty_iff]
    exact List.all_eq_true.mp ((wellFormed_ident h).2.1 hne)
  · rintro name rfl hkeyword
    by_contra he
    exact (wellFormed_ident h).2.2 rfl (Bool.eq_false_iff.mpr he) hkeyword
  · rintro fields rfl f hf
    obtain ⟨hname, -, -⟩ := wellFormed_of_mem_fields h hf
    by_cases he : f.name.isEmpty = true
    · rw [if_pos he] at hname
      exact .inr ⟨String.isEmpty_iff.mp he, ident_or_pointer_of_isEmbeddable hname⟩
    · rw [if_neg he] at hname
      exact .inl hname
  · rintro fields rfl f hf tag htag
    obtain ⟨-, -, hq⟩ := wellFormed_of_mem_fields h hf
    simpa [htag, isTagText] using hq

/-- Everywhere in what is read, names are identifiers, module paths are words, fields without a name
are identifiers or pointers, tags hold no backquote, and a bare keyword is the name of an embedded
type. -/
theorem isSound_of_parse {src : String} {t : TypeExpr} (h : parse src = .ok t) {level : Nat}
    {p : Part} (hp : Part.Holds ⟨false, t⟩ level p) : p.IsSound :=
  isSound_of_wellFormed (hp.wellFormed (wellFormed_of_parse h))

/-- A keyword as an embedded type, two levels below a pointer. -/
theorem isSound_embedded_keyword :
    let struct : TypeExpr := .struct [⟨"", .ident "" "map", some "a"⟩,
      ⟨"B", .array (.ident "x/y" "Z"), none⟩, ⟨"C", .array (.ident "x/y" "Z"), none⟩]
    parse "*struct\x7b map \x60a\x60\n B, C []x/y.Z; \x7d" = .ok (.pointer struct) ∧
      Part.Holds ⟨false, .pointer struct⟩ 3 ⟨true, .ident "" "map"⟩ ∧
      Part.IsSound ⟨true, .ident "" "map"⟩ := by
  intro struct
  have hparse : parse "*struct\x7b map \x60a\x60\n B, C []x/y.Z; \x7d" = .ok (.pointer struct) := by
    decide +kernel
  have hholds : Part.Holds ⟨false, .pointer struct⟩ 3 ⟨true, .ident "" "map"⟩ :=
    .part (q := ⟨false, struct⟩) List.mem_cons_self
      (.part (q := ⟨true, .ident "" "map"⟩) List.mem_cons_self (.self _))
  exact ⟨hparse, hholds, isSound_of_parse hparse hholds⟩

end TypeSchema.TypeExpr
