import TypeSchema.Proofs.Tracking
import TypeSchema.Proofs.Words

namespace TypeSchema

open Text

namespace Cursor

variable {c d : Cursor}

theorem utf8ByteSize_ofList (cs : List Char) : (String.ofList cs).utf8ByteSize = utf8Length cs := by
  induction cs with
  | nil => rfl
  | cons x cs ih =>
    have hsplit : String.ofList (x :: cs) = String.singleton x ++ String.ofList cs := by
      rw [String.singleton_eq_ofList, ← String.ofList_append, List.singleton_append]
    rw [hsplit, String.utf8ByteSize_append, String.utf8ByteSize_singleton, ih]
    rfl

theorem nil_of_utf8Length_le_zero {cs : List Char} (h : utf8Length cs ≤ 0) : cs = [] := by
  cases cs with
  | nil => rfl
  | cons x cs =>
    have hpos : 0 < x.utf8Size := x.utf8Size_pos
    have hle : x.utf8Size ≤ utf8Length (x :: cs) := Nat.le_add_right _ _
    omega

/-- What is read of a text on the way to a place in it. -/
theorem exists_append_of_reaches {src : String} (h : (start src.toList).Reaches c) :
    ∃ read : String, src = read ++ String.ofList c.rest ∧ c.offset = read.utf8ByteSize := by
  obtain ⟨read, hrest, hoffset⟩ := h
  refine ⟨String.ofList read, ?_, ?_⟩
  · rw [← String.ofList_append, ← hrest]
    exact String.ofList_toList.symm
  · rw [utf8ByteSize_ofList, hoffset]
    exact Nat.zero_add _

/-- Of two places in a text, the one with the greater offset is reached from the other one. -/
theorem reaches_of_offset_le {b : Cursor} (hc : b.Reaches c) (hd : b.Reaches d)
    (h : c.offset ≤ d.offset) : c.Reaches d := by
  obtain ⟨read, hcrest, hcoffset⟩ := hc
  obtain ⟨read', hdrest, hdoffset⟩ := hd
  rcases List.append_eq_append_iff.mp (hcrest.symm.trans hdrest) with
    ⟨slice, hslice, hrest⟩ | ⟨slice, hslice, hrest⟩
  · refine ⟨slice, hrest, ?_⟩
    rw [hdoffset, hcoffset, hslice, utf8Length_append, Nat.add_assoc]
  · have hnil : slice = [] := by
      apply nil_of_utf8Length_le_zero
      rw [hslice, utf8Length_append] at hcoffset
      omega
    subst hnil
    refine ⟨[], hrest.symm, ?_⟩
    rw [hdoffset, hcoffset, hslice, List.append_nil]
    rfl

end Cursor

namespace TypeExpr

open Tracked

variable {c d : Cursor}

/-- A word is reported at its start. -/
theorem accounts_identOfWord {start : Cursor} (hstart : c.Reaches start) (hd : c.Reaches d)
    (word : List Char) :
    Accounts (fun _ => d) c (identOfWord start word) (identOfWord start word) := by
  unfold identOfWord
  cases splitLast '.' word with
  | none => exact accounts_ite (fun _ => accounts_pure hd) fun _ => accounts_fail hstart _
  | some parts => exact accounts_ite (fun _ => accounts_pure hd) fun _ => accounts_fail hstart _

theorem accounts_closeBraces (depth offset : Nat) (rest : List Char) :
    Accounts id ⟨offset, rest⟩ (closeBraces depth offset rest)
      (closeBraces depth offset rest) := by
  induction rest generalizing depth offset with
  | nil => exact accounts_fail (.refl _) _
  | cons x rest ih =>
    unfold closeBraces
    refine accounts_bind_from (accounts_next _) ?_
    rintro _ ⟨⟩
    refine .trans (Cursor.reaches_next _) ?_
    refine accounts_ite (fun _ => ih _ _) fun _ => accounts_ite (fun _ => ?_) fun _ => ih _ _
    cases depth with
    | zero => exact accounts_pure (.refl _)
    | succ depth => exact ih _ _

theorem accounts_interfaceBody (c : Cursor) :
    Accounts Prod.snd c (interfaceBody c) (interfaceBody c) :=
  accounts_bind (accounts_expect '{' c) fun c =>
    accounts_bind (accounts_closeBraces 0 c.offset c.rest) fun _ => accounts_pure (.refl _)

theorem accounts_fieldTag (c : Cursor) : Accounts Prod.snd c (fieldTag c) (fieldTag c) := by
  refine accounts_bind (accounts_skipInlineBlanks c) fun c => ?_
  refine accounts_ite (fun _ => ?_) fun _ => accounts_pure (.refl _)
  refine accounts_bind (accounts_next c) fun start => ?_
  refine accounts_bind (accounts_skipWhile _ _) fun c => ?_
  refine accounts_ite (fun _ => accounts_fail (.refl _) _) fun _ => ?_
  exact accounts_bind (accounts_next c) fun _ => accounts_pure (.refl _)

theorem accounts_moreNames (turns : Nat) (c : Cursor) :
    Accounts Prod.snd c (moreNames turns c) (moreNames turns c) := by
  induction turns generalizing c with
  | zero => exact accounts_pure (.refl c)
  | succ turns ih =>
    refine accounts_bind (accounts_skipBlanks c) fun c => ?_
    refine accounts_ite (fun _ => ?_) fun _ => accounts_pure (.refl _)
    refine accounts_bind (accounts_next c) fun c => ?_
    refine accounts_bind (accounts_skipBlanks c) fun start => ?_
    refine accounts_bind (accounts_skipWhile isWordChar start) fun c => ?_
    refine accounts_ite (fun _ => ?_) fun _ => accounts_fail (.refl _) _
    exact accounts_bind (ih c) fun _ => accounts_pure (.refl _)

theorem accounts_embeddedField (type : TypeExpr) (c : Cursor) :
    Accounts Prod.snd c (embeddedField type c) (embeddedField type c) :=
  accounts_bind (accounts_fieldTag c) fun _ => accounts_pure (.refl _)

section

variable {sub : Reader Tracked} {sub' : Reader Attempt}
  (hsub : ∀ c, Accounts Prod.snd c (sub c) (sub' c))
include hsub

theorem accounts_fieldLine (start : Cursor) :
    Accounts Prod.snd start (fieldLine sub start) (fieldLine sub' start) := by
  have hword := accounts_skipWhile isWordChar start
  -- Faults are reported back at the start of the line, so the account goes on from there.
  refine accounts_bind_from hword fun c hc => ?_
  have hafter : start.Reaches c := hword.stops c hc
  refine accounts_ite (fun _ => accounts_fail hafter _) fun _ => ?_
  have hblanks := (accounts_skipInlineBlanks c).trans hafter
  refine accounts_bind_from hblanks fun c hc => ?_
  have hplace : start.Reaches c := hblanks.stops c hc
  refine accounts_ite (fun _ => ?_) fun _ => ?_
  · exact accounts_bind (accounts_identOfWord (.refl start) hplace _) fun type =>
      accounts_embeddedField type c
  · have hnames := (accounts_moreNames c.rest.length c).trans hplace
    refine accounts_bind_from hnames fun r hr => ?_
    refine accounts_ite (fun _ => ?_) fun _ => accounts_fail (.refl start) _
    refine .trans (hnames.stops r hr) ?_
    exact accounts_bind (hsub _) fun _ => accounts_bind (accounts_fieldTag _) fun _ =>
      accounts_pure (.refl _)

theorem accounts_structFields (turns : Nat) (c : Cursor) :
    Accounts Prod.snd c (structFields sub turns c) (structFields sub' turns c) := by
  induction turns generalizing c with
  | zero => exact accounts_fail (.refl c) _
  | succ turns ih =>
    refine accounts_bind (accounts_skipBlanks c) fun c => ?_
    dsimp only
    cases c.head? with
    | none => exact accounts_fail (.refl _) _
    | some x =>
      refine accounts_ite (fun _ => ?_) fun _ => accounts_ite (fun _ => ?_) fun _ =>
        accounts_ite (fun _ => ?_) fun _ => ?_
      · exact accounts_bind (accounts_next c) fun _ => accounts_pure (.refl _)
      · exact accounts_bind (accounts_next c) fun c => ih c
      · exact accounts_bind (hsub c) fun _ => accounts_bind (accounts_embeddedField _ _) fun _ =>
          accounts_bind (ih _) fun _ => accounts_pure (.refl _)
      · exact accounts_bind (accounts_fieldLine hsub c) fun _ => accounts_bind (ih _) fun _ =>
          accounts_pure (.refl _)

theorem accounts_structBody (c : Cursor) :
    Accounts Prod.snd c (structBody sub c) (structBody sub' c) :=
  accounts_bind (accounts_expect '{' c) fun c =>
    accounts_bind (accounts_structFields hsub _ c) fun _ => accounts_pure (.refl _)

theorem accounts_moreTypes (turns : Nat) (c : Cursor) :
    Accounts Prod.snd c (moreTypes sub turns c) (moreTypes sub' turns c) := by
  induction turns generalizing c with
  | zero => exact accounts_fail (.refl c) _
  | succ turns ih =>
    refine accounts_bind (hsub c) fun r => ?_
    refine accounts_bind (accounts_skipBlanks r.2) fun c => ?_
    refine accounts_ite (fun _ => ?_) fun _ => ?_
    · exact accounts_bind (accounts_next c) fun _ => accounts_pure (.refl _)
    · exact accounts_bind (accounts_expect ',' c) fun _ => accounts_bind (ih _) fun _ =>
        accounts_pure (.refl _)

theorem accounts_typeList (c : Cursor) :
    Accounts Prod.snd c (typeList sub c) (typeList sub' c) := by
  refine accounts_bind (accounts_expect '(' c) fun c => ?_
  refine accounts_bind (accounts_skipBlanks c) fun c => ?_
  refine accounts_ite (fun _ => ?_) fun _ => accounts_moreTypes hsub _ c
  exact accounts_bind (accounts_next c) fun _ => accounts_pure (.refl _)

theorem accounts_funcSignature (c : Cursor) :
    Accounts Prod.snd c (funcSignature sub c) (funcSignature sub' c) := by
  refine accounts_bind (accounts_typeList hsub c) fun r => ?_
  refine accounts_bind (accounts_skipInlineBlanks r.2) fun c => ?_
  dsimp only
  cases c.head? with
  | none => exact accounts_pure (.refl _)
  | some x =>
    refine accounts_ite (fun _ => ?_) fun _ => accounts_ite (fun _ => ?_) fun _ =>
      accounts_pure (.refl _)
    · exact accounts_bind (accounts_typeList hsub c) fun _ => accounts_pure (.refl _)
    · exact accounts_bind (hsub c) fun _ => accounts_pure (.refl _)

theorem accounts_mapType (c : Cursor) :
    Accounts Prod.snd c (mapType sub c) (mapType sub' c) :=
  accounts_bind (accounts_expect '[' c) fun c => accounts_bind (hsub c) fun r =>
    accounts_bind (accounts_expect ']' r.2) fun c => accounts_bind (hsub c) fun _ =>
      accounts_pure (.refl _)

theorem accounts_arrayType (c : Cursor) :
    Accounts Prod.snd c (arrayType sub c) (arrayType sub' c) :=
  accounts_bind (accounts_skipBlanks c) fun c =>
    accounts_bind (accounts_skipWhile Char.isDigit c) fun c =>
      accounts_bind (accounts_expect ']' c) fun c => accounts_bind (hsub c) fun _ =>
        accounts_pure (.refl _)

theorem accounts_wordType {start : Cursor} (hd : start.Reaches d) (word : List Char) :
    Accounts Prod.snd start (wordType sub start word d) (wordType sub' start word d) := by
  rw [wordType_eq, wordType_eq]
  refine accounts_ite (fun _ => ?_) fun _ => accounts_ite (fun _ => ?_) fun _ =>
    accounts_ite (fun _ => ?_) fun _ => accounts_ite (fun _ => ?_) fun _ =>
      accounts_ite (fun _ => ?_) fun _ => ?_
  · exact (accounts_mapType hsub d).trans hd
  · exact (accounts_structBody hsub d).trans hd
  · exact (accounts_interfaceBody d).trans hd
  · exact (accounts_funcSignature hsub d).trans hd
  · exact .trans hd (accounts_bind (hsub d) fun _ => accounts_pure (.refl _))
  · exact accounts_bind (accounts_identOfWord (.refl start) hd word) fun _ =>
      accounts_pure (.refl _)

theorem accounts_nestedType (c : Cursor) :
    Accounts Prod.snd c (nestedType sub c) (nestedType sub' c) := by
  refine accounts_bind (accounts_skipBlanks c) fun start => ?_
  dsimp only
  cases start.head? with
  | none => exact accounts_fail (.refl _) _
  | some x =>
    refine accounts_ite (fun _ => ?_) fun _ => accounts_ite (fun _ => ?_) fun _ =>
      accounts_ite (fun _ => ?_) fun _ => accounts_fail (.refl _) _
    · exact accounts_bind (accounts_next start) fun c => accounts_bind (hsub c) fun _ =>
        accounts_pure (.refl _)
    · exact accounts_bind (accounts_next start) fun c => accounts_arrayType hsub c
    · have hword := accounts_skipWhile isWordChar start
      exact accounts_bind_from hword fun c hc => accounts_wordType hsub (hword.stops c hc) _

end

theorem accounts_parseType (allowance : Nat) (c : Cursor) :
    Accounts Prod.snd c (parseType allowance c) (parseType allowance c) := by
  induction allowance generalizing c with
  | zero => exact accounts_fail (.refl c) _
  | succ allowance ih => exact accounts_nestedType ih c

/-- Where the type of a text ends does not matter any more when the text is read. -/
theorem accounts_parse (src : String) :
    Accounts (fun _ => .start src.toList) (.start src.toList) (Tracked.parse src) (parse src) := by
  have htype := accounts_parseType maxNesting (.start src.toList)
  refine accounts_bind_from htype fun r hr => ?_
  have hblanks := (accounts_skipBlanks r.2).trans (htype.stops r hr)
  refine accounts_bind_from hblanks fun c hc => ?_
  exact accounts_ite (fun _ => accounts_pure (.refl _)) fun _ =>
    accounts_fail (hblanks.stops c hc) _

/-- The account of a reading comes to the result of the reading. Wherever it stands, whole
characters lie before it and whole characters are left; so do they between two of its places, which
is what a word or a tag is cut out of. A fault is reported at one of the places. -/
theorem parse_stands_between_characters (src : String) :
    (Tracked.parse src).result = parse src ∧
      (∀ c ∈ (Tracked.parse src).cursors, ∃ read : String,
        src = read ++ String.ofList c.rest ∧ c.offset = read.utf8ByteSize) ∧
      (∀ c ∈ (Tracked.parse src).cursors,
        c.offset ≤ src.utf8ByteSize ∧ (⟨c.offset⟩ : String.Pos.Raw).IsValid src) ∧
      (∀ c ∈ (Tracked.parse src).cursors, ∀ d ∈ (Tracked.parse src).cursors,
        c.offset ≤ d.offset → ∃ slice : String,
          String.ofList c.rest = slice ++ String.ofList d.rest ∧
            d.offset = c.offset + slice.utf8ByteSize) ∧
      ∀ e, parse src = .error e →
        (∃ c ∈ (Tracked.parse src).cursors, c.offset = e.offset) ∧
          ∃ read rest : String, src = read ++ rest ∧ e.offset = read.utf8ByteSize := by
  obtain ⟨hresult, hreaches, -, hfaults⟩ := accounts_parse src
  have hread : ∀ c ∈ (Tracked.parse src).cursors, ∃ read : String,
      src = read ++ String.ofList c.rest ∧ c.offset = read.utf8ByteSize :=
    fun c hc => Cursor.exists_append_of_reaches (hreaches c hc)
  refine ⟨hresult, hread, fun c hc => ?_, fun c hc d hd hle => ?_, fun e he => ?_⟩
  · obtain ⟨read, hsrc, hoffset⟩ := hread c hc
    have hvalid : (⟨c.offset⟩ : String.Pos.Raw).IsValid src :=
      String.Pos.Raw.isValid_iff_exists_append.mpr
        ⟨read, _, hsrc, congrArg String.Pos.Raw.mk hoffset⟩
    exact ⟨hvalid.le_rawEndPos, hvalid⟩
  · obtain ⟨slice, hrest, hoffset⟩ :=
      Cursor.reaches_of_offset_le (hreaches c hc) (hreaches d hd) hle
    refine ⟨String.ofList slice, ?_, ?_⟩
    · rw [← String.ofList_append, hrest]
    · rw [hoffset, Cursor.utf8ByteSize_ofList]
  · obtain ⟨c, hc, hoffset⟩ := hfaults e he
    obtain ⟨read, hsrc, hread⟩ := hread c hc
    exact ⟨⟨c, hc, hoffset⟩, read, _, hsrc, hoffset.symm.trans hread⟩

/-- The text goes on behind a first letter of two bytes and a blank. -/
theorem parse_stands_between_characters_accents :
    (⟨3, ['ü']⟩ : Cursor) ∈ (Tracked.parse "é ü").cursors ∧
      (⟨3⟩ : String.Pos.Raw).IsValid "é ü" ∧
      parse "é ü" = .error ⟨3, .trailingInput⟩ ∧
      ∃ read rest : String, "é ü" = read ++ rest ∧ 3 = read.utf8ByteSize := by
  obtain ⟨-, -, hvalid, -, hfaults⟩ := parse_stands_between_characters "é ü"
  have hmem : (⟨3, ['ü']⟩ : Cursor) ∈ (Tracked.parse "é ü").cursors := by decide +kernel
  have herror : parse "é ü" = .error ⟨3, .trailingInput⟩ := by decide +kernel
  exact ⟨hmem, (hvalid _ hmem).2, herror, (hfaults _ herror).2⟩

end TypeExpr

end TypeSchema
