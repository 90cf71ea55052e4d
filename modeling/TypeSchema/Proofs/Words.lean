import TypeSchema.Proofs.Spelling

namespace TypeSchema.TypeExpr

open Text

theorem splitLast_of_not_mem {x : Char} {cs : List Char} (h : x ∉ cs) :
    splitLast x cs = none := by
  induction cs with
  | nil => rfl
  | cons c cs ih =>
    rw [List.mem_cons, not_or] at h
    rw [splitLast, ih h.2]
    exact if_neg (Ne.symm h.1)

theorem splitLast_append {x : Char} {after : List Char} (h : x ∉ after) (before : List Char) :
    splitLast x (before ++ x :: after) = some (before, after) := by
  induction before with
  | nil =>
    rw [List.nil_append, splitLast, splitLast_of_not_mem h]
    exact if_pos rfl
  | cons c before ih => rw [List.cons_append, splitLast, ih]

theorem not_mem_of_isIdentifier {w : List Char} (h : isIdentifier w = true) {x : Char}
    (hx : isIdentifierChar x = false) : x ∉ w := by
  cases w with
  | nil => exact List.not_mem_nil
  | cons c cs =>
    rw [isIdentifier, Bool.and_eq_true, List.all_eq_true] at h
    intro hmem
    rcases List.mem_cons.1 hmem with rfl | hmem
    · rw [isIdentifierChar_of_start h.1] at hx
      exact absurd hx (by decide)
    · rw [h.2 x hmem] at hx
      exact absurd hx (by decide)

theorem isTypeWord_of_isIdentifier {w : List Char} (h : isIdentifier w = true) :
    isTypeWord w = true := by
  cases w with
  | nil => exact h
  | cons c cs =>
    rw [isIdentifier, Bool.and_eq_true, List.all_eq_true] at h
    rw [isTypeWord, Bool.and_eq_true, List.all_eq_true]
    refine ⟨h.1, fun x hx => isWordChar_of_identifierChar ?_⟩
    rcases List.mem_cons.1 hx with rfl | hx
    · exact isIdentifierChar_of_start h.1
    · exact h.2 x hx

theorem isTypeWord_wordChars {path name : String} (hn : isIdentifier name.toList = true)
    (hp : path.isEmpty = false → isPathText path = true) :
    isTypeWord (wordChars path name) = true := by
  unfold wordChars
  have hname := isTypeWord_of_isIdentifier hn
  split
  · exact hname
  · next h =>
    have hpath := hp (Bool.eq_false_iff.2 h)
    rw [isPathText] at hpath
    rw [isTypeWord, Bool.and_eq_true] at hname hpath ⊢
    refine ⟨?_, ?_⟩
    · cases hl : path.toList with
      | nil =>
        rw [hl] at hpath
        exact absurd hpath.1 (by decide)
      | cons c cs =>
        rw [hl] at hpath
        exact hpath.1
    · rw [List.all_append, List.all_cons, hpath.2, hname.2]
      decide

theorem identOfWord_wordChars {path name : String} (hn : isIdentifier name.toList = true)
    (start : Cursor) :
    (identOfWord start (wordChars path name) : Attempt TypeExpr) = .ok (.ident path name) := by
  have hdot : '.' ∉ name.toList := not_mem_of_isIdentifier hn (by decide)
  by_cases h : path.isEmpty = true
  · have hpath : path = "" := String.isEmpty_iff.1 h
    rw [wordChars, if_pos h, identOfWord, splitLast_of_not_mem hdot]
    simp only [hn, if_true, hpath, String.ofList_toList]
    rfl
  · have hpath : path.toList.isEmpty = false := by
      simpa using h
    rw [wordChars, if_neg h, identOfWord, splitLast_append hdot]
    simp only [hpath, hn, Bool.not_false, Bool.and_self, if_true, String.ofList_toList]
    rfl

theorem ofList_wordChars_not_mem_keywords {path name : String}
    (h : path.isEmpty = true → name ∉ keywords) :
    String.ofList (wordChars path name) ∉ keywords := by
  unfold wordChars
  split
  · next hp =>
    rw [String.ofList_toList]
    exact h hp
  · -- No keyword holds a dot.
    intro hk
    have hdot : ∀ k ∈ keywords, '.' ∉ k.toList := by decide
    apply hdot _ hk
    rw [String.toList_ofList]
    exact List.mem_append_right _ List.mem_cons_self

section

variable {m : Type → Type} [Monad m] [Scanner m] (sub : Reader m) (start c : Cursor)

theorem wordType_of_not_keyword {word : List Char} (h : String.ofList word ∉ keywords) :
    wordType sub start word c =
      (do
        let type ← identOfWord start word
        return (type, c)) := by
  simp only [keywords, List.mem_cons, List.not_mem_nil, or_false, not_or] at h
  unfold wordType
  split
  · exact absurd ‹_› h.1
  · exact absurd ‹_› h.2.1
  · exact absurd ‹_› h.2.2.1
  · exact absurd ‹_› h.2.2.2.1
  · exact absurd ‹_› h.2.2.2.2
  · rfl

theorem wordType_map : wordType sub start "map".toList = mapType sub := by
  funext c
  rw [wordType, String.ofList_toList]
  rfl

theorem wordType_struct : wordType sub start "struct".toList = structBody sub := by
  funext c
  rw [wordType, String.ofList_toList]
  rfl

theorem wordType_interface : wordType sub start "interface".toList = interfaceBody := by
  funext c
  rw [wordType, String.ofList_toList]
  rfl

theorem wordType_func : wordType sub start "func".toList = funcSignature sub := by
  funext c
  rw [wordType, String.ofList_toList]
  rfl

theorem wordType_chan :
    wordType sub start "chan".toList c =
      (do
        let (message, c) ← sub c
        return (.chan message, c)) := by
  rw [wordType, String.ofList_toList]
  rfl

/-- What a word begins, one keyword after the other. -/
theorem wordType_eq (word : List Char) :
    wordType sub start word c =
      if word = "map".toList then mapType sub c
      else if word = "struct".toList then structBody sub c
      else if word = "interface".toList then interfaceBody c
      else if word = "func".toList then funcSignature sub c
      else if word = "chan".toList then do
        let (message, c) ← sub c
        return (.chan message, c)
      else do
        let type ← identOfWord start word
        return (type, c) := by
  by_cases hmap : word = "map".toList
  · rw [if_pos hmap, hmap, wordType_map]
  by_cases hstruct : word = "struct".toList
  · rw [if_neg hmap, if_pos hstruct, hstruct, wordType_struct]
  by_cases hinterface : word = "interface".toList
  · rw [if_neg hmap, if_neg hstruct, if_pos hinterface, hinterface, wordType_interface]
  by_cases hfunc : word = "func".toList
  · rw [if_neg hmap, if_neg hstruct, if_neg hinterface, if_pos hfunc, hfunc, wordType_func]
  rw [if_neg hmap, if_neg hstruct, if_neg hinterface, if_neg hfunc]
  by_cases hchan : word = "chan".toList
  · rw [if_pos hchan, hchan, wordType_chan]
  rw [if_neg hchan]
  apply wordType_of_not_keyword
  simp only [keywords, List.mem_cons, List.not_mem_nil, or_false, not_or, ← String.toList_inj,
    String.toList_ofList]
  exact ⟨hmap, hstruct, hinterface, hfunc, hchan⟩

end

end TypeSchema.TypeExpr
