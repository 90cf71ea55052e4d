import Mathlib.Data.List.TakeWhile
import TypeSchema.TypeExpr.Parser

namespace TypeSchema.Text

def disjointRanges (rs ss : List (Nat × Nat)) : Bool :=
  rs.all fun r => ss.all fun s => r.2 < s.1 || s.2 < r.1

theorem inRanges_of_disjointRanges {rs ss : List (Nat × Nat)} (h : disjointRanges rs ss = true)
    {c : Char} (hc : inRanges rs c = true) : inRanges ss c = false := by
  rw [Bool.eq_false_iff]
  intro hs
  obtain ⟨r, hr, hr₁, hr₂⟩ := inRanges_iff.1 hc
  obtain ⟨s, hs, hs₁, hs₂⟩ := inRanges_iff.1 hs
  have hrs := List.all_eq_true.1 (List.all_eq_true.1 h r hr) s hs
  simp only [Bool.or_eq_true, decide_eq_true_eq] at hrs
  omega

theorem disjointRanges_blank_alphabetic : disjointRanges blankRanges alphabeticRanges = true := by
  decide +kernel

theorem disjointRanges_blank_numeric : disjointRanges blankRanges numericRanges = true := by
  decide +kernel

theorem toNat_of_isBlank {c : Char} (h : isBlank c = true) (hc : c.toNat < 128) :
    c.toNat ≤ 0x20 := by
  obtain ⟨r, hr, hr₁, hr₂⟩ := inRanges_iff.1 h
  simp only [blankRanges, List.mem_cons, List.not_mem_nil, or_false] at hr
  rcases hr with rfl | rfl | rfl | rfl | rfl | rfl | rfl | rfl | rfl | rfl <;>
    simp only at hr₁ hr₂ <;> omega

theorem toNat_of_isDigit {c : Char} (h : c.isDigit = true) : 0x20 < c.toNat := by
  simp only [Char.isDigit, Bool.and_eq_true, decide_eq_true_eq, UInt32.le_iff_toNat_le] at h
  have h0 : '0'.val.toNat = 48 := rfl
  simp only [Char.toNat]
  omega

theorem isAlphabetic_of_isBlank {c : Char} (h : isBlank c = true) : isAlphabetic c = false := by
  unfold isAlphabetic
  split
  · next hc =>
    have hle := toNat_of_isBlank h hc
    rw [Bool.eq_false_iff]
    intro ha
    have := toNat_of_isAlpha ha
    omega
  · exact inRanges_of_disjointRanges disjointRanges_blank_alphabetic h

theorem isNumeric_of_isBlank {c : Char} (h : isBlank c = true) : isNumeric c = false := by
  unfold isNumeric
  split
  · next hc =>
    have hle := toNat_of_isBlank h hc
    rw [Bool.eq_false_iff]
    intro hd
    have := toNat_of_isDigit hd
    omega
  · exact inRanges_of_disjointRanges disjointRanges_blank_numeric h

theorem ne_of_isBlank {c x : Char} (h : isBlank c = true) (hx : isBlank x = false) : c ≠ x := by
  rintro rfl
  rw [hx] at h
  exact absurd h (by decide)

theorem isWordChar_of_isBlank {c : Char} (h : isBlank c = true) : isWordChar c = false := by
  have hunderscore : c ≠ '_' := ne_of_isBlank h (by decide)
  have hdot : c ≠ '.' := ne_of_isBlank h (by decide)
  have hslash : c ≠ '/' := ne_of_isBlank h (by decide)
  have hdash : c ≠ '-' := ne_of_isBlank h (by decide)
  simp [isWordChar, isAlphanumeric, isAlphabetic_of_isBlank h, isNumeric_of_isBlank h,
    hunderscore, hdot, hslash, hdash]

theorem isBlank_of_isWordChar {c : Char} (h : isWordChar c = true) : isBlank c = false := by
  rw [Bool.eq_false_iff]
  intro hb
  rw [isWordChar_of_isBlank hb] at h
  exact absurd h (by decide)

theorem isInlineBlank_of_isBlank {c : Char} (h : isBlank c = false) : isInlineBlank c = false := by
  rw [Bool.eq_false_iff]
  intro hc
  rw [isBlank_of_isInlineBlank hc] at h
  exact absurd h (by decide)

/-- The text `cs` does not go on in the class `p`. -/
def Stops (p : Char → Bool) (cs : List Char) : Prop := ∀ c, cs.head? = some c → p c = false

theorem stops_nil {p : Char → Bool} : Stops p [] := by
  intro c hc
  cases hc

theorem stops_cons {p : Char → Bool} {c : Char} {cs : List Char} (h : p c = false) :
    Stops p (c :: cs) := by
  intro d hd
  cases hd
  exact h

theorem takeWhile_of_stops {p : Char → Bool} {cs : List Char} (h : Stops p cs) :
    cs.takeWhile p = [] := by
  cases cs with
  | nil => rfl
  | cons c cs => exact List.takeWhile_cons_of_neg (by rw [h c rfl]; decide)

theorem dropWhile_of_stops {p : Char → Bool} {cs : List Char} (h : Stops p cs) :
    cs.dropWhile p = cs := by
  cases cs with
  | nil => rfl
  | cons c cs => exact List.dropWhile_cons_of_neg (by rw [h c rfl]; decide)

theorem takeWhile_append_of_stops {p : Char → Bool} {run cs : List Char}
    (hrun : ∀ c ∈ run, p c = true) (hcs : Stops p cs) : (run ++ cs).takeWhile p = run := by
  rw [List.takeWhile_append_of_pos hrun, takeWhile_of_stops hcs, List.append_nil]

theorem dropWhile_append_of_stops {p : Char → Bool} {run cs : List Char}
    (hrun : ∀ c ∈ run, p c = true) (hcs : Stops p cs) : (run ++ cs).dropWhile p = cs := by
  rw [List.dropWhile_append_of_pos hrun, dropWhile_of_stops hcs]

theorem stops_dropWhile {p : Char → Bool} {cs : List Char} : Stops p (cs.dropWhile p) := by
  intro x hx
  have hnot := List.head?_dropWhile_not p cs
  rw [hx] at hnot
  simpa using hnot

/-- What stands behind a text matters to a class only when the whole text is in it. -/
theorem takeWhile_append_right {p : Char → Bool} {cs w : List Char}
    (h : cs.dropWhile p = [] → Stops p w) : (cs ++ w).takeWhile p = cs.takeWhile p := by
  induction cs with
  | nil => exact takeWhile_of_stops (h rfl)
  | cons x cs ih =>
    rw [List.cons_append]
    by_cases hx : p x = true
    · rw [List.takeWhile_cons_of_pos hx, List.takeWhile_cons_of_pos hx]
      exact congrArg (x :: ·) (ih fun hcs => h ((List.dropWhile_cons_of_pos hx).trans hcs))
    · rw [List.takeWhile_cons_of_neg hx, List.takeWhile_cons_of_neg hx]

theorem dropWhile_append_right {p : Char → Bool} {cs : List Char} (h : cs.dropWhile p ≠ [])
    (w : List Char) : (cs ++ w).dropWhile p = cs.dropWhile p ++ w := by
  rw [List.dropWhile_append, if_neg (by simpa using h)]

theorem dropWhile_dropWhile_of_imp {p q : Char → Bool} (h : ∀ c, p c = true → q c = true)
    (cs : List Char) : (cs.dropWhile p).dropWhile q = cs.dropWhile q := by
  have hpre : ∀ c ∈ cs.takeWhile p, q c = true := fun c hc => h c (List.mem_takeWhile_imp hc)
  calc (cs.dropWhile p).dropWhile q = (cs.takeWhile p ++ cs.dropWhile p).dropWhile q :=
        (List.dropWhile_append_of_pos hpre).symm
    _ = cs.dropWhile q := by rw [List.takeWhile_append_dropWhile]

def Blanks (cs : List Char) : Prop := ∀ c ∈ cs, isBlank c = true

def InlineBlanks (cs : List Char) : Prop := ∀ c ∈ cs, isInlineBlank c = true

instance (cs : List Char) : Decidable (Blanks cs) :=
  List.decidableBAll (fun c => isBlank c = true) cs

instance (cs : List Char) : Decidable (InlineBlanks cs) :=
  List.decidableBAll (fun c => isInlineBlank c = true) cs

theorem Blanks.dropWhile {cs : List Char} (h : Blanks cs) (p : Char → Bool) :
    Blanks (cs.dropWhile p) :=
  fun x hx => h x ((List.dropWhile_sublist p).subset hx)

theorem blanks_nil : Blanks [] := List.forall_mem_nil _

theorem inlineBlanks_space : InlineBlanks [' '] := by
  intro c hc
  rw [List.mem_singleton.1 hc]
  decide

theorem InlineBlanks.blanks {cs : List Char} (h : InlineBlanks cs) : Blanks cs :=
  fun c hc => isBlank_of_isInlineBlank (h c hc)

theorem stops_blanks_append {p : Char → Bool} {b cs : List Char}
    (hp : ∀ c, isBlank c = true → p c = false) (hb : Blanks b) (hcs : Stops p cs) :
    Stops p (b ++ cs) := by
  cases b with
  | nil => exact hcs
  | cons c b => exact stops_cons (hp c (hb c List.mem_cons_self))

/-- Passing over the inline blanks of a run of blanks leaves a run of blanks. -/
theorem stops_dropWhile_blanks_append {p : Char → Bool} {b cs : List Char}
    (hp : ∀ c, isBlank c = true → p c = false) (hb : Blanks b)
    (hcs : Stops p (cs.dropWhile isInlineBlank)) :
    Stops p ((b ++ cs).dropWhile isInlineBlank) := by
  induction b with
  | nil => exact hcs
  | cons c b ih =>
    rw [List.cons_append]
    by_cases hc : isInlineBlank c = true
    · rw [List.dropWhile_cons_of_pos hc]
      exact ih fun d hd => hb d (List.mem_cons_of_mem c hd)
    · rw [List.dropWhile_cons_of_neg hc]
      exact stops_cons (hp c (hb c List.mem_cons_self))

end TypeSchema.Text

namespace TypeSchema.Cursor

open Text

theorem skipWhile_of_stops {p : Char → Bool} {c : Cursor} (h : Stops p c.rest) :
    c.skipWhile p = c := by
  rw [skipWhile, takeWhile_of_stops h, dropWhile_of_stops h]
  rfl

theorem skipBlanks_of_end {c : Cursor} (h : c.rest = []) : c.skipBlanks = c :=
  skipWhile_of_stops (h ▸ stops_nil)

end TypeSchema.Cursor
