import TypeSchema.Proofs.CharacterClasses

namespace TypeSchema

open Text

namespace Cursor

/-- `d` stands in the second text where `c` stands in the first one. Once the first text is read to
its end, some of the blanks behind may be read as well. -/
inductive Beside (k : Nat) (w : List Char) (c d : Cursor) : Prop
  | within (hrest : d.rest = c.rest ++ w) (hoffset : d.offset = k + c.offset) (hblanks : Blanks w)
  | behind (hend : c.rest = []) (hblanks : Blanks d.rest) (hw : w ≠ [])

/-- Two readers return the same thing, and stop beside each other. -/
def Alongside (k : Nat) (w : List Char) {α : Type} (r s : α × Cursor) : Prop :=
  r.1 = s.1 ∧ Beside k w r.2 s.2

theorem exists_head? {c : Cursor} (h : ¬c.rest.isEmpty = true) : ∃ x, c.head? = some x := by
  obtain ⟨offset, rest⟩ := c
  cases rest with
  | nil => exact absurd rfl h
  | cons x rest => exact ⟨x, rfl⟩

theorem isEmpty_iff_of_head? {c d : Cursor} (h : d.head? = c.head?) :
    c.rest.isEmpty = true ↔ d.rest.isEmpty = true := by
  rw [List.isEmpty_iff, List.isEmpty_iff, ← List.head?_eq_none_iff, ← List.head?_eq_none_iff]
  change c.head? = none ↔ d.head? = none
  rw [h]

namespace Beside

variable {k : Nat} {w : List Char} {c d : Cursor}

theorem offset_eq (h : Beside k w c d) (hw : w = []) : d.offset = k + c.offset := by
  cases h with
  | within _ hoffset => exact hoffset
  | behind _ _ hne => exact absurd hw hne

theorem blanks (h : Beside k w c d) (hc : c.rest = []) : Blanks d.rest := by
  cases h with
  | within hrest _ hblanks =>
    rw [hrest, hc]
    exact hblanks
  | behind _ hblanks => exact hblanks

theorem skipWhile (p : Char → Bool) (h : Beside k w c d) :
    Beside k w (c.skipWhile p) (d.skipWhile p) := by
  cases h with
  | within hrest hoffset hblanks =>
    by_cases hend : c.rest.dropWhile p = [] ∧ w ≠ []
    · refine .behind hend.1 ?_ hend.2
      have hskip : (d.skipWhile p).rest = w.dropWhile p := by
        rw [Cursor.skipWhile, hrest, List.dropWhile_append, if_pos (List.isEmpty_iff.mpr hend.1)]
      rw [hskip]
      exact hblanks.dropWhile p
    · have hstops : c.rest.dropWhile p = [] → w = [] := fun hnil =>
        by_contra fun hw => hend ⟨hnil, hw⟩
      refine .within ?_ ?_ hblanks
      · by_cases hnil : c.rest.dropWhile p = []
        · obtain rfl := hstops hnil
          rw [Cursor.skipWhile, hrest, List.append_nil]
          exact (List.append_nil _).symm
        · rw [Cursor.skipWhile, hrest]
          exact dropWhile_append_right hnil w
      · have htaken : d.rest.takeWhile p = c.rest.takeWhile p := by
          rw [hrest, takeWhile_append_right fun hnil => hstops hnil ▸ stops_nil]
        rw [Cursor.skipWhile, Cursor.skipWhile, htaken, hoffset, Nat.add_assoc]
  | behind hend hblanks hw =>
    refine .behind ?_ (hblanks.dropWhile p) hw
    rw [Cursor.skipWhile, hend]
    rfl

theorem skipBlanks (h : Beside k w c d) : Beside k w c.skipBlanks d.skipBlanks :=
  h.skipWhile isBlank

theorem skipInlineBlanks (h : Beside k w c d) :
    Beside k w c.skipInlineBlanks d.skipInlineBlanks :=
  h.skipWhile isInlineBlank

theorem taken_eq {p : Char → Bool} (h : Beside k w c d)
    (hp : (c.skipWhile p).rest = [] → ∀ x, isBlank x = true → p x = false) :
    d.taken p = c.taken p := by
  have hstops : ∀ {b : List Char}, Blanks b → (c.skipWhile p).rest = [] → Stops p b := by
    intro b hb hnil x hx
    exact hp hnil x (hb x (List.mem_of_mem_head? hx))
  cases h with
  | within hrest _ hblanks =>
    rw [taken, hrest]
    exact takeWhile_append_right (hstops hblanks)
  | behind hend hblanks =>
    rw [taken, taken, hend, takeWhile_of_stops (hstops hblanks ?_), List.takeWhile_nil]
    rw [Cursor.skipWhile, hend]
    rfl

/-- The next character is the same, unless the first text is at its end. -/
theorem head?_eq (h : Beside k w c d) :
    d.head? = c.head? ∨
      c.rest = [] ∧ w ≠ [] ∧ ∃ x, d.head? = some x ∧ isBlank x = true := by
  cases hc : c.rest with
  | nil =>
    have hblanks := h.blanks hc
    cases hd : d.rest with
    | nil => exact .inl (by rw [head?, head?, hc, hd])
    | cons x rest =>
      have hx : isBlank x = true := hblanks x (hd ▸ List.mem_cons_self)
      refine .inr ⟨rfl, ?_, x, by rw [head?, hd]; rfl, hx⟩
      rintro rfl
      cases h with
      | within hrest => rw [hrest, hc] at hd; cases hd
      | behind _ _ hw => exact hw rfl
  | cons x rest =>
    cases h with
    | within hrest => exact .inl (by rw [head?, head?, hrest, hc]; rfl)
    | behind hend => rw [hc] at hend; cases hend

theorem head?_eq_some_iff {x : Char} (hx : isBlank x = false) (h : Beside k w c d) :
    d.head? = some x ↔ c.head? = some x := by
  rcases h.head?_eq with heq | ⟨hc, -, y, hy, hblank⟩
  · rw [heq]
  · rw [hy, head?, hc]
    refine ⟨?_, nofun⟩
    rintro ⟨⟩
    rw [hblank] at hx
    cases hx

/-- A class that all blanks are in is passed over alike. -/
theorem head?_skipWhile {p : Char → Bool} (hp : ∀ x, isBlank x = true → p x = true)
    (h : Beside k w c d) : (d.skipWhile p).head? = (c.skipWhile p).head? := by
  rcases (h.skipWhile p).head?_eq with heq | ⟨-, -, x, hx, hblank⟩
  · exact heq
  · have hnot : p x = false := stops_dropWhile x hx
    rw [hp x hblank] at hnot
    cases hnot

theorem head?_skipBlanks (h : Beside k w c d) : d.skipBlanks.head? = c.skipBlanks.head? :=
  h.head?_skipWhile fun _ hx => hx

theorem next {x : Char} (h : Beside k w c d) (hx : c.head? = some x) :
    Beside k w c.next d.next := by
  obtain ⟨offset, rest⟩ := c
  obtain ⟨offset', rest'⟩ := d
  cases rest with
  | nil => cases hx
  | cons y rest =>
    cases h with
    | within hrest hoffset hblanks =>
      change rest' = y :: (rest ++ w) at hrest
      change offset' = k + offset at hoffset
      subst hrest hoffset
      exact .within rfl (Nat.add_assoc _ _ _) hblanks
    | behind hend => cases hend

end Beside

end Cursor

/-- Both attempts return, and what they return is related by `R`, or both fail. With nothing behind
the text they fail alike. -/
inductive SideBySide (k : Nat) (w : List Char) {α : Type} (R : α → α → Prop) :
    Attempt α → Attempt α → Prop
  | ok {a b : α} (h : R a b) : SideBySide k w R (.ok a) (.ok b)
  | error {e e' : ParseError} (h : w = [] → e' = ⟨k + e.offset, e.fault⟩) :
    SideBySide k w R (.error e) (.error e')

namespace SideBySide

open Cursor

variable {k : Nat} {w : List Char} {α β : Type} {R : α → α → Prop} {S : β → β → Prop}

theorem fail {c d : Cursor} (h : Beside k w c d) (fault : Fault) :
    SideBySide k w R (c.fail fault) (d.fail fault) :=
  .error fun hw => congrArg (ParseError.mk · fault) (h.offset_eq hw)

theorem of_errors {x y : Attempt α} (hw : w ≠ []) (hx : ∃ e, x = .error e)
    (hy : ∃ e, y = .error e) : SideBySide k w R x y := by
  obtain ⟨e, rfl⟩ := hx
  obtain ⟨e', rfl⟩ := hy
  exact .error fun h => absurd h hw

theorem exists_error {e : ParseError} {y : Attempt α} (h : SideBySide k w R (.error e) y) :
    ∃ e', y = .error e' := by
  cases h with
  | error => exact ⟨_, rfl⟩

theorem exists_ok {a : α} {y : Attempt α} (h : SideBySide k w R (.ok a) y) :
    ∃ b, y = .ok b ∧ R a b := by
  cases h with
  | ok hab => exact ⟨_, rfl, hab⟩

theorem eq_mapError {x y : Attempt α} (h : SideBySide k [] Eq x y) :
    y = x.mapError fun e => ⟨k + e.offset, e.fault⟩ := by
  cases h with
  | ok hab => exact congrArg Except.ok hab.symm
  | error he => exact congrArg Except.error (he rfl)

theorem ok_iff {x y : Attempt α} (h : SideBySide k w Eq x y) (a : α) :
    y = .ok a ↔ x = .ok a := by
  cases h with
  | ok hab => rw [hab]
  | error => exact ⟨nofun, nofun⟩

/-- What follows may use which results the attempts return. -/
theorem bind_of {x y : Attempt α} {next next' : α → Attempt β} (h : SideBySide k w R x y)
    (hnext : ∀ a b, x = .ok a → y = .ok b → R a b → SideBySide k w S (next a) (next' b)) :
    SideBySide k w S (x >>= next) (y >>= next') := by
  cases h with
  | ok hab => exact hnext _ _ rfl rfl hab
  | error he => exact .error he

theorem bind {x y : Attempt α} {next next' : α → Attempt β} (h : SideBySide k w R x y)
    (hnext : ∀ a b, R a b → SideBySide k w S (next a) (next' b)) :
    SideBySide k w S (x >>= next) (y >>= next') :=
  h.bind_of fun a b _ _ => hnext a b

/-- What follows starts beside the place where the first reader stopped, with what it returned. -/
theorem bind_alongside {x y : Attempt (α × Cursor)} {next next' : α × Cursor → Attempt β}
    (h : SideBySide k w (Alongside k w) x y)
    (hnext : ∀ a c d, Beside k w c d → SideBySide k w S (next (a, c)) (next' (a, d))) :
    SideBySide k w S (x >>= next) (y >>= next') := by
  refine h.bind ?_
  rintro ⟨a, c⟩ ⟨_, d⟩ ⟨rfl, hcd⟩
  exact hnext a c d hcd

theorem ite {p q : Prop} [Decidable p] [Decidable q] {x x' y y' : Attempt α} (hpq : p ↔ q)
    (h : p → SideBySide k w R x y) (h' : ¬p → SideBySide k w R x' y') :
    SideBySide k w R (if p then x else x') (if q then y else y') := by
  by_cases hp : p
  · rw [if_pos hp, if_pos (hpq.mp hp)]
    exact h hp
  · rw [if_neg hp, if_neg (mt hpq.mpr hp)]
    exact h' hp

end SideBySide

end TypeSchema
