import TypeSchema.Proofs.CharacterClasses
import TypeSchema.TypeExpr.Parser

namespace TypeSchema

open Text

namespace Cursor

/-- From `c` on, `d` is reached by reading whole characters. -/
def Reaches (c d : Cursor) : Prop := ∃ read, Reads read c d

variable {c d e : Cursor}

theorem Reaches.refl (c : Cursor) : c.Reaches c := ⟨[], rfl, rfl⟩

theorem Reaches.trans (h : c.Reaches d) (h' : d.Reaches e) : c.Reaches e := by
  obtain ⟨read, hread⟩ := h
  obtain ⟨more, hmore⟩ := h'
  exact ⟨read ++ more, hread.trans hmore⟩

theorem reaches_next (c : Cursor) : c.Reaches c.next := by
  obtain ⟨offset, rest⟩ := c
  cases rest with
  | nil => exact .refl _
  | cons x rest => exact ⟨[x], rfl, rfl⟩

theorem Reaches.length_le (h : c.Reaches d) : d.rest.length ≤ c.rest.length := by
  obtain ⟨read, hrest, -⟩ := h
  rw [hrest, List.length_append]
  exact Nat.le_add_left _ _

end Cursor

/-- An attempt with the cursors it stood at, in their order. -/
structure Tracked (α : Type) where
  cursors : List Cursor
  result : Attempt α

namespace Tracked

def bind {α β : Type} (x : Tracked α) (next : α → Tracked β) : Tracked β :=
  match x.result with
  | .ok a => ⟨x.cursors ++ (next a).cursors, (next a).result⟩
  | .error e => ⟨x.cursors, .error e⟩

instance : Monad Tracked where
  pure a := ⟨[], .ok a⟩
  bind := bind

def standAt (c : Cursor) : Tracked Cursor := ⟨[c], .ok c⟩

/-- Looks at the character under the cursor and moves behind it. -/
def next (c : Cursor) : Tracked Cursor := do
  let c ← standAt c
  standAt c.next

/-- Looks at one character after the other, up to the first one that `p` does not hold of. -/
def readWhile (p : Char → Bool) : Nat → List Char → Tracked Cursor
  | offset, [] => standAt ⟨offset, []⟩
  | offset, x :: rest =>
    if p x then do
      let c ← next ⟨offset, x :: rest⟩
      readWhile p c.offset rest
    else standAt ⟨offset, x :: rest⟩

instance : Scanner Tracked where
  next := next
  skipWhile p c := readWhile p c.offset c.rest
  fail c fault := ⟨[c], c.fail fault⟩

/-- The account of a whole reading: every character that is looked at, every move to the next one,
and every place that a fault is reported at is entered in it. -/
def parse (src : String) : Tracked TypeExpr := TypeExpr.parseChars src.toList

variable {α β : Type} {c d : Cursor}

theorem result_bind (x : Tracked α) (next : α → Tracked β) :
    (x >>= next).result = x.result >>= fun a => (next a).result := by
  change (x.bind next).result = _
  unfold Tracked.bind
  cases x.result <;> rfl

theorem mem_cursors_bind {x : Tracked α} {next : α → Tracked β} :
    d ∈ (x >>= next).cursors ↔
      d ∈ x.cursors ∨ ∃ a, x.result = .ok a ∧ d ∈ (next a).cursors := by
  change d ∈ (x.bind next).cursors ↔ _
  unfold Tracked.bind
  cases x.result with
  | error e => simp
  | ok a => simp

/-- `x` is an account of `attempt`: it comes to the same result, it stands at no other places than
those that are reached from `c`, and stops at one of them. A fault is reported at a place where it
stood. -/
structure Accounts (stop : α → Cursor) (c : Cursor) (x : Tracked α) (attempt : Attempt α) :
    Prop where
  result : x.result = attempt
  reaches : ∀ d ∈ x.cursors, c.Reaches d
  stops : ∀ a, attempt = .ok a → c.Reaches (stop a)
  faults : ∀ e, attempt = .error e → ∃ d ∈ x.cursors, d.offset = e.offset

section

variable {stop : α → Cursor} {stop' : β → Cursor}

theorem Accounts.trans {x : Tracked α} {attempt : Attempt α} (hcd : c.Reaches d)
    (h : Accounts stop d x attempt) : Accounts stop c x attempt where
  result := h.result
  reaches e he := hcd.trans (h.reaches e he)
  stops a ha := hcd.trans (h.stops a ha)
  faults := h.faults

theorem accounts_pure {a : α} (h : c.Reaches (stop a)) :
    Accounts stop c (pure a) (pure a) where
  result := rfl
  reaches d hd := by cases hd
  stops := by
    rintro _ ⟨⟩
    exact h
  faults := nofun

theorem accounts_fail (h : c.Reaches d) (fault : Fault) :
    Accounts stop c (Scanner.fail d fault) (Scanner.fail d fault) where
  result := rfl
  reaches e he := List.mem_singleton.mp he ▸ h
  stops := nofun
  faults := by
    rintro _ ⟨⟩
    exact ⟨d, List.mem_singleton_self d, rfl⟩

/-- What follows may look back to where the reading began. -/
theorem accounts_bind_from {x : Tracked α} {attempt : Attempt α} {next : α → Tracked β}
    {next' : α → Attempt β} (h : Accounts stop c x attempt)
    (hnext : ∀ a, attempt = .ok a → Accounts stop' c (next a) (next' a)) :
    Accounts stop' c (x >>= next) (attempt >>= next') := by
  obtain ⟨rfl, hreaches, -, hfaults⟩ := h
  cases hx : x.result with
  | error e =>
    refine ⟨by rw [result_bind, hx]; rfl, ?_, nofun, ?_⟩
    · intro d hd
      rcases mem_cursors_bind.mp hd with hd | ⟨a, ha, -⟩
      · exact hreaches d hd
      · rw [hx] at ha
        cases ha
    · rintro _ ⟨⟩
      obtain ⟨d, hd, hoffset⟩ := hfaults e hx
      exact ⟨d, mem_cursors_bind.mpr (.inl hd), hoffset⟩
  | ok a =>
    have ha := hnext a hx
    refine ⟨by rw [result_bind, hx]; exact ha.result, ?_, ha.stops, ?_⟩
    · intro d hd
      rcases mem_cursors_bind.mp hd with hd | ⟨b, hb, hd⟩
      · exact hreaches d hd
      · obtain rfl : a = b := Except.ok.inj (hx.symm.trans hb)
        exact ha.reaches d hd
    · intro e he
      obtain ⟨d, hd, hoffset⟩ := ha.faults e he
      exact ⟨d, mem_cursors_bind.mpr (.inr ⟨a, hx, hd⟩), hoffset⟩

theorem accounts_bind {x : Tracked α} {attempt : Attempt α} {next : α → Tracked β}
    {next' : α → Attempt β} (h : Accounts stop c x attempt)
    (hnext : ∀ a, Accounts stop' (stop a) (next a) (next' a)) :
    Accounts stop' c (x >>= next) (attempt >>= next') :=
  accounts_bind_from h fun a ha => (hnext a).trans (h.stops a ha)

theorem accounts_ite {p : Prop} [Decidable p] {x y : Tracked α} {x' y' : Attempt α}
    (h : p → Accounts stop c x x') (h' : ¬p → Accounts stop c y y') :
    Accounts stop c (if p then x else y) (if p then x' else y') := by
  by_cases hp : p
  · rw [if_pos hp, if_pos hp]
    exact h hp
  · rw [if_neg hp, if_neg hp]
    exact h' hp

end

theorem accounts_standAt (h : c.Reaches d) : Accounts id c (standAt d) (.ok d) where
  result := rfl
  reaches e he := List.mem_singleton.mp he ▸ h
  stops := by
    rintro _ ⟨⟩
    exact h
  faults := nofun

theorem accounts_next (c : Cursor) : Accounts id c (Scanner.next c) (Scanner.next c) :=
  accounts_bind (accounts_standAt (.refl c)) fun c => accounts_standAt c.reaches_next

theorem accounts_readWhile (p : Char → Bool) (offset : Nat) (rest : List Char) :
    Accounts id ⟨offset, rest⟩ (readWhile p offset rest)
      (.ok (Cursor.skipWhile p ⟨offset, rest⟩)) := by
  induction rest generalizing offset with
  | nil => exact accounts_standAt (.refl _)
  | cons x rest ih =>
    unfold readWhile
    by_cases hp : p x = true
    · have hskip : Cursor.skipWhile p ⟨offset, x :: rest⟩ =
          Cursor.skipWhile p (Cursor.next ⟨offset, x :: rest⟩) := by
        simp only [Cursor.skipWhile, Cursor.next, List.takeWhile_cons_of_pos hp,
          List.dropWhile_cons_of_pos hp, Cursor.mk.injEq, and_true]
        exact (Nat.add_assoc _ _ _).symm
      rw [if_pos hp, hskip]
      change Accounts id _ _ (Scanner.next ⟨offset, x :: rest⟩ >>= fun c => .ok (c.skipWhile p))
      refine accounts_bind_from (accounts_next _) ?_
      rintro _ ⟨⟩
      exact (ih _).trans (Cursor.reaches_next _)
    · have hskip : Cursor.skipWhile p ⟨offset, x :: rest⟩ = ⟨offset, x :: rest⟩ :=
        Cursor.skipWhile_of_stops (stops_cons (Bool.eq_false_iff.mpr hp))
      rw [if_neg hp, hskip]
      exact accounts_standAt (.refl _)

theorem accounts_skipWhile (p : Char → Bool) (c : Cursor) :
    Accounts id c (Scanner.skipWhile p c) (Scanner.skipWhile p c) :=
  accounts_readWhile p c.offset c.rest

theorem accounts_skipBlanks (c : Cursor) :
    Accounts id c (Scanner.skipBlanks c) (Scanner.skipBlanks c) :=
  accounts_skipWhile isBlank c

theorem accounts_skipInlineBlanks (c : Cursor) :
    Accounts id c (Scanner.skipInlineBlanks c) (Scanner.skipInlineBlanks c) :=
  accounts_skipWhile isInlineBlank c

theorem accounts_expect (x : Char) (c : Cursor) :
    Accounts id c (Scanner.expect x c) (Scanner.expect x c) :=
  accounts_bind (accounts_skipBlanks c) fun _ =>
    accounts_ite (fun _ => accounts_next _) fun _ => accounts_fail (.refl _) _

end Tracked

end TypeSchema
