import TypeSchema.Proofs.Resolution

namespace TypeSchema

namespace TypeExpr

/-- The type behind `n` pointers. -/
def pointers (e : TypeExpr) : Nat → TypeExpr
  | 0 => e
  | n + 1 => pointer (e.pointers n)

def pointerDepth : TypeExpr → Nat
  | pointer target => target.pointerDepth + 1
  | _ => 0

def isFuncOrChan : TypeExpr → Bool
  | func _ _ => true
  | chan _ => true
  | _ => false

/-- A text behind `n` stars. -/
def starred (n : Nat) (text : String) : String := String.ofList (List.replicate n '*') ++ text

theorem pointers_stripPointers (e : TypeExpr) : e.stripPointers.pointers e.pointerDepth = e := by
  induction e using stripPointers.induct with
  | case1 target ih => exact congrArg pointer ih
  | case2 e h =>
    cases e with
    | pointer target => exact absurd rfl (h target)
    | _ => rfl

theorem chars_pointers (e : TypeExpr) (n : Nat) :
    (e.pointers n).chars = List.replicate n '*' ++ e.chars := by
  induction n with
  | zero => rfl
  | succ n ih => exact congrArg ('*' :: ·) ih

theorem text_pointers (e : TypeExpr) (n : Nat) : (e.pointers n).text = starred n e.text := by
  rw [text, chars_pointers, String.ofList_append]
  rfl

end TypeExpr

namespace Registry

open TypeExpr

variable {r : Registry} {e : TypeExpr} {n : Nat}

/-- The override that is met first on the way through `n` pointers to a type. -/
def pointerOverride? (r : Registry) (e : TypeExpr) : Nat → Option Descriptor
  | 0 => none
  | n + 1 => (r.overriding (e.pointers (n + 1))).or (r.pointerOverride? e n)

theorem overriding_eq_none_iff : r.overriding e = none ↔ r.override? e.text = none :=
  Option.map_eq_none_iff

theorem overriding_pointers (r : Registry) (e : TypeExpr) (n : Nat) :
    r.overriding (e.pointers n) = (r.override? (starred n e.text)).map .uniform := by
  rw [overriding, text_pointers]

theorem pointerOverride?_eq_none_iff :
    r.pointerOverride? e n = none ↔
      ∀ k, 1 ≤ k → k ≤ n → r.override? (starred k e.text) = none := by
  induction n with
  | zero => exact ⟨fun _ k hk hn => by omega, fun _ => rfl⟩
  | succ n ih =>
    rw [pointerOverride?, Option.or_eq_none_iff, ih, overriding_pointers, Option.map_eq_none_iff]
    constructor
    · rintro ⟨hlast, hrest⟩ k hk hn
      rcases Nat.le_succ_iff.mp hn with hn | rfl
      · exact hrest k hk hn
      · exact hlast
    · intro h
      exact ⟨h _ (by omega) (by omega), fun k hk hn => h k hk (by omega)⟩

/-- A type has no override, with or without stars, if none is met on the way to it or at it. -/
theorem forall_le_override?_eq_none_iff :
    (∀ k, k ≤ n → r.override? (starred k e.text) = none) ↔
      r.pointerOverride? e n = none ∧ r.override? e.text = none := by
  have hzero : starred 0 e.text = e.text := String.empty_append
  rw [pointerOverride?_eq_none_iff]
  constructor
  · intro h
    exact ⟨fun k _ hk => h k hk, hzero ▸ h 0 (Nat.zero_le n)⟩
  · rintro ⟨hstars, hbare⟩ k hk
    rcases Nat.eq_zero_or_pos k with rfl | hpos
    · rw [hzero, hbare]
    · exact hstars k hpos hk

theorem pointerOverride?_of_outermost {k : Nat} {word : String} (hk : 1 ≤ k) (hn : k ≤ n)
    (hword : r.override? (starred k e.text) = some word)
    (houter : ∀ j, k < j → j ≤ n → r.override? (starred j e.text) = none) :
    r.pointerOverride? e n = some (.uniform word) := by
  induction n with
  | zero => omega
  | succ n ih =>
    rw [pointerOverride?, overriding_pointers]
    rcases Nat.le_succ_iff.mp hn with hlt | rfl
    · rw [houter _ (by omega) (by omega)]
      exact ih hlt fun j hj hj' => houter j hj (by omega)
    · rw [hword]
      rfl

end Registry

namespace Resolver

open TypeExpr

variable {σ : Type} [DefinitionSink σ]

theorem classify_pointers (r : Resolver σ) (e : TypeExpr) (n : Nat) :
    r.classify (e.pointers n) =
      match r.registry.pointerOverride? e n with
      | some d => (.ok d, r)
      | none => r.classify e := by
  induction n with
  | zero => rfl
  | succ n ih =>
    -- The outermost pointer is looked up first, and what it points at is behind one pointer less.
    rw [Registry.pointerOverride?, pointers, classify_pointer]
    cases r.registry.overriding (.pointer (e.pointers n)) with
    | some d => rfl
    | none => exact ih

/-- Pointers carry no meaning: a type behind them has the descriptor or the error that it has
without them, and asks for the same definition, as long as no override is keyed by a text with
stars. Of the overrides that are, the one with the most stars takes the place of the type. -/
theorem classify_behind_pointers (r : Resolver σ) (e : TypeExpr) (n : Nat) :
    ((∀ k, 1 ≤ k → k ≤ n → r.registry.override? (starred k e.text) = none) →
      r.classify (e.pointers n) = r.classify e) ∧
    ∀ k word, 1 ≤ k → k ≤ n → r.registry.override? (starred k e.text) = some word →
      (∀ j, k < j → j ≤ n → r.registry.override? (starred j e.text) = none) →
      r.classify (e.pointers n) = (.ok (.uniform word), r) := by
  constructor
  · intro h
    rw [classify_pointers, Registry.pointerOverride?_eq_none_iff.mpr h]
  · intro k word hk hn hword houter
    rw [classify_pointers, Registry.pointerOverride?_of_outermost hk hn hword houter]

/-- Three pointers to a list of parts say no more than the list; with an override for two of them
the list is a string. -/
theorem classify_behind_pointers_parts :
    let parts : TypeExpr := .array (.ident "acme/models" "Part")
    let plain := Registry.empty.register ⟨"acme/models", "Part", .struct []⟩
    let r : Resolver Unit := .ofSink plain ()
    let overriding : Resolver Unit := .ofSink (plain.addOverride "**[]models.Part" "string") ()
    (r.classify parts).1 = .ok ⟨"array", "Part", "models"⟩ ∧
      (∀ k, 1 ≤ k → k ≤ 3 → plain.override? (starred k parts.text) = none) ∧
      r.classify (parts.pointers 3) = r.classify parts ∧
      overriding.classify (parts.pointers 3) = (.ok (.uniform "string"), overriding) := by
  intro parts plain r overriding
  have hnone : ∀ k, 1 ≤ k → k ≤ 3 → plain.override? (starred k parts.text) = none :=
    fun _ _ _ => rfl
  have houter : ∀ j, 2 < j → j ≤ 3 →
      overriding.registry.override? (starred j parts.text) = none := by
    intro j hj hj'
    obtain rfl : j = 3 := by omega
    decide
  refine ⟨rfl, hnone, (classify_behind_pointers r parts 3).1 hnone, ?_⟩
  exact (classify_behind_pointers overriding parts 3).2 2 "string" (by decide) (by decide)
    (by decide) houter

theorem classify_eq_error_iff_of_not_pointer (r : Resolver σ) {f : TypeExpr}
    (hf : f.isPointer = false) (u : Unsupported) (r' : Resolver σ) :
    r.classify f = (.error u, r') ↔
      f.isFuncOrChan = true ∧ r.registry.override? f.text = none ∧ u = ⟨f.text⟩ ∧ r' = r := by
  rw [← Registry.overriding_eq_none_iff]
  cases f with
  | ident path name =>
    by_cases hp : path.isEmpty = true
    · simp [classify_bare hp, isFuncOrChan]
    · simp [classify_qualified (Bool.eq_false_iff.mpr hp), isFuncOrChan]
  | pointer target => cases hf
  | array element =>
    rw [classify_array]
    cases r.registry.overriding (.array element) <;> simp [isFuncOrChan]
  | func params results =>
    rw [classify_func]
    cases r.registry.overriding (.func params results) <;> simp [isFuncOrChan, eq_comm]
  | chan message =>
    rw [classify_chan]
    cases r.registry.overriding (.chan message) <;> simp [isFuncOrChan, eq_comm]
  | _ => simp [classify, isFuncOrChan]

/-- Only a func or a chan is refused, alone or behind pointers, and only where no override is keyed
by its text with as many stars as there are pointers or fewer. It is refused by its own text, and
everything is left as it was. -/
theorem classify_eq_error_iff (r : Resolver σ) (e : TypeExpr) (u : Unsupported) (r' : Resolver σ) :
    r.classify e = (.error u, r') ↔
      e.stripPointers.isFuncOrChan = true ∧
      (∀ k, k ≤ e.pointerDepth → r.registry.override? (starred k e.stripPointers.text) = none) ∧
      u = ⟨e.stripPointers.text⟩ ∧ r' = r := by
  have hpointers := r.classify_pointers e.stripPointers e.pointerDepth
  have hbare := r.classify_eq_error_iff_of_not_pointer (isPointer_stripPointers e) u r'
  rw [pointers_stripPointers] at hpointers
  rw [hpointers, Registry.forall_le_override?_eq_none_iff]
  cases r.registry.pointerOverride? e.stripPointers e.pointerDepth with
  | some d => simp
  | none => simp [hbare]

/-- An override for one pointer to a function is met before the function is. -/
example :
    ((ofSink (Registry.empty.addOverride "*func(int)" "string") ()).classify
      ((TypeExpr.func [.ident "" "int"] []).pointers 2)).1 = .ok (.uniform "string") := rfl

end Resolver

end TypeSchema
