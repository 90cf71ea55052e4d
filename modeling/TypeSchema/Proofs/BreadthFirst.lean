import Mathlib.Data.List.Induction
import Mathlib.Data.List.Perm.Subperm

namespace TypeSchema

section FirstOccurrences

variable {α : Type} [DecidableEq α]

theorem eraseDups_concat (l : List α) (a : α) :
    (l ++ [a]).eraseDups = if a ∈ l then l.eraseDups else l.eraseDups ++ [a] := by
  rw [List.eraseDups_append]
  by_cases h : a ∈ l
  · simp [h, List.removeAll]
  · simp [h, List.removeAll, List.eraseDups_cons]

theorem nodup_eraseDups (l : List α) : l.eraseDups.Nodup := by
  induction l using List.reverseRecOn with
  | nil => simp
  | append_singleton l a ih =>
    rw [eraseDups_concat]
    split
    · exact ih
    · next h =>
      rw [List.nodup_append]
      refine ⟨ih, by simp, ?_⟩
      intro b hb c hc hbc
      rw [List.mem_singleton] at hc
      exact h (List.mem_eraseDups.mp (hc ▸ hbc ▸ hb))

theorem eraseDups_append_eraseDups (l m : List α) :
    (l ++ m.eraseDups).eraseDups = (l ++ m).eraseDups := by
  induction m using List.reverseRecOn with
  | nil => simp
  | append_singleton m a ih =>
    rw [eraseDups_concat, ← List.append_assoc, eraseDups_concat]
    by_cases h : a ∈ m
    · rw [if_pos h, if_pos (List.mem_append_right l h), ih]
    · rw [if_neg h, ← List.append_assoc, eraseDups_concat, ih]
      simp

end FirstOccurrences

variable {α : Type} {roots : List α} {next : α → List α}

/-- The least set that holds the roots and, with each member, all that comes next to it. -/
inductive Reached (roots : List α) (next : α → List α) : α → Prop where
  | root {a : α} (h : a ∈ roots) : Reached roots next a
  | step {a b : α} (ha : Reached roots next a) (h : b ∈ next a) : Reached roots next b

theorem mem_of_reached {s : List α} (hroots : roots ⊆ s) (hnext : ∀ a ∈ s, next a ⊆ s) {a : α}
    (h : Reached roots next a) : a ∈ s := by
  induction h with
  | root h => exact hroots h
  | step _ h ih => exact hnext _ ih h

variable [DecidableEq α]

/-- All that is reached, in the order of being met: first the roots, and then what comes next to
each in turn. -/
structure BreadthFirst (roots : List α) (next : α → List α) (order : List α) : Prop where
  mem_iff : ∀ a, a ∈ order ↔ Reached roots next a
  order_eq : order = (roots ++ order.flatMap next).eraseDups

namespace BreadthFirst

theorem nodup {order : List α} (h : BreadthFirst roots next order) : order.Nodup := by
  rw [h.order_eq]
  exact nodup_eraseDups _

/-- What a proper beginning of the order leads to goes on beyond it, or else nothing more would be
reached. -/
theorem take_succ {order : List α} (h : BreadthFirst roots next order) {k : ℕ}
    (hk : k < order.length) :
    order.take (k + 1) = (roots ++ (order.take k).flatMap next).eraseDups.take (k + 1) := by
  set met := (roots ++ (order.take k).flatMap next).eraseDups with hmet
  have hprefix : met <+: order := by
    refine ⟨((order.drop k).flatMap next |>.removeAll
      (roots ++ (order.take k).flatMap next)).eraseDups, ?_⟩
    rw [hmet, ← List.eraseDups_append, List.append_assoc, ← List.flatMap_append,
      List.take_append_drop]
    exact h.order_eq.symm
  have hlen : k + 1 ≤ met.length := by
    -- Were nothing new met, the beginning would be closed under `next` and hold all there is.
    by_contra hcon
    have hsub : met ⊆ order.take k := by
      have htake : met = order.take met.length := List.prefix_iff_eq_take.mp hprefix
      rw [htake]
      exact (List.take_prefix_take_left (by omega)).subset
    have hall : order ⊆ order.take k := by
      intro a ha
      refine mem_of_reached ?_ ?_ ((h.mem_iff a).mp ha)
      · intro b hb
        exact hsub (List.mem_eraseDups.mpr (List.mem_append_left _ hb))
      · intro b hb c hc
        exact hsub (List.mem_eraseDups.mpr
          (List.mem_append_right _ (List.mem_flatMap.mpr ⟨b, hb, hc⟩)))
    have := (List.subperm_of_subset h.nodup hall).length_le
    rw [List.length_take] at this
    omega
  obtain ⟨rest, hrest⟩ := hprefix
  rw [← hrest, List.take_append_of_le_length hlen]

theorem take_eq_take {order order' : List α} (h : BreadthFirst roots next order)
    (h' : BreadthFirst roots next order') {k : ℕ} (hk : k ≤ order.length)
    (hk' : k ≤ order'.length) : order.take k = order'.take k := by
  induction k with
  | zero => simp
  | succ k ih =>
    rw [h.take_succ hk, h'.take_succ hk', ih (by omega) (by omega)]

/-- There is only one such order. -/
theorem unique {order order' : List α} (h : BreadthFirst roots next order)
    (h' : BreadthFirst roots next order') : order' = order := by
  have hsub : order ⊆ order' := fun a ha => (h'.mem_iff a).mpr ((h.mem_iff a).mp ha)
  have hsub' : order' ⊆ order := fun a ha => (h.mem_iff a).mpr ((h'.mem_iff a).mp ha)
  have hle := (List.subperm_of_subset h.nodup hsub).length_le
  have hle' := (List.subperm_of_subset h'.nodup hsub').length_le
  have htake := take_eq_take h h' (Nat.le_refl _) hle
  rw [List.take_length, List.take_of_length_le hle'] at htake
  exact htake.symm

end BreadthFirst

end TypeSchema
