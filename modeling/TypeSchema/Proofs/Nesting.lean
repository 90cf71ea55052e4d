import Mathlib.Data.Finset.Card
import TypeSchema.Proofs.Collection

namespace TypeSchema

theorem TypeDecl.fields?_eq_some_iff {d : TypeDecl} {fields : List (Field TypeExpr)} :
    d.fields? = some fields ↔ d.type = .struct fields := by
  unfold fields?
  cases d.type <;> simp

namespace Registry

/-- The names of the declared structs. -/
def structNames (r : Registry) : Finset DeclName :=
  ((r.decls.filter (·.type.isStruct)).map TypeDecl.declName).toFinset

def structCount (r : Registry) : Nat := (r.decls.filter (·.type.isStruct)).length

variable {r : Registry}

theorem card_structNames (r : Registry) : r.structNames.card = r.structCount := by
  have hnodup : ((r.decls.filter (·.type.isStruct)).map TypeDecl.declName).Nodup :=
    r.distinct.sublist (List.filter_sublist.map _)
  rw [structNames, List.toFinset_card_of_nodup hnodup, List.length_map, structCount]

theorem structCount_le_size (r : Registry) : r.structCount ≤ r.size := List.length_filter_le _ _

theorem mem_structNames {d : TypeDecl} {fields : List (Field TypeExpr)} (hd : d ∈ r.decls)
    (hf : d.fields? = some fields) : d.declName ∈ r.structNames := by
  have hs : d.type.isStruct = true := by
    rw [TypeDecl.fields?_eq_some_iff.mp hf]
    rfl
  rw [structNames, List.mem_toFinset]
  exact List.mem_map_of_mem (List.mem_filter.mpr ⟨hd, hs⟩)

theorem embeddedStruct?_eq_some_iff {path : String} {f : Field TypeExpr} {d : TypeDecl}
    {fields : List (Field TypeExpr)} :
    r.embeddedStruct? path f = some (d, fields) ↔
      f.isEmbedded = true ∧ f.hasJsonName = false ∧
        (∃ n, f.embeddedName? path = some n ∧ r.lookup n = some d) ∧ d.fields? = some fields := by
  rw [embeddedStruct?]
  cases f.isEmbedded <;> cases f.hasJsonName <;>
    simp [Option.bind_eq_some_iff, ← and_assoc]

theorem mem_of_embeddedStruct {path : String} {f : Field TypeExpr} {d : TypeDecl}
    {fields : List (Field TypeExpr)} (h : r.embeddedStruct? path f = some (d, fields)) :
    d.declName ∈ r.structNames := by
  obtain ⟨-, -, ⟨n, -, hl⟩, hf⟩ := embeddedStruct?_eq_some_iff.mp h
  exact mem_structNames (mem_of_lookup hl) hf

end Registry

namespace Collected

/-- `Collects registry path fields visiting c calls visiting' c'`: while the structs `visiting` are
being collected, collecting `fields` as well takes `c` to `c'` and leaves `visiting'`, with at most
`calls` collections under way at once, this one among them. -/
inductive Collects (registry : Registry) :
    String → List (Field TypeExpr) → Finset DeclName → Collected → Nat → Finset DeclName →
      Collected → Prop where
  | done {path : String} {visiting : Finset DeclName} {c : Collected} :
    Collects registry path [] visiting c 1 visiting c
  | hidden {path : String} {f : Field TypeExpr} {fields : List (Field TypeExpr)}
    {visiting visiting' : Finset DeclName} {c c' : Collected} {calls : Nat}
    (hf : f.isHidden = true)
    (rest : Collects registry path fields visiting c calls visiting' c') :
    Collects registry path (f :: fields) visiting c calls visiting' c'
  | property {path : String} {f : Field TypeExpr} {fields : List (Field TypeExpr)}
    {visiting visiting' : Finset DeclName} {c c' : Collected} {calls : Nat}
    (hf : f.isHidden = false) (he : registry.embeddedStruct? path f = none)
    (rest : Collects registry path fields visiting (c.addField f) calls visiting' c') :
    Collects registry path (f :: fields) visiting c calls visiting' c'
  | again {path : String} {f : Field TypeExpr} {fields inner : List (Field TypeExpr)}
    {d : TypeDecl} {visiting visiting' : Finset DeclName} {c c' : Collected} {calls : Nat}
    (hf : f.isHidden = false) (he : registry.embeddedStruct? path f = some (d, inner))
    (hd : d.declName ∈ visiting)
    (rest : Collects registry path fields visiting c calls visiting' c') :
    Collects registry path (f :: fields) visiting c calls visiting' c'
  | embedded {path : String} {f : Field TypeExpr} {fields inner : List (Field TypeExpr)}
    {d : TypeDecl} {visiting visited visiting' : Finset DeclName} {c c' c'' : Collected}
    {within calls : Nat}
    (hf : f.isHidden = false) (he : registry.embeddedStruct? path f = some (d, inner))
    (hd : d.declName ∉ visiting)
    (nested : Collects registry d.modulePath inner (insert d.declName visiting) c within visited c')
    (rest : Collects registry path fields (visited.erase d.declName) c' calls visiting' c'') :
    Collects registry path (f :: fields) visiting c (max (within + 1) calls) visiting' c''

variable {registry : Registry} {path : String} {fields : List (Field TypeExpr)}
  {visiting visiting' : Finset DeclName} {c c' : Collected} {calls : Nat}

theorem Collects.calls_pos (h : Collects registry path fields visiting c calls visiting' c') :
    0 < calls := by
  induction h with
  | done => exact Nat.one_pos
  | hidden _ _ ih => exact ih
  | property _ _ _ ih => exact ih
  | again _ _ _ _ ih => exact ih
  | embedded _ _ _ _ _ _ ih => exact Nat.lt_of_lt_of_le ih (Nat.le_max_right _ _)

/-- A struct is taken off again once its fields have been collected. -/
theorem Collects.visiting_eq (h : Collects registry path fields visiting c calls visiting' c') :
    visiting' = visiting := by
  induction h with
  | done => rfl
  | hidden _ _ ih => exact ih
  | property _ _ _ ih => exact ih
  | again _ _ _ _ ih => exact ih
  | embedded _ _ hd _ _ ihn ih => rw [ih, ihn, Finset.erase_insert hd]

/-- Each collection under way is one of another struct. -/
theorem Collects.calls_le (h : Collects registry path fields visiting c calls visiting' c')
    (hv : visiting ⊆ registry.structNames) :
    calls + visiting.card ≤ registry.structNames.card + 1 := by
  induction h with
  | done =>
    have := Finset.card_le_card hv
    omega
  | hidden _ _ ih => exact ih hv
  | property _ _ _ ih => exact ih hv
  | again _ _ _ _ ih => exact ih hv
  | embedded _ he hd nested _ ihn ih =>
    have hin := ihn (Finset.insert_subset (Registry.mem_of_embeddedStruct he) hv)
    rw [nested.visiting_eq, Finset.erase_insert hd] at ih
    have hout := ih hv
    rw [Finset.card_insert_of_notMem hd] at hin
    omega

/-- A run always ends: going into another struct leaves fewer to go into. -/
theorem exists_collects (hv : visiting ⊆ registry.structNames) (path : String)
    (fields : List (Field TypeExpr)) (c : Collected) :
    ∃ calls visiting' c', Collects registry path fields visiting c calls visiting' c' := by
  induction hk : registry.structNames.card - visiting.card using Nat.strong_induction_on
    generalizing visiting path fields c with
  | h k ih =>
    subst hk
    -- The outer induction goes into structs, the inner one along the fields of one struct.
    induction fields generalizing c with
    | nil => exact ⟨1, visiting, c, .done⟩
    | cons f fields ihf =>
      cases hf : f.isHidden with
      | true =>
        obtain ⟨calls, visiting', c', rest⟩ := ihf c
        exact ⟨calls, visiting', c', .hidden hf rest⟩
      | false =>
        cases he : registry.embeddedStruct? path f with
        | none =>
          obtain ⟨calls, visiting', c', rest⟩ := ihf (c.addField f)
          exact ⟨calls, visiting', c', .property hf he rest⟩
        | some found =>
          obtain ⟨d, inner⟩ := found
          by_cases hd : d.declName ∈ visiting
          · obtain ⟨calls, visiting', c', rest⟩ := ihf c
            exact ⟨calls, visiting', c', .again hf he hd rest⟩
          · have hsub := Finset.insert_subset (Registry.mem_of_embeddedStruct he) hv
            have hcard := Finset.card_le_card hsub
            rw [Finset.card_insert_of_notMem hd] at hcard
            obtain ⟨within, visited, c₁, nested⟩ := ih _ (by
              rw [Finset.card_insert_of_notMem hd]
              omega) hsub d.modulePath inner c rfl
            obtain ⟨calls, visiting', c₂, rest⟩ := ihf c₁
            have hback : visited.erase d.declName = visiting := by
              rw [nested.visiting_eq, Finset.erase_insert hd]
            exact ⟨_, visiting', c₂, .embedded hf he hd nested (hback ▸ rest)⟩

theorem collectFields_cons (depth : Nat) (path : String) (outer : List DeclName)
    (f : Field TypeExpr) (fields : List (Field TypeExpr)) (c : Collected) :
    collectFields (depth + 1) path outer (f :: fields) c =
      collectFields (depth + 1) path outer fields
        (collectField (collectFields depth) path outer c f) :=
  List.foldl_cons ..

/-- The bounded function does what a run does, if its bound allows for the collections under way. -/
theorem Collects.collectFields_eq (h : Collects registry path fields visiting c calls visiting' c')
    (hr : c.resolver.registry = registry) (depth : Nat) (hd : calls ≤ depth + 1)
    {outer : List DeclName} (ho : ∀ n, n ∈ outer ↔ n ∈ visiting) :
    collectFields (depth + 1) path outer fields c = c' ∧ c'.resolver.registry = registry := by
  induction h generalizing depth outer with
  | done => exact ⟨rfl, hr⟩
  | hidden hf _ ih =>
    rw [collectFields_cons, collectField, if_pos hf]
    exact ih hr depth hd ho
  | property hf he _ ih =>
    rw [collectFields_cons, collectField, if_neg (Bool.eq_false_iff.mp hf), hr, he]
    exact ih ((registry_addFields _ [_]).trans hr) depth hd ho
  | again hf he hv _ ih =>
    rw [collectFields_cons, collectField, if_neg (Bool.eq_false_iff.mp hf), hr, he]
    simp only [if_pos ((ho _).mpr hv)]
    exact ih hr depth hd ho
  | @embedded path f fields inner d visiting visited _ _ _ _ _ _ hf he hv nested _ ihn ih =>
    have hwithin := nested.calls_pos
    obtain ⟨depth, rfl⟩ : ∃ k, depth = k + 1 := Nat.exists_eq_add_one.mpr (by omega)
    have ho' : ∀ n, n ∈ d.declName :: outer ↔ n ∈ insert d.declName visiting := by simp [ho]
    obtain ⟨hinner, hr'⟩ := ihn hr depth (by omega) ho'
    rw [collectFields_cons, collectField, if_neg (Bool.eq_false_iff.mp hf), hr, he]
    simp only [if_neg (fun h => hv ((ho _).mp h)), hinner]
    -- The struct is off the list again, so the rest is collected inside the same structs as before.
    rw [nested.visiting_eq, Finset.erase_insert hv] at ih
    exact ih hr' (depth + 1) (by omega) ho

/-- Collecting a declared struct is a run, and at most as many collections are under way in it as
structs are declared. -/
theorem collects_collectStruct {r : Resolver Pending} {d : TypeDecl} (hd : d ∈ r.registry.decls)
    {fields : List (Field TypeExpr)} (hf : d.fields? = some fields) :
    (∃ calls, Collects r.registry d.modulePath fields {d.declName} ⟨r, .empty, []⟩ calls
      {d.declName} (r.collectStruct d fields)) ∧
    ∀ calls visiting' c, Collects r.registry d.modulePath fields {d.declName} ⟨r, .empty, []⟩ calls
      visiting' c → calls ≤ r.registry.structCount ∧ visiting' = {d.declName} ∧
        c = r.collectStruct d fields := by
  have hv : {d.declName} ⊆ r.registry.structNames :=
    Finset.singleton_subset_iff.mpr (Registry.mem_structNames hd hf)
  have hrun : ∀ calls visiting' c, Collects r.registry d.modulePath fields {d.declName}
      ⟨r, .empty, []⟩ calls visiting' c → calls ≤ r.registry.structCount ∧
        visiting' = {d.declName} ∧ c = r.collectStruct d fields := by
    intro calls visiting' c h
    have hcalls := h.calls_le hv
    rw [Finset.card_singleton, Registry.card_structNames] at hcalls
    have hsize := r.registry.structCount_le_size
    have hpos := h.calls_pos
    obtain ⟨depth, hdepth⟩ : ∃ k, r.registry.size = k + 1 := Nat.exists_eq_add_one.mpr (by omega)
    have houter : ∀ n, n ∈ [d.declName] ↔ n ∈ ({d.declName} : Finset DeclName) := by simp
    have hc := h.collectFields_eq rfl depth (by omega) houter
    refine ⟨by omega, h.visiting_eq, ?_⟩
    rw [Resolver.collectStruct, hdepth, hc.1]
  obtain ⟨calls, visiting', c, h⟩ := exists_collects hv d.modulePath fields ⟨r, .empty, []⟩
  obtain ⟨-, rfl, rfl⟩ := hrun calls visiting' c h
  exact ⟨⟨calls, h⟩, hrun⟩

end Collected

end TypeSchema
