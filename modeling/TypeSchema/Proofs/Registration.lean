import Mathlib.Data.List.Dedup
import TypeSchema.Manifest.Registry
import TypeSchema.Proofs.Qualification

namespace TypeSchema

namespace Registry

variable {r : Registry} {d e : TypeDecl} {n : DeclName}

theorem lookup_eq_some_iff : r.lookup n = some d ↔ d ∈ r.decls ∧ d.declName = n := by
  constructor
  · exact fun h => ⟨mem_of_lookup h, declName_of_lookup h⟩
  · rintro ⟨hd, rfl⟩
    exact find?_of_nodup_map r.distinct hd

/-- The declaration takes the place of the one known alike, if there is one. -/
theorem mem_decls_register :
    e ∈ (r.register d).decls ↔ e = d ∨ e ∈ r.decls ∧ e.declName ≠ d.declName := by
  show e ∈ place d r.decls ↔ _
  unfold place
  split
  · next hknown =>
    obtain ⟨old, hold, hname⟩ := hknown
    rw [List.mem_map]
    constructor
    · rintro ⟨x, hx, rfl⟩
      split
      · exact .inl rfl
      · next hne => exact .inr ⟨hx, hne⟩
    · rintro (rfl | ⟨he, hne⟩)
      · exact ⟨old, hold, if_pos hname⟩
      · exact ⟨e, he, if_neg hne⟩
  · next hnew =>
    rw [(insertGrouped_perm d r.decls).mem_iff, List.mem_cons]
    have hother : e ∈ r.decls → e.declName ≠ d.declName := fun he heq => hnew ⟨e, he, heq⟩
    exact or_congr_right ⟨fun he => ⟨he, hother he⟩, And.left⟩

/-- Only the answer for the declaration's own name changes. -/
theorem lookup_register (r : Registry) (d : TypeDecl) (n : DeclName) :
    (r.register d).lookup n = if d.declName = n then some d else r.lookup n := by
  ext e
  rw [lookup_eq_some_iff, mem_decls_register]
  split
  · next hn =>
    subst hn
    rw [Option.some_inj]
    constructor
    · rintro ⟨rfl | ⟨-, hne⟩, hname⟩
      · rfl
      · exact absurd hname hne
    · rintro rfl
      exact ⟨.inl rfl, rfl⟩
  · next hn =>
    rw [lookup_eq_some_iff]
    constructor
    · rintro ⟨rfl | ⟨he, -⟩, hname⟩
      · exact absurd hname hn
      · exact ⟨he, hname⟩
    · rintro ⟨he, rfl⟩
      exact ⟨.inr ⟨he, fun heq => hn heq.symm⟩, rfl⟩

theorem mem_declNames_register :
    n ∈ (r.register d).decls.map TypeDecl.declName ↔
      n = d.declName ∨ n ∈ r.decls.map TypeDecl.declName := by
  simp only [List.mem_map, mem_decls_register]
  constructor
  · rintro ⟨e, rfl | ⟨he, -⟩, rfl⟩
    · exact .inl rfl
    · exact .inr ⟨e, he, rfl⟩
  · rintro (rfl | ⟨e, he, rfl⟩)
    · exact ⟨d, .inl rfl, rfl⟩
    · by_cases hname : e.declName = d.declName
      · exact ⟨d, .inl rfl, hname.symm⟩
      · exact ⟨e, .inr ⟨he, hname⟩, rfl⟩

def registerAll (r : Registry) (ds : List TypeDecl) : Registry := ds.foldl register r

theorem lookup_registerAll (r : Registry) (ds : List TypeDecl) (n : DeclName) :
    (r.registerAll ds).lookup n = (ds.reverse.find? (·.declName = n)).or (r.lookup n) := by
  induction ds generalizing r with
  | nil => rfl
  | cons d ds ih =>
    rw [registerAll, List.foldl_cons, ← registerAll, ih, lookup_register, List.reverse_cons,
      List.find?_append, Option.or_assoc, List.find?_singleton]
    by_cases hn : d.declName = n <;> simp [hn]

theorem mem_declNames_registerAll {ds : List TypeDecl} :
    n ∈ (r.registerAll ds).decls.map TypeDecl.declName ↔
      n ∈ ds.map TypeDecl.declName ∨ n ∈ r.decls.map TypeDecl.declName := by
  induction ds generalizing r with
  | nil => simp [registerAll]
  | cons d ds ih =>
    rw [registerAll, List.foldl_cons, ← registerAll, ih, mem_declNames_register, List.map_cons,
      List.mem_cons]
    tauto

/-- Each name that was registered is held once. -/
theorem declNames_registerAll (hr : r.decls = []) (ds : List TypeDecl) :
    ((r.registerAll ds).decls.map TypeDecl.declName).Perm (ds.map TypeDecl.declName).dedup := by
  rw [List.perm_ext_iff_of_nodup (r.registerAll ds).distinct (List.nodup_dedup _)]
  intro n
  rw [mem_declNames_registerAll, List.mem_dedup, hr]
  simp

/-- Of the declarations known alike, the last one registered is found. -/
theorem lookup_registerAll_of_nil (hr : r.decls = []) (ds : List TypeDecl) (n : DeclName) :
    (r.registerAll ds).lookup n = (ds.filter (·.declName = n)).getLast? := by
  have hnone : r.lookup n = none := by rw [lookup, hr]; rfl
  rw [lookup_registerAll, hnone, Option.or_none, List.getLast?_eq_head?_reverse,
    ← List.filter_reverse, List.head?_filter]

end Registry

namespace Manifest

/-- The declarations of a manifest in its order. Each type is qualified against the names that its
own module path declares. -/
def declarations (m : Manifest) : List TypeDecl :=
  m.modules.entries.flatMap fun e =>
    e.2.entries.map fun t => ⟨e.1, t.1, t.2.qualifyLocal e.1 (· ∈ e.2.keys)⟩

theorem exists_of_mem_declarations {m : Manifest} {d : TypeDecl} (h : d ∈ m.declarations) :
    ∃ types type, (d.modulePath, types) ∈ m.modules.entries ∧ (d.name, type) ∈ types.entries ∧
      d.type = type.qualifyLocal d.modulePath (· ∈ types.keys) := by
  obtain ⟨e, he, hd⟩ := List.mem_flatMap.mp h
  obtain ⟨t, ht, rfl⟩ := List.mem_map.mp hd
  exact ⟨e.2, t.2, he, ht, rfl⟩

end Manifest

namespace Registry

/-- A registry without declarations. -/
def ofOverrides (overrides : OrderedMap String String) : Registry := { empty with overrides }

theorem ofManifest_eq (m : Manifest) :
    ofManifest m = (ofOverrides m.overrides).registerAll m.declarations := by
  rw [ofManifest, registerAll, Manifest.declarations, List.foldl_flatMap]
  simp only [List.foldl_map]
  rfl

/-- A registry answers with the last declaration registered under a short module name and a name,
and holds one declaration for each pair of these. A manifest loads into the registry of its
declarations, and none of its types is left with a bare name that its own module declares. -/
theorem lookup_last_registered :
    (∀ (overrides : OrderedMap String String) (ds : List TypeDecl),
      let r := (ofOverrides overrides).registerAll ds
      (∀ module name, r.lookup ⟨module, name⟩ =
        (ds.filter fun d => d.module = module ∧ d.name = name).getLast?) ∧
      (∀ d ∈ r.decls, r.lookup ⟨d.module, d.name⟩ = some d) ∧
      r.size = (ds.map TypeDecl.declName).dedup.length ∧
      (r.decls.map TypeDecl.declName).Perm (ds.map TypeDecl.declName).dedup) ∧
    ∀ m : Manifest,
      let r := ofManifest m
      r = (ofOverrides m.overrides).registerAll m.declarations ∧
      (∀ module name, r.lookup ⟨module, name⟩ =
        (m.declarations.filter fun d => d.module = module ∧ d.name = name).getLast?) ∧
      ∀ module name d, r.lookup ⟨module, name⟩ = some d →
        ∃ types type, (d.modulePath, types) ∈ m.modules.entries ∧ (name, type) ∈ types.entries ∧
          d.type = type.qualifyLocal d.modulePath (· ∈ types.keys) ∧
          (d.modulePath ≠ "" → ∀ n ∈ types.keys, ("", n) ∉ d.type.identifiers) := by
  have hlast : ∀ (overrides : OrderedMap String String) (ds : List TypeDecl) (module name : String),
      ((ofOverrides overrides).registerAll ds).lookup ⟨module, name⟩ =
        (ds.filter fun d => d.module = module ∧ d.name = name).getLast? := by
    intro overrides ds module name
    have hname : ∀ d : TypeDecl, d.declName = ⟨module, name⟩ ↔ d.module = module ∧ d.name = name :=
      fun d => by rw [TypeDecl.declName, DeclName.mk.injEq]
    rw [lookup_registerAll_of_nil rfl]
    simp only [hname]
  refine ⟨fun overrides ds => ?_, fun m => ?_⟩
  · intro r
    have hperm : (r.decls.map TypeDecl.declName).Perm (ds.map TypeDecl.declName).dedup :=
      declNames_registerAll rfl ds
    refine ⟨hlast overrides ds, fun d hd => lookup_eq_some_iff.mpr ⟨hd, rfl⟩, ?_, hperm⟩
    rw [size, ← hperm.length_eq, List.length_map]
  · intro r
    have hr : r = (ofOverrides m.overrides).registerAll m.declarations := ofManifest_eq m
    have hfound : ∀ module name, r.lookup ⟨module, name⟩ =
        (m.declarations.filter fun d => d.module = module ∧ d.name = name).getLast? :=
      fun module name => hr ▸ hlast m.overrides m.declarations module name
    refine ⟨hr, hfound, fun module name d hd => ?_⟩
    rw [hfound] at hd
    have hmem := List.mem_of_getLast? hd
    rw [List.mem_filter, decide_eq_true_eq] at hmem
    obtain ⟨hmem, -, rfl⟩ := hmem
    obtain ⟨types, type, hmodule, htype, heq⟩ := Manifest.exists_of_mem_declarations hmem
    refine ⟨types, type, hmodule, htype, heq, fun hpath n hn hbare => ?_⟩
    rw [heq] at hbare
    have hlocal := TypeExpr.isLocal_of_bare_mem_qualifyLocal hpath hbare
    exact absurd hn (by simpa using hlocal)

/-- Two module paths with one short name: the parts of the second module are found, and the widget
of the first one, which still means the parts of its own module. -/
theorem lookup_last_registered_models :
    let part (path word : String) : TypeDecl := ⟨path, "Part", .ident "" word⟩
    let ds := [part "acme/models" "int", ⟨"models", "Widget", .interface⟩, part "models" "bool"]
    let manifest : Manifest := ⟨.empty, .ofList [
      ("acme/models", .ofList [
        ("Widget", .struct [⟨"Spares", .array (.ident "" "Part"), none⟩]),
        ("Part", .ident "" "int")]),
      ("other/models", .ofList [("Part", .ident "" "string")])]⟩
    let widget : TypeDecl :=
      ⟨"acme/models", "Widget", .struct [⟨"Spares", .array (.ident "acme/models" "Part"), none⟩]⟩
    part "models" "bool" ∈ ((ofOverrides .empty).registerAll ds).decls ∧
      ((ofOverrides .empty).registerAll ds).lookup ⟨"models", "Part"⟩ =
        some (part "models" "bool") ∧
      (ofManifest manifest).lookup ⟨"models", "Part"⟩ = some (part "other/models" "string") ∧
      (ofManifest manifest).lookup ⟨"models", "Widget"⟩ = some widget ∧
      widget.modulePath ≠ "" ∧
      ∃ types type, ("acme/models", types) ∈ manifest.modules.entries ∧
        ("Widget", type) ∈ types.entries ∧ ∀ n ∈ types.keys, ("", n) ∉ widget.type.identifiers := by
  intro part ds manifest widget
  have hpart : part "models" "bool" ∈ ((ofOverrides .empty).registerAll ds).decls := by decide
  have hwidget : (ofManifest manifest).lookup ⟨"models", "Widget"⟩ = some widget := by decide
  have hpath : widget.modulePath ≠ "" := by decide
  obtain ⟨hregistered, hmanifest⟩ := lookup_last_registered
  obtain ⟨types, type, hmodule, htype, -, hbare⟩ :=
    (hmanifest manifest).2.2 "models" "Widget" widget hwidget
  have hfound := (hregistered .empty ds).2.1 _ hpart
  have hmodule' : (part "models" "bool").module = "models" := by decide
  rw [hmodule'] at hfound
  exact ⟨hpart, hfound, by decide, hwidget, hpath, types, type, hmodule, htype, hbare hpath⟩

end Registry

end TypeSchema
