import TypeSchema.Proofs.Printing
import TypeSchema.Proofs.References

namespace TypeSchema

namespace OrderedMap

variable {κ ν : Type}

theorem nodup_entries (m : OrderedMap κ ν) : m.entries.Nodup :=
  .of_map Prod.fst m.distinct

theorem get?_of_mem [DecidableEq κ] {m : OrderedMap κ ν} {e : κ × ν} (he : e ∈ m.entries) :
    m.get? e.1 = some e.2 := by
  rw [get?, find?_of_nodup_map m.distinct he]
  rfl

end OrderedMap

section Reaching

variable {α : Type} {roots roots' : List α} {next : α → List α}

theorem Reached.mono {a : α} (h : Reached roots next a) (hr : roots ⊆ roots') :
    Reached roots' next a := by
  induction h with
  | root h => exact .root (hr h)
  | step _ h ih => exact .step ih h

end Reaching

namespace Registry

variable {r : Registry}

theorem namesCalled_subset {roots roots' : List TypeExpr} (h : roots ⊆ roots') :
    r.namesCalled (roots.map .classify) ⊆ r.namesCalled (roots'.map .classify) := by
  intro n hn
  obtain ⟨d, hd, rfl⟩ := List.mem_map.mp hn
  rw [List.flatMap_map] at hd
  obtain ⟨e, he, hd⟩ := List.mem_flatMap.mp hd
  apply List.mem_map_of_mem
  rw [List.flatMap_map]
  exact List.mem_flatMap.mpr ⟨e, h he, hd⟩

theorem namesCalled_request {d : TypeDecl} (hd : r.definable? d.declName = some d) :
    r.namesCalled [.request d.module d.name] = [d.declName] := by
  have hshort : shortModuleName d.module = d.module :=
    TypeExpr.shortModuleName_shortModuleName _
  have hn : (⟨shortModuleName d.module, d.name⟩ : DeclName) = d.declName := by rw [hshort]; rfl
  simp [namesCalled, callRequests, hn, hd]

theorem name_of_entryOf {d : TypeDecl} {entry : String × Definition}
    (h : r.entryOf d = some entry) : entry.2.name = d.declName := by
  obtain ⟨definition, hd, rfl⟩ := Option.map_eq_some_iff.mp h
  exact declName_of_definitionOf hd

end Registry

namespace Resolver

/-- A resolver that some run leads to, whatever happens to its sink meanwhile. -/
inductive Reachable {σ : Type} [DefinitionSink σ] (registry : Registry) : Resolver σ → Prop where
  | ofSink (sink : σ) : Reachable registry (ofSink registry sink)
  | classify {r : Resolver σ} (h : Reachable registry r) (e : TypeExpr) :
    Reachable registry (r.classify e).2
  | resolveQualified {r : Resolver σ} (h : Reachable registry r) (path name : String)
    (shape : Shape) : Reachable registry (r.resolveQualified path name shape).2
  | changeSink {r : Resolver σ} (h : Reachable registry r) (sink : σ) :
    Reachable registry { r with sink }

theorem Reachable.registry_eq {σ : Type} [DefinitionSink σ] {registry : Registry} {r : Resolver σ}
    (h : r.Reachable registry) : r.registry = registry := by
  induction h with
  | ofSink sink => rfl
  | classify _ e ih => rw [classify_eq, registry_askAll, ih]
  | resolveQualified _ path name shape ih => rw [resolveQualified_eq, registry_askAll, ih]
  | changeSink _ sink ih => exact ih

end Resolver

theorem buildDefinitions_of_ok {registry : Registry} {es : List TypeExpr}
    {describe : TypeExpr → Descriptor} (h : ∀ e ∈ es, registry.classify e = .ok (describe e)) :
    buildDefinitions registry es = .ok (es.map describe,
      (DefinitionBuilder.afterCalls registry (es.map .classify)).finish) := by
  have hds : es.map registry.classify = (es.map describe).map .ok := by
    rw [List.map_map]
    exact List.map_congr_left h
  rw [buildDefinitions_eq, mapM_of_map_eq hds]
  rfl

namespace DefinitionBuilder

variable {registry : Registry}

/-- Where names have different texts, the definitions built are those of the declarations reached,
each as the registry alone says. -/
theorem mem_entries_finish (htexts : (registry.decls.map fun d => d.declName.text).Nodup)
    (calls : List Call) (entry : String × Definition) :
    entry ∈ (afterCalls registry calls).finish.entries ↔
      ∃ d, Reached (registry.namesCalled calls) registry.namesBuilding d.declName ∧
        registry.definable? d.declName = some d ∧ registry.entryOf d = some entry := by
  obtain ⟨done, hfinish, horder, hdone⟩ := (follows_afterCalls registry calls).finish_eq
  have hregistered : ∀ d ∈ done, d ∈ registry.decls := fun d hd =>
    Registry.mem_of_definable (hdone d hd)
  have hdistinct : (done.map fun d => d.declName.text).Nodup :=
    List.Nodup.map_on (fun d hd e he => List.inj_on_of_nodup_map htexts (hregistered d hd)
      (hregistered e he)) (.of_map _ horder.nodup)
  rw [hfinish, Registry.entries_definitionsOf registry hdistinct, List.mem_filterMap]
  constructor
  · rintro ⟨d, hd, hentry⟩
    exact ⟨d, (horder.mem_iff _).mp (List.mem_map_of_mem hd), hdone d hd, hentry⟩
  · rintro ⟨d, hreached, hd, hentry⟩
    obtain ⟨other, hother, hname⟩ := List.mem_map.mp ((horder.mem_iff _).mpr hreached)
    have ho := hdone other hother
    rw [hname, hd, Option.some.injEq] at ho
    exact ⟨d, ho ▸ hother, hentry⟩

/-- Only which names are called for counts, not how often and in which order. -/
theorem perm_entries_finish (htexts : (registry.decls.map fun d => d.declName.text).Nodup)
    {calls calls' : List Call} (hsub : registry.namesCalled calls ⊆ registry.namesCalled calls')
    (hsub' : registry.namesCalled calls' ⊆ registry.namesCalled calls) :
    (afterCalls registry calls).finish.entries.Perm
      (afterCalls registry calls').finish.entries := by
  rw [List.perm_ext_iff_of_nodup (OrderedMap.nodup_entries _) (OrderedMap.nodup_entries _)]
  intro entry
  rw [mem_entries_finish htexts, mem_entries_finish htexts]
  constructor
  · rintro ⟨d, hreached, hd⟩
    exact ⟨d, hreached.mono hsub, hd⟩
  · rintro ⟨d, hreached, hd⟩
    exact ⟨d, hreached.mono hsub', hd⟩

end DefinitionBuilder

/-- What an expression is described as, and what is defined under a name, is the same after any
history. So the roots that a build starts from count only as a set: they decide the order of the
definitions, but neither what they are nor what a root is described as. -/
theorem results_independent_of_history (registry : Registry) :
    (∀ (σ : Type) [DefinitionSink σ] (r : Resolver σ), r.Reachable registry →
      ∀ e, (r.classify e).1 = registry.classify e) ∧
    ((registry.decls.map fun d => d.declName.text).Nodup →
      ∀ calls, ∀ entry ∈ (DefinitionBuilder.afterCalls registry calls).finish.entries,
        let fresh := DefinitionBuilder.afterCalls registry
          [.request entry.2.name.module entry.2.name.name]
        fresh.finish.get? entry.1 = some entry.2) ∧
    ∀ roots roots' : List TypeExpr, (∀ e, e ∈ roots ↔ e ∈ roots') →
      (∀ e ∈ roots, ∃ d, registry.classify e = .ok d) →
      ∃ describe defs defs',
        buildDefinitions registry roots = .ok (roots.map describe, defs) ∧
        buildDefinitions registry roots' = .ok (roots'.map describe, defs') ∧
        ((registry.decls.map fun d => d.declName.text).Nodup →
          defs.entries.Perm defs'.entries) := by
  refine ⟨?_, ?_, ?_⟩
  · intro σ _ r hr e
    rw [Resolver.classify_eq, hr.registry_eq]
  · intro htexts calls entry hentry fresh
    obtain ⟨d, -, hd, he⟩ := (DefinitionBuilder.mem_entries_finish htexts calls entry).mp hentry
    have hname : entry.2.name = d.declName := Registry.name_of_entryOf he
    have hcalled := Registry.namesCalled_request hd
    apply OrderedMap.get?_of_mem
    rw [DefinitionBuilder.mem_entries_finish htexts]
    refine ⟨d, .root ?_, hd, he⟩
    rw [hname]
    exact hcalled ▸ List.mem_singleton_self _
  · intro roots roots' hsame hok
    -- One function describes the roots of both lists, as a root means the same in either.
    have : Nonempty Descriptor := ⟨.ofKind .string⟩
    choose! describe hdescribe using hok
    have hdescribe' : ∀ e ∈ roots', registry.classify e = .ok (describe e) :=
      fun e he => hdescribe e ((hsame e).mpr he)
    refine ⟨describe, _, _, buildDefinitions_of_ok hdescribe, buildDefinitions_of_ok hdescribe',
      fun htexts => DefinitionBuilder.perm_entries_finish htexts ?_ ?_⟩
    · exact Registry.namesCalled_subset fun e he => (hsame e).mp he
    · exact Registry.namesCalled_subset fun e he => (hsame e).mpr he

/-- The shop's parts and widgets, asked for in either order and more than once. -/
theorem results_independent_of_history_shop :
    let widget := TypeExpr.pointer (.ident "models" "Widget")
    let part := TypeExpr.ident "acme/models" "Part"
    let used := ((Resolver.ofSink Registry.shop ()).classify widget).2
    let defs := (DefinitionBuilder.afterCalls .shop [.classify widget]).finish
    used.Reachable .shop ∧ (used.classify part).1 = Registry.shop.classify part ∧
      (Registry.shop.decls.map fun d => d.declName.text).Nodup ∧
      (∃ entry ∈ defs.entries, entry.2.name = ⟨"models", "Part"⟩ ∧
        (DefinitionBuilder.afterCalls .shop [.request "models" "Part"]).finish.get? entry.1 =
          some entry.2) ∧
      (∀ e ∈ [widget, part], ∃ d, Registry.shop.classify e = .ok d) ∧
      ∃ describe defs defs',
        buildDefinitions .shop [widget, part] = .ok ([widget, part].map describe, defs) ∧
        buildDefinitions .shop [part, widget, part] =
          .ok ([part, widget, part].map describe, defs') ∧
        defs.entries.Perm defs'.entries := by
  intro widget part used defs
  have hused : used.Reachable .shop := .classify (.ofSink ()) widget
  have htexts : (Registry.shop.decls.map fun d => d.declName.text).Nodup := by decide
  have hok : ∀ e ∈ [widget, part], ∃ d, Registry.shop.classify e = .ok d := by
    intro e he
    rcases List.mem_cons.mp he with rfl | he
    · exact ⟨_, rfl⟩
    · rw [List.mem_singleton.mp he]
      exact ⟨_, rfl⟩
  obtain ⟨hclassify, hdefinition, hroots⟩ := results_independent_of_history .shop
  obtain ⟨describe, ds, ds', hbuild, hbuild', hperm⟩ :=
    hroots [widget, part] [part, widget, part] (by simp [or_comm]) hok
  obtain ⟨entry, hmem, hname⟩ : ∃ entry ∈ defs.entries, entry.2.name = ⟨"models", "Part"⟩ :=
    ⟨defs.entries.get ⟨1, by decide⟩, List.get_mem _ _, by decide⟩
  have hfresh := hdefinition htexts [.classify widget] entry hmem
  rw [hname] at hfresh
  exact ⟨hused, hclassify Unit used hused part, htexts, ⟨entry, hmem, hname, hfresh⟩, hok,
    describe, ds, ds', hbuild, hbuild', hperm htexts⟩

end TypeSchema
