import Mathlib.Data.List.Nodup
import TypeSchema.Proofs.Collection
import TypeSchema.Proofs.Requests

namespace TypeSchema

namespace OrderedMap

variable {κ ν : Type} [DecidableEq κ]

theorem entries_put_of_not_mem {m : OrderedMap κ ν} {k : κ} (hk : k ∉ m.keys) (v : ν) :
    (m.put k v).entries = m.entries ++ [(k, v)] := by
  obtain ⟨es, hd⟩ := m
  change k ∉ es.map Prod.fst at hk
  show putEntry k v es = es ++ [(k, v)]
  clear hd
  induction es with
  | nil => rfl
  | cons e es ih =>
    rw [List.map_cons, List.mem_cons, not_or] at hk
    rw [putEntry, if_neg (fun h => hk.1 h.symm), ih hk.2, List.cons_append]

end OrderedMap

/-- What may be asked of a builder before it is finished. -/
inductive Call where
  | classify (e : TypeExpr)
  | request (module name : String)

namespace Registry

/-- The definitions a call refers to, whether asked for before or not. -/
def callRequests (r : Registry) : Call → List TypeDecl
  | .classify e => r.requests e
  | .request module name => (r.definable? ⟨shortModuleName module, name⟩).toList

/-- The names of the definitions that the calls refer to, in turn. -/
def namesCalled (r : Registry) (calls : List Call) : List DeclName :=
  (calls.flatMap r.callRequests).map TypeDecl.declName

/-- The names of the definitions that a fresh builder asks for when it builds that of `n`. -/
def namesBuilding (r : Registry) (n : DeclName) : List DeclName :=
  match r.lookup n with
  | some d => ((DefinitionBuilder.ofRegistry r).resolver.buildDefinition d).2.asked
  | none => []

/-- The definitions of declarations, built in turn. -/
def definitionsOf (r : Registry) (ds : List TypeDecl) : Definitions :=
  ds.foldl (fun built d => DefinitionBuilder.addBuilt built (r.definitionOf d)) .empty

/-- A struct has a definition, and so has a declaration with a descriptor. -/
def hasDefinition (r : Registry) (n : DeclName) : Bool :=
  match r.lookup n with
  | some d => d.type.isStruct || (r.classify d.type).isOk
  | none => false

theorem definable_of_mem_callRequests {r : Registry} {call : Call} {d : TypeDecl}
    (h : d ∈ r.callRequests call) : r.definable? d.declName = some d := by
  cases call with
  | classify e => exact definable_of_mem_requests h
  | request module name => exact definable_of_mem_toList h

theorem definable_of_mem_buildRequests {r : Registry} {d e : TypeDecl}
    (h : e ∈ r.buildRequests d) : r.definable? e.declName = some e := by
  unfold buildRequests at h
  split at h
  · obtain ⟨f, -, hf⟩ := List.mem_flatMap.mp h
    exact definable_of_mem_requests hf
  · exact definable_of_mem_requests h

theorem namesBuilding_eq {r : Registry} {n : DeclName} {d : TypeDecl} (h : r.lookup n = some d) :
    r.namesBuilding n = ((r.buildRequests d).map TypeDecl.declName).eraseDups := by
  have hds : ∀ e ∈ r.buildRequests d, r.definable? e.declName = some e :=
    fun _ he => definable_of_mem_buildRequests he
  have ht := (Resolver.tracks_fresh r).askAll hds
  unfold namesBuilding
  simp only [h, Resolver.buildDefinition_eq]
  exact ht.asked_eq

theorem hasDefinition_eq {r : Registry} {n : DeclName} {d : TypeDecl} (h : r.lookup n = some d) :
    r.hasDefinition n = (r.definitionOf d).isSome := by
  unfold hasDefinition definitionOf TypeDecl.fields?
  simp only [h]
  cases ht : d.type with
  | struct fields => rfl
  | _ =>
    simp only [TypeExpr.isStruct, Bool.false_or]
    split
    · next hc => rw [hc]; rfl
    · next hc => rw [hc]; rfl

theorem definitionsOf_concat (r : Registry) (ds : List TypeDecl) (d : TypeDecl) :
    r.definitionsOf (ds ++ [d]) =
      DefinitionBuilder.addBuilt (r.definitionsOf ds) (r.definitionOf d) :=
  List.foldl_concat ..

/-- The entry of a declaration's definition, by the text of its name. -/
def entryOf (r : Registry) (d : TypeDecl) : Option (String × Definition) :=
  (r.definitionOf d).map fun definition => (definition.name.text, definition)

/-- Names with different texts do not take each other's place. -/
theorem entries_definitionsOf (r : Registry) {ds : List TypeDecl}
    (hds : (ds.map fun d => d.declName.text).Nodup) :
    (r.definitionsOf ds).entries = ds.filterMap r.entryOf := by
  induction ds using List.reverseRecOn with
  | nil => rfl
  | append_singleton ds d ih =>
    rw [List.map_append, List.nodup_append] at hds
    obtain ⟨hds, -, hne⟩ := hds
    have hold := ih hds
    rw [definitionsOf_concat, List.filterMap_append]
    cases hd : r.definitionOf d with
    | none => simpa [DefinitionBuilder.addBuilt, entryOf, hd] using hold
    | some definition =>
      have hname := declName_of_definitionOf hd
      have hfresh : definition.name.text ∉ (r.definitionsOf ds).keys := by
        intro hk
        rw [OrderedMap.keys, hold, List.mem_map] at hk
        obtain ⟨entry, he, hk⟩ := hk
        obtain ⟨e, hmem, hentry⟩ := List.mem_filterMap.mp he
        obtain ⟨other, hother, rfl⟩ := Option.map_eq_some_iff.mp hentry
        rw [declName_of_definitionOf hother, hname] at hk
        exact hne _ (List.mem_map_of_mem hmem) _ (by simp) hk
      simp [DefinitionBuilder.addBuilt, OrderedMap.entries_put_of_not_mem hfresh, hold, entryOf, hd]

theorem names_entries (r : Registry) {ds : List TypeDecl}
    (hds : ∀ d ∈ ds, r.lookup d.declName = some d) :
    (ds.filterMap r.entryOf).map (fun e => (e.1, e.2.name)) =
      ((ds.map TypeDecl.declName).filter r.hasDefinition).map fun n => (n.text, n) := by
  induction ds with
  | nil => rfl
  | cons d ds ih =>
    have hd := hasDefinition_eq (hds d List.mem_cons_self)
    have hrest := ih fun e he => hds e (List.mem_cons_of_mem d he)
    cases ho : r.definitionOf d with
    | none => simpa [entryOf, ho, hd] using hrest
    | some definition => simpa [entryOf, ho, hd, declName_of_definitionOf ho] using hrest

end Registry

/-- Two structs that refer to each other, a struct that one of them embeds, a value type by another
name, and a type without a descriptor. -/
def Registry.shop : Registry :=
  Registry.empty
    |>.register ⟨"acme/models", "Base", .struct [⟨"ID", .ident "" "int", none⟩]⟩
    |>.register ⟨"acme/models", "Widget", .struct [⟨"", .ident "" "Base", none⟩,
      ⟨"Parts", .array (.pointer (.ident "acme/models" "Part")), none⟩,
      ⟨"OnSave", .ident "acme/models" "Handler", none⟩]⟩
    |>.register ⟨"acme/models", "Part", .struct [
      ⟨"Parent", .pointer (.ident "models" "Widget"), none⟩,
      ⟨"Price", .ident "models" "Money", none⟩]⟩
    |>.register ⟨"acme/models", "Money", .ident "decimal" "Decimal"⟩
    |>.register ⟨"acme/models", "Handler", .func [.ident "" "int"] []⟩

namespace Resolver

theorem Tracks.congr {r : Resolver Pending} {requested requested' : List DeclName}
    {popped : List TypeDecl} (h : r.Tracks requested popped)
    (he : requested.eraseDups = requested'.eraseDups) : r.Tracks requested' popped :=
  ⟨h.asked_eq.trans he, h.declNames_eq, h.definable⟩

/-- Everything asked for is declared, so it is no more than the registry holds. -/
theorem Tracks.length_le {r : Resolver Pending} {requested : List DeclName}
    {popped : List TypeDecl} (h : r.Tracks requested popped) :
    popped.length + r.sink.queue.length ≤ r.registry.size := by
  have hnodup : (popped ++ r.sink.queue).Nodup := by
    apply List.Nodup.of_map TypeDecl.declName
    rw [h.declNames_eq]
    exact h.nodup
  have hsub : popped ++ r.sink.queue ⊆ r.registry.decls := by
    intro d hd
    have hl := (Registry.definable?_eq_some_iff.mp (h.definable d hd)).2.2.1
    exact Registry.mem_of_lookup hl
  rw [← List.length_append]
  exact (List.subperm_of_subset hnodup hsub).length_le

end Resolver

namespace DefinitionBuilder

def call (b : DefinitionBuilder) : Call → DefinitionBuilder
  | .classify e => (b.classify e).2
  | .request module name => (b.request module name).2

def afterCalls (registry : Registry) (calls : List Call) : DefinitionBuilder :=
  calls.foldl call (.ofRegistry registry)

/-- A request queues the definition that its name refers to, unless that was asked for before. -/
theorem request_eq (b : DefinitionBuilder) (module name : String) :
    b.request module name =
      match b.resolver.registry.definable? ⟨shortModuleName module, name⟩ with
      | none => (false, b)
      | some d =>
        if b.resolver.isAsked ⟨shortModuleName module, name⟩ then (false, b)
        else (true, { b with resolver := b.resolver.ask d }) := by
  unfold request
  simp only [Resolver.resolveQualified_eq]
  cases hd : b.resolver.registry.definable? ⟨shortModuleName module, name⟩ with
  | none =>
    split
    · rfl
    · -- It is resolved, but to nothing that has a definition.
      next h =>
      rw [Bool.or_eq_true, not_or] at h
      have hasked := Bool.eq_false_iff.mpr h.2
      simp only [Option.toList, Resolver.askAll, List.foldl_nil, hasked]
  | some d =>
    have hlookup := (Registry.definable?_eq_some_iff.mp hd).2.2.1
    have hask := b.resolver.isAsked_ask d
    rw [Registry.declName_of_definable hd] at hask
    simp only [hlookup, Option.isNone_some, Bool.false_or, Option.toList, Resolver.askAll,
      List.foldl_cons, List.foldl_nil, hask]

theorem call_eq (b : DefinitionBuilder) (c : Call) :
    b.call c = { b with resolver := b.resolver.askAll (b.resolver.registry.callRequests c) } := by
  cases c with
  | classify e => simp only [call, classify, Resolver.classify_eq, Registry.callRequests]
  | request module name =>
    rw [call, request_eq, Registry.callRequests]
    cases hd : b.resolver.registry.definable? ⟨shortModuleName module, name⟩ with
    | none => rfl
    | some d =>
      show (if _ then _ else _ : Bool × DefinitionBuilder).2 = ⟨b.resolver.ask d, b.built⟩
      split
      · -- Asking again would have changed nothing.
        next ha =>
        rw [← Registry.declName_of_definable hd] at ha
        rw [Resolver.ask_of_isAsked ha]
      · rfl

/-- Calls only ask for definitions; none is built before finishing. -/
theorem afterCalls_eq (registry : Registry) (calls : List Call) :
    afterCalls registry calls =
      ⟨(Resolver.ofSink registry .empty).askAll (calls.flatMap registry.callRequests), .empty⟩ := by
  induction calls using List.reverseRecOn with
  | nil => rfl
  | append_singleton calls c ih =>
    have hc : afterCalls registry (calls ++ [c]) = (afterCalls registry calls).call c :=
      List.foldl_concat ..
    have hr : ((Resolver.ofSink registry Pending.empty).askAll
        (calls.flatMap registry.callRequests)).registry = registry := Resolver.registry_askAll _ _
    rw [hc, ih, call_eq, hr, List.flatMap_append, List.flatMap_singleton, Resolver.askAll_append]

theorem tracks_afterCalls (registry : Registry) (calls : List Call) :
    (afterCalls registry calls).resolver.Tracks (registry.namesCalled calls) [] := by
  have hds : ∀ d ∈ calls.flatMap registry.callRequests,
      registry.definable? d.declName = some d := by
    intro d hd
    obtain ⟨c, -, hc⟩ := List.mem_flatMap.mp hd
    exact Registry.definable_of_mem_callRequests hc
  rw [afterCalls_eq]
  exact (Resolver.tracks_fresh registry).askAll hds

/-- The builder has built the declarations `done`, and asked for `roots` and then for what building
those has asked for. -/
structure Follows (b : DefinitionBuilder) (registry : Registry) (roots : List DeclName)
    (done : List TypeDecl) : Prop where
  registry_eq : b.resolver.registry = registry
  tracks : b.resolver.Tracks
    (roots ++ (done.map TypeDecl.declName).flatMap registry.namesBuilding) done
  reached : ∀ n ∈ b.resolver.asked, Reached roots registry.namesBuilding n
  built_eq : b.built = registry.definitionsOf done

variable {b : DefinitionBuilder} {registry : Registry} {roots : List DeclName}
  {done : List TypeDecl}

theorem follows_afterCalls (registry : Registry) (calls : List Call) :
    (afterCalls registry calls).Follows registry (registry.namesCalled calls) [] := by
  have ht := tracks_afterCalls registry calls
  refine ⟨?_, by simpa using ht, ?_, ?_⟩
  · rw [afterCalls_eq]
    exact Resolver.registry_askAll _ _
  · intro n hn
    rw [ht.asked_eq, List.mem_eraseDups] at hn
    exact .root hn
  · rw [afterCalls_eq]
    rfl

/-- A turn builds the declaration that has waited longest. -/
theorem Follows.next? (h : b.Follows registry roots done) {b' : DefinitionBuilder}
    (hb : b.next? = some b') :
    ∃ d r, b.resolver.pop? = some (d, r) ∧ b'.Follows registry roots (done ++ [d]) := by
  unfold DefinitionBuilder.next? at hb
  cases hp : b.resolver.pop? with
  | none => simp [hp] at hb
  | some dr =>
    obtain ⟨d, r⟩ := dr
    have hr : r.registry = registry := (Resolver.registry_of_pop hp).trans h.registry_eq
    have hpop := h.tracks.pop hp
    have hd : registry.definable? d.declName = some d := by
      rw [← hr]
      exact hpop.definable d (by simp)
    have hnames := Registry.namesBuilding_eq (Registry.definable?_eq_some_iff.mp hd).2.2.1
    have hasked : r.asked = b.resolver.asked := Resolver.asked_of_pop hp
    have hds : ∀ e ∈ registry.buildRequests d, r.registry.definable? e.declName = some e := by
      rw [hr]
      exact fun e he => Registry.definable_of_mem_buildRequests he
    have htracks := hpop.askAll hds
    simp only [hp, Resolver.buildDefinition_eq, hr, Option.some.injEq] at hb
    subst hb
    refine ⟨d, r, rfl, (Resolver.registry_askAll _ _).trans hr, ?_, ?_, ?_⟩
    · -- What building asks for comes behind all earlier requests, which keeps it breadth first.
      refine htracks.congr ?_
      rw [List.map_append, List.flatMap_append, ← List.append_assoc, List.map_singleton,
        List.flatMap_singleton, hnames, eraseDups_append_eraseDups]
    · intro n hn
      rw [htracks.asked_eq, List.mem_eraseDups, List.mem_append, ← List.mem_eraseDups,
        ← h.tracks.asked_eq] at hn
      rcases hn with hn | hn
      · exact h.reached n hn
      · -- A new name is one that building the declaration just taken asks for.
        have hdr : Reached roots registry.namesBuilding d.declName := by
          apply h.reached
          rw [← hasked, ← hpop.declNames_eq]
          simp
        refine .step hdr ?_
        rw [hnames, List.mem_eraseDups]
        exact hn
    · rw [Registry.definitionsOf_concat, ← h.built_eq]

theorem Follows.length_le (h : b.Follows registry roots done) :
    done.length + b.resolver.sink.queue.length ≤ registry.size := by
  have hle := h.tracks.length_le
  rw [h.registry_eq] at hle
  exact hle

theorem Follows.definable (h : b.Follows registry roots done) :
    ∀ d ∈ done, registry.definable? d.declName = some d := by
  intro d hd
  rw [← h.registry_eq]
  exact h.tracks.definable d (List.mem_append_left _ hd)

/-- What has been asked for is what has been built, once nothing waits. -/
theorem Follows.declNames_eq (h : b.Follows registry roots done)
    (hqueue : b.resolver.sink.queue = []) : done.map TypeDecl.declName = b.resolver.asked := by
  have hnames := h.tracks.declNames_eq
  rw [hqueue, List.append_nil] at hnames
  exact hnames

theorem next?_eq_none_iff : b.next? = none ↔ b.resolver.sink.queue = [] := by
  unfold DefinitionBuilder.next? Resolver.pop?
  cases hq : b.resolver.sink with
  | mk queue => cases queue <;> simp [Pending.pop]

/-- A turn takes one declaration from the queue, and no more than the registry holds ever stand in
it, so the turns suffice. -/
theorem Follows.run (h : b.Follows registry roots done) (turns : Nat)
    (hturns : registry.size ≤ turns + done.length) :
    ∃ done', (b.run turns).Follows registry roots done' ∧
      (b.run turns).resolver.sink.queue = [] := by
  induction turns generalizing b done with
  | zero =>
    have hle := h.length_le
    exact ⟨done, h, List.eq_nil_of_length_eq_zero (by show b.resolver.sink.queue.length = 0; omega)⟩
  | succ turns ih =>
    unfold DefinitionBuilder.run
    cases hb : b.next? with
    | none => exact ⟨done, h, next?_eq_none_iff.mp hb⟩
    | some b' =>
      obtain ⟨d, -, -, hd⟩ := h.next? hb
      refine ih hd ?_
      rw [List.length_append, List.length_singleton]
      omega

/-- Finishing builds, breadth first, all that is reached from what has been asked for. -/
theorem Follows.finish_eq (h : b.Follows registry roots []) :
    ∃ done : List TypeDecl, b.finish = registry.definitionsOf done ∧
      BreadthFirst roots registry.namesBuilding (done.map TypeDecl.declName) ∧
      ∀ d ∈ done, registry.definable? d.declName = some d := by
  obtain ⟨done, hdone, hqueue⟩ :=
    h.run (b.resolver.sink.queue.length + b.resolver.registry.size) (by rw [h.registry_eq]; omega)
  have hnames := hdone.declNames_eq hqueue
  have hasked := hdone.tracks.asked_eq
  -- With the queue empty, what was asked for is what was built: the breadth-first equation.
  rw [← hnames] at hasked
  refine ⟨done, hdone.built_eq, ⟨?_, hasked⟩, hdone.definable⟩
  · intro n
    constructor
    · intro hn
      exact hdone.reached n (hnames ▸ hn)
    · apply mem_of_reached
      · intro m hm
        rw [hasked, List.mem_eraseDups]
        exact List.mem_append_left _ hm
      · intro m hm k hk
        rw [hasked, List.mem_eraseDups]
        exact List.mem_append_right _ (List.mem_flatMap.mpr ⟨m, hm, hk⟩)

/-- Where names have different texts, exactly the reached declarations with a definition are built,
each once, under its own name and in the order in which they were first asked for. -/
theorem finish_builds_reached (registry : Registry) (calls : List Call)
    (htexts : (registry.decls.map fun d => d.declName.text).Nodup) :
    let b := afterCalls registry calls
    let roots := registry.namesCalled calls
    ∃ order, BreadthFirst roots registry.namesBuilding order ∧
      (∀ other, BreadthFirst roots registry.namesBuilding other → other = order) ∧
      b.resolver.asked = roots.eraseDups ∧
      b.finish.entries.map (fun e => (e.1, e.2.name)) =
        (order.filter registry.hasDefinition).map (fun n => (n.text, n)) ∧
      ∀ n ∈ order, SchemaKind.narrow? n.name = none ∧
        ∃ d, registry.lookup n = some d ∧ d.narrowAlias? = none := by
  intro b roots
  obtain ⟨done, hfinish, horder, hdone⟩ := (follows_afterCalls registry calls).finish_eq
  have hlookup : ∀ d ∈ done, registry.lookup d.declName = some d := fun d hd =>
    (Registry.definable?_eq_some_iff.mp (hdone d hd)).2.2.1
  -- Names are built once each, and no two of them have one text.
  have hdistinct : (done.map fun d => d.declName.text).Nodup := by
    refine List.Nodup.map_on ?_ (List.Nodup.of_map _ horder.nodup)
    intro d hd e he hde
    exact List.inj_on_of_nodup_map htexts (Registry.mem_of_lookup (hlookup d hd))
      (Registry.mem_of_lookup (hlookup e he)) hde
  refine ⟨done.map TypeDecl.declName, horder, fun other => horder.unique,
    (tracks_afterCalls registry calls).asked_eq, ?_, ?_⟩
  · rw [hfinish, Registry.entries_definitionsOf registry hdistinct,
      Registry.names_entries registry hlookup]
  · intro n hn
    obtain ⟨d, hd, rfl⟩ := List.mem_map.mp hn
    obtain ⟨-, hk, hl, ha⟩ := Registry.definable?_eq_some_iff.mp (hdone d hd)
    exact ⟨hk, d, hl, ha⟩

/-- What classifying a pointer to a widget and requesting its prices builds. -/
theorem finish_builds_widget_and_part :
    let calls := [.classify (.pointer (.ident "models" "Widget")), .request "models" "Money"]
    let b := afterCalls .shop calls
    (Registry.shop.decls.map fun d => d.declName.text).Nodup ∧
      b.finish.keys = ["models.Widget", "models.Part"] ∧
      ∃ order, BreadthFirst (Registry.shop.namesCalled calls) Registry.shop.namesBuilding order ∧
        b.finish.entries.map (fun e => (e.1, e.2.name)) =
          (order.filter Registry.shop.hasDefinition).map (fun n => (n.text, n)) := by
  intro calls b
  have htexts : (Registry.shop.decls.map fun d => d.declName.text).Nodup := by decide
  obtain ⟨order, horder, -, -, hentries, -⟩ := finish_builds_reached .shop calls htexts
  exact ⟨htexts, by decide, order, horder, hentries⟩

end DefinitionBuilder

end TypeSchema
