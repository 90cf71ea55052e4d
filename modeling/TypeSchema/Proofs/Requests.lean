import TypeSchema.Definition.Pending
import TypeSchema.Proofs.BreadthFirst
import TypeSchema.Proofs.Resolution

namespace TypeSchema

namespace Resolver

/-- The definitions in `popped` and then those in the queue are the ones named in `requested`, at
their first mention. -/
structure Tracks (r : Resolver Pending) (requested : List DeclName) (popped : List TypeDecl) :
    Prop where
  asked_eq : r.asked = requested.eraseDups
  declNames_eq : (popped ++ r.sink.queue).map TypeDecl.declName = r.asked
  definable : ∀ d ∈ popped ++ r.sink.queue, r.registry.definable? d.declName = some d

variable {r : Resolver Pending} {requested : List DeclName} {popped : List TypeDecl}

theorem tracks_fresh (registry : Registry) : (ofSink registry Pending.empty).Tracks [] [] :=
  ⟨rfl, rfl, by simp [ofSink, Pending.empty]⟩

theorem Tracks.nodup (h : r.Tracks requested popped) : r.asked.Nodup := by
  rw [h.asked_eq]
  exact nodup_eraseDups requested

theorem Tracks.ask (h : r.Tracks requested popped) {d : TypeDecl}
    (hd : r.registry.definable? d.declName = some d) :
    (r.ask d).Tracks (requested ++ [d.declName]) popped := by
  have hmem : d.declName ∈ r.asked ↔ d.declName ∈ requested := by
    rw [h.asked_eq, List.mem_eraseDups]
  unfold Resolver.ask
  split
  · -- Asked for before: another mention does not come first.
    next ha =>
    refine ⟨?_, h.declNames_eq, h.definable⟩
    rw [eraseDups_concat, if_pos (hmem.mp ha), h.asked_eq]
  · next ha =>
    refine ⟨?_, ?_, ?_⟩
    · rw [eraseDups_concat, if_neg (fun hr => ha (hmem.mpr hr)), ← h.asked_eq]
    · show (popped ++ (r.sink.queue ++ [d])).map TypeDecl.declName = r.asked ++ [d.declName]
      rw [← List.append_assoc, List.map_append, h.declNames_eq]
      rfl
    · show ∀ e ∈ popped ++ (r.sink.queue ++ [d]), r.registry.definable? e.declName = some e
      intro e he
      rw [← List.append_assoc, List.mem_append, List.mem_singleton] at he
      rcases he with he | rfl
      · exact h.definable e he
      · exact hd

theorem Tracks.askAll (h : r.Tracks requested popped) {ds : List TypeDecl}
    (hds : ∀ d ∈ ds, r.registry.definable? d.declName = some d) :
    (r.askAll ds).Tracks (requested ++ ds.map TypeDecl.declName) popped := by
  induction ds generalizing r requested with
  | nil => simpa [Resolver.askAll] using h
  | cons d ds ih =>
    have hd := h.ask (hds d List.mem_cons_self)
    have hr : ((r.ask d).askAll ds).Tracks _ popped :=
      ih hd (by simpa using fun e he => hds e (List.mem_cons_of_mem d he))
    rw [List.append_assoc] at hr
    exact hr

theorem pop?_eq_some {d : TypeDecl} {r' : Resolver Pending} (hp : r.pop? = some (d, r')) :
    ∃ ds, r.sink.queue = d :: ds ∧ r' = { r with sink := ⟨ds⟩ } := by
  obtain ⟨registry, asked, queue⟩ := r
  cases queue with
  | mk ds =>
    cases ds with
    | nil => simp [pop?, Pending.pop] at hp
    | cons e ds =>
      simp only [pop?, Pending.pop, Option.some.injEq, Prod.mk.injEq] at hp
      obtain ⟨rfl, rfl⟩ := hp
      exact ⟨ds, rfl, rfl⟩

theorem Tracks.pop (h : r.Tracks requested popped) {d : TypeDecl} {r' : Resolver Pending}
    (hp : r.pop? = some (d, r')) : r'.Tracks requested (popped ++ [d]) := by
  obtain ⟨ds, hq, rfl⟩ := pop?_eq_some hp
  -- The declaration only changes sides.
  have hall : (popped ++ [d]) ++ ds = popped ++ r.sink.queue := by
    rw [hq, List.append_assoc, List.singleton_append]
  refine ⟨h.asked_eq, ?_, ?_⟩
  · show ((popped ++ [d]) ++ ds).map TypeDecl.declName = r.asked
    rw [hall, h.declNames_eq]
  · show ∀ e ∈ (popped ++ [d]) ++ ds, r.registry.definable? e.declName = some e
    rw [hall]
    exact h.definable

theorem registry_of_pop {d : TypeDecl} {r' : Resolver Pending} (hp : r.pop? = some (d, r')) :
    r'.registry = r.registry := by
  obtain ⟨ds, -, rfl⟩ := pop?_eq_some hp
  rfl

theorem asked_of_pop {d : TypeDecl} {r' : Resolver Pending} (hp : r.pop? = some (d, r')) :
    r'.asked = r.asked := by
  obtain ⟨ds, -, rfl⟩ := pop?_eq_some hp
  rfl

theorem Tracks.lookup_eq (h : r.Tracks requested popped) :
    (popped ++ r.sink.queue).map some = r.asked.map r.registry.lookup := by
  rw [← h.declNames_eq, List.map_map]
  apply List.map_congr_left
  intro d hd
  exact (Registry.definable?_eq_some_iff.mp (h.definable d hd)).2.2.1.symm

theorem Tracks.definable_of_asked (h : r.Tracks requested popped) {n : DeclName}
    (hn : n ∈ r.asked) : ∃ d ∈ popped ++ r.sink.queue, r.registry.definable? n = some d := by
  rw [← h.declNames_eq, List.mem_map] at hn
  obtain ⟨d, hd, rfl⟩ := hn
  exact ⟨d, hd, h.definable d hd⟩

/-- Asking for at most one definition queues at most that one. -/
theorem queue_askAll_of_length_le (r : Resolver Pending) {ds : List TypeDecl}
    (hds : ds.length ≤ 1) :
    ∃ new : List TypeDecl, new.length ≤ 1 ∧
      (r.askAll ds).sink.queue = r.sink.queue ++ new ∧
      (r.askAll ds).asked = r.asked ++ new.map TypeDecl.declName := by
  match ds, hds with
  | [], _ => exact ⟨[], by simp, by simp [Resolver.askAll], by simp [Resolver.askAll]⟩
  | [d], _ =>
    by_cases hd : d.declName ∈ r.asked
    · exact ⟨[], by simp, by simp [Resolver.askAll, Resolver.ask, hd],
        by simp [Resolver.askAll, Resolver.ask, hd]⟩
    · refine ⟨[d], by simp, ?_, by simp [Resolver.askAll, Resolver.ask, hd]⟩
      simp [Resolver.askAll, Resolver.ask, hd, DefinitionSink.receive]

end Resolver

/-- What may be done with a resolver and its queue. -/
inductive Operation where
  | classify (e : TypeExpr)
  | resolve (path name : String) (shape : Shape)
  | pop

/-- A resolver with the declarations that have been taken from its queue. -/
structure Session where
  resolver : Resolver Pending
  popped : List TypeDecl

namespace Session

def start (registry : Registry) : Session := ⟨.ofSink registry .empty, []⟩

def step (s : Session) : Operation → Session
  | .classify e => { s with resolver := (s.resolver.classify e).2 }
  | .resolve path name shape =>
    { s with resolver := (s.resolver.resolveQualified path name shape).2 }
  | .pop =>
    match s.resolver.pop? with
    | none => s
    | some (d, r) => ⟨r, s.popped ++ [d]⟩

def run (registry : Registry) (ops : List Operation) : Session := ops.foldl step (start registry)

end Session

namespace Registry

/-- The definitions an operation refers to, whether asked for before or not. -/
def requestsOf (r : Registry) : Operation → List TypeDecl
  | .classify e => r.requests e
  | .resolve path name _ => (r.definable? ⟨shortModuleName path, name⟩).toList
  | .pop => []

/-- The names of the definitions that the operations refer to, by their first request. -/
def firstRequests (r : Registry) (ops : List Operation) : List DeclName :=
  (ops.flatMap fun op => (r.requestsOf op).map TypeDecl.declName).eraseDups

theorem definable_of_mem_requests {r : Registry} {e : TypeExpr} {d : TypeDecl}
    (h : d ∈ r.requests e) : r.definable? d.declName = some d := by
  obtain ⟨n, -, hd⟩ := mem_requests_iff.mp h
  rw [declName_of_definable hd]
  exact hd

theorem definable_of_mem_toList {r : Registry} {n : DeclName} {d : TypeDecl}
    (h : d ∈ (r.definable? n).toList) : r.definable? d.declName = some d := by
  rw [Option.mem_toList] at h
  rw [declName_of_definable h]
  exact h

end Registry

namespace Session

theorem tracks_step {s : Session} {requested : List DeclName}
    (h : s.resolver.Tracks requested s.popped) (op : Operation) :
    (s.step op).resolver.registry = s.resolver.registry ∧
      (s.step op).resolver.Tracks
        (requested ++ (s.resolver.registry.requestsOf op).map TypeDecl.declName)
        (s.step op).popped := by
  cases op with
  | classify e =>
    simp only [step, Resolver.classify_eq, Registry.requestsOf]
    exact ⟨Resolver.registry_askAll _ _, h.askAll fun d hd => Registry.definable_of_mem_requests hd⟩
  | resolve path name shape =>
    simp only [step, Resolver.resolveQualified_eq, Registry.requestsOf]
    exact ⟨Resolver.registry_askAll _ _, h.askAll fun d hd => Registry.definable_of_mem_toList hd⟩
  | pop =>
    simp only [step, Registry.requestsOf, List.map_nil, List.append_nil]
    cases hp : s.resolver.pop? with
    | none => exact ⟨rfl, h⟩
    | some dr => exact ⟨Resolver.registry_of_pop hp, h.pop hp⟩

theorem tracks_run (registry : Registry) (ops : List Operation) :
    (run registry ops).resolver.registry = registry ∧
      (run registry ops).resolver.Tracks
        (ops.flatMap fun op => (registry.requestsOf op).map TypeDecl.declName)
        (run registry ops).popped := by
  -- From the end of the run, so that the last step is taken where the others lead.
  induction ops using List.reverseRecOn with
  | nil => exact ⟨rfl, Resolver.tracks_fresh registry⟩
  | append_singleton ops op ih =>
    obtain ⟨hr, ht⟩ := ih
    have hs := tracks_step ht op
    rw [hr] at hs
    simpa [run] using hs

/-- Through any run, what has been taken from the queue and what still waits there are the
definitions referred to, once each and by their first request. -/
theorem queue_in_order_of_first_request (registry : Registry) (ops : List Operation) :
    let s := run registry ops
    let names := registry.firstRequests ops
    (s.popped ++ s.resolver.sink.queue).map some = names.map registry.lookup ∧
    (s.popped ++ s.resolver.sink.queue).map TypeDecl.declName = names ∧
    names.Nodup ∧
    (∀ n, s.resolver.isAsked n = true ↔ n ∈ names) ∧
    (∀ d ∈ s.resolver.sink.queue, registry.lookup d.declName = some d) ∧
    (∀ n ∈ names, n.module ≠ "" ∧ SchemaKind.narrow? n.name = none ∧
      ∀ d path target, registry.lookup n = some d → d.type = .ident path target →
        SchemaKind.narrow? target = none) ∧
    ∀ e, ∃ new : List TypeDecl, new.length ≤ 1 ∧
      (s.resolver.classify e).2.sink.queue = s.resolver.sink.queue ++ new ∧
      (s.resolver.classify e).2.asked = s.resolver.asked ++ new.map TypeDecl.declName := by
  intro s names
  obtain ⟨hr, ht⟩ := tracks_run registry ops
  have hn : s.resolver.asked = names := ht.asked_eq
  refine ⟨?_, ?_, ?_, ?_, ?_, ?_, ?_⟩
  · rw [ht.lookup_eq, hr, hn]
  · rw [ht.declNames_eq, hn]
  · exact nodup_eraseDups _
  · intro n
    simp [Resolver.isAsked, hn]
  · intro d hd
    have hq := ht.definable d (List.mem_append_right _ hd)
    rw [hr] at hq
    exact (Registry.definable?_eq_some_iff.mp hq).2.2.1
  · intro n hm
    obtain ⟨d, -, hd⟩ := ht.definable_of_asked (hn ▸ hm)
    rw [hr] at hd
    obtain ⟨hm, hk, hl, ha⟩ := Registry.definable?_eq_some_iff.mp hd
    refine ⟨hm, hk, ?_⟩
    intro e path target he htype
    obtain rfl : d = e := Option.some.inj (hl.symm.trans he)
    simpa [TypeDecl.narrowAlias?, htype] using ha
  · intro e
    rw [Resolver.classify_eq]
    exact s.resolver.queue_askAll_of_length_le (Registry.length_requests_le _ e)

end Session

end TypeSchema
