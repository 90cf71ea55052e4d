import TypeSchema.Proofs.WorkList

namespace TypeSchema

namespace DefinitionBuilder

theorem registry_afterCalls (registry : Registry) (calls : List Call) :
    (afterCalls registry calls).resolver.registry = registry :=
  (follows_afterCalls registry calls).registry_eq

theorem isAsked_afterCalls_iff {registry : Registry} {calls : List Call} {n : DeclName} :
    (afterCalls registry calls).resolver.isAsked n = true ↔ n ∈ registry.namesCalled calls := by
  rw [Resolver.isAsked, decide_eq_true_eq, (tracks_afterCalls registry calls).asked_eq,
    List.mem_eraseDups]

/-- What the calls have asked for together is what each of them asks for on a fresh builder. -/
theorem isAsked_afterCalls_iff_exists {registry : Registry} {calls : List Call} {n : DeclName} :
    (afterCalls registry calls).resolver.isAsked n = true ↔
      ∃ c ∈ calls, ((ofRegistry registry).call c).resolver.isAsked n = true := by
  have hsingle : ∀ c, ((ofRegistry registry).call c).resolver.isAsked n = true ↔
      n ∈ (registry.callRequests c).map TypeDecl.declName := by
    intro c
    have hnames : registry.namesCalled [c] = (registry.callRequests c).map TypeDecl.declName := by
      rw [Registry.namesCalled, List.flatMap_singleton]
    rw [← hnames]
    show (afterCalls registry [c]).resolver.isAsked n = true ↔ _
    exact isAsked_afterCalls_iff
  rw [isAsked_afterCalls_iff, Registry.namesCalled, List.map_flatMap, List.mem_flatMap]
  simp only [hsingle]

theorem request_eq_true_iff {b : DefinitionBuilder} {module name : String} :
    (b.request module name).1 = true ↔
      b.resolver.isAsked ⟨shortModuleName module, name⟩ = false ∧
        ∃ d, b.resolver.registry.definable? ⟨shortModuleName module, name⟩ = some d := by
  rw [request_eq]
  cases b.resolver.registry.definable? ⟨shortModuleName module, name⟩ with
  | none => simp
  | some d => cases b.resolver.isAsked ⟨shortModuleName module, name⟩ <;> simp

theorem request_of_true {b : DefinitionBuilder} {module name : String} {d : TypeDecl}
    (h : (b.request module name).1 = true)
    (hd : b.resolver.registry.definable? ⟨shortModuleName module, name⟩ = some d) :
    (b.request module name).2 = { b with resolver := b.resolver.ask d } := by
  have hasked := (request_eq_true_iff.mp h).1
  rw [request_eq, hd, hasked]
  rfl

theorem request_of_false {b : DefinitionBuilder} {module name : String}
    (h : (b.request module name).1 = false) : (b.request module name).2 = b := by
  -- The two ways to a no, nothing to define or asked for before, both hand back the builder itself.
  rw [request_eq] at h ⊢
  cases hd : b.resolver.registry.definable? ⟨shortModuleName module, name⟩ with
  | none => rfl
  | some d =>
    cases ha : b.resolver.isAsked ⟨shortModuleName module, name⟩ with
    | true => rfl
    | false => simp [hd, ha] at h

/-- A request is answered with yes where the short name of its module is not empty, the name is
declared there, neither it nor what it is an alias of names a value type, and no call before has
asked for it. Then the declaration has been put in the queue, and its name among those asked for,
and nothing else is changed. Answered with no, a request changes nothing. -/
theorem request_reports_what_it_queues (registry : Registry) (calls : List Call)
    (module name : String) :
    let b := afterCalls registry calls
    let n : DeclName := ⟨shortModuleName module, name⟩
    let result := b.request module name
    (b.resolver.isAsked n = true ↔
      ∃ c ∈ calls, ((ofRegistry registry).call c).resolver.isAsked n = true) ∧
    (result.1 = true ↔
      n.module ≠ "" ∧ b.resolver.isAsked n = false ∧ SchemaKind.narrow? name = none ∧
        ∃ d, registry.lookup n = some d ∧
          ∀ path target, d.type = .ident path target → SchemaKind.narrow? target = none) ∧
    (∀ d, result.1 = true → registry.lookup n = some d →
      result.2 = { b with resolver := { b.resolver with
        asked := b.resolver.asked ++ [n], sink := ⟨b.resolver.sink.queue ++ [d]⟩ } }) ∧
    (result.1 = false → result.2 = b) := by
  intro b n result
  have hregistry : b.resolver.registry = registry := registry_afterCalls registry calls
  have htrue : result.1 = true ↔
      b.resolver.isAsked n = false ∧ ∃ d, registry.definable? n = some d := by
    rw [← hregistry]
    exact request_eq_true_iff
  refine ⟨isAsked_afterCalls_iff_exists, ?_, ?_, request_of_false⟩
  · rw [htrue]
    simp only [Registry.definable?_eq_some_iff, TypeDecl.narrowAlias?_eq_none_iff]
    constructor
    · rintro ⟨hasked, d, hm, hk, hl, halias⟩
      exact ⟨hm, hasked, hk, d, hl, halias⟩
    · rintro ⟨hm, hasked, hk, d, hl, halias⟩
      exact ⟨hasked, d, hm, hk, hl, halias⟩
  · intro d hyes hl
    obtain ⟨hasked, e, he⟩ := htrue.mp hyes
    have hle := (Registry.definable?_eq_some_iff.mp he).2.2.1
    obtain rfl : e = d := Option.some.inj (hle.symm.trans hl)
    have hname : e.declName = n := Registry.declName_of_definable he
    have hqueued := request_of_true (b := b) hyes (by rw [hregistry]; exact he)
    rw [← hname] at hasked
    rw [hqueued, Resolver.ask_of_not_isAsked hasked, hname]
    rfl

/-- The shop's parts are queued when they are asked for, also by the full path of their module. The
widgets have been asked for before, and money is a value type. -/
theorem request_reports_parts :
    let calls := [.classify (.pointer (.ident "models" "Widget"))]
    let b := afterCalls .shop calls
    let n : DeclName := ⟨"models", "Part"⟩
    let result := b.request "acme/models" "Part"
    ∃ part, Registry.shop.lookup n = some part ∧
      (∀ path target, part.type = .ident path target → SchemaKind.narrow? target = none) ∧
      b.resolver.isAsked n = false ∧ result.1 = true ∧
      result.2.resolver.sink.queue = b.resolver.sink.queue ++ [part] ∧
      result.2.resolver.asked = b.resolver.asked ++ [n] ∧
      (b.request "models" "Widget").1 = false ∧ (b.request "models" "Widget").2 = b ∧
      (b.request "models" "Money").1 = false ∧ (b.request "models" "Money").2 = b := by
  intro calls b n result
  obtain ⟨part, hpart, htype⟩ : ∃ part, Registry.shop.lookup n = some part ∧
      ∀ path target, part.type ≠ .ident path target := ⟨_, rfl, fun _ _ => TypeExpr.noConfusion⟩
  have halias : ∀ path target, part.type = .ident path target →
      SchemaKind.narrow? target = none := fun path target h => absurd h (htype path target)
  have hasked : b.resolver.isAsked n = false := by decide
  obtain ⟨-, hyes, hqueued, -⟩ :=
    request_reports_what_it_queues .shop calls "acme/models" "Part"
  have htrue : result.1 = true := hyes.mpr ⟨by decide, hasked, by decide, part, hpart, halias⟩
  have hresult := hqueued part htrue hpart
  have hwidget : (b.request "models" "Widget").1 = false := by decide
  have hmoney : (b.request "models" "Money").1 = false := by decide
  obtain ⟨-, -, -, hkept⟩ := request_reports_what_it_queues .shop calls "models" "Widget"
  obtain ⟨-, -, -, hkept'⟩ := request_reports_what_it_queues .shop calls "models" "Money"
  refine ⟨part, hpart, halias, hasked, htrue, ?_, ?_, hwidget, hkept hwidget, hmoney, hkept' hmoney⟩
  · rw [hresult]
  · rw [hresult]
    rfl

end DefinitionBuilder

end TypeSchema
