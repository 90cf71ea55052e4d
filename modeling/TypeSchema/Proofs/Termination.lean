import TypeSchema.Proofs.Nesting
import TypeSchema.Proofs.WorkList

namespace TypeSchema

/-- A struct that embeds itself, two that embed each other and both embed that one, a struct that
refers to all of these, and a type that is its own alias. -/
def Registry.tangle : Registry :=
  Registry.empty
    |>.register ⟨"acme/models", "Node", .struct [⟨"", .pointer (.ident "" "Node"), none⟩,
      ⟨"Left", .ident "models" "Left", none⟩]⟩
    |>.register ⟨"acme/models", "Left", .struct [⟨"", .ident "" "Right", none⟩,
      ⟨"", .ident "" "Node", none⟩]⟩
    |>.register ⟨"acme/models", "Right", .struct [⟨"", .pointer (.ident "" "Left"), none⟩,
      ⟨"", .ident "" "Node", none⟩, ⟨"Other", .ident "models" "Loop", none⟩]⟩
    |>.register ⟨"acme/models", "Loop", .ident "models" "Loop"⟩

namespace DefinitionBuilder

/-- `b.Drains turns final`: until nothing waits, `b` builds the declarations `turns`, one a turn,
and becomes `final`. -/
inductive Drains : DefinitionBuilder → List TypeDecl → DefinitionBuilder → Prop where
  | done {b : DefinitionBuilder} (h : b.next? = none) : Drains b [] b
  | turn {b b' final : DefinitionBuilder} {d : TypeDecl} {r : Resolver Pending}
    {turns : List TypeDecl} (hpop : b.resolver.pop? = some (d, r)) (hnext : b.next? = some b')
    (rest : Drains b' turns final) : Drains b (d :: turns) final

variable {b final final' : DefinitionBuilder} {turns turns' : List TypeDecl}
  {registry : Registry} {roots : List DeclName} {done : List TypeDecl}

theorem Drains.unique (h : b.Drains turns final) (h' : b.Drains turns' final') :
    turns' = turns ∧ final' = final := by
  induction h generalizing turns' with
  | done hb =>
    cases h' with
    | done => exact ⟨rfl, rfl⟩
    | turn _ hb' _ => rw [hb] at hb'; cases hb'
  | turn hpop hnext _ ih =>
    cases h' with
    | done hb' => rw [hnext] at hb'; cases hb'
    | turn hpop' hnext' rest' =>
      rw [hpop] at hpop'
      rw [hnext] at hnext'
      cases hpop'
      cases hnext'
      obtain ⟨rfl, rfl⟩ := ih rest'
      exact ⟨rfl, rfl⟩

theorem Drains.follows (h : b.Drains turns final) (hb : b.Follows registry roots done) :
    final.Follows registry roots (done ++ turns) := by
  induction h generalizing done with
  | done => simpa using hb
  | turn hpop hnext _ ih =>
    obtain ⟨d, r, hpop', hd⟩ := hb.next? hnext
    rw [hpop] at hpop'
    cases hpop'
    simpa using ih hd

/-- Turns that end with nothing waiting are all there are. -/
theorem drains_run {n : Nat} (h : (b.run n).resolver.sink.queue = []) :
    ∃ turns, b.Drains turns (b.run n) := by
  induction n generalizing b with
  | zero => exact ⟨[], .done (next?_eq_none_iff.mpr h)⟩
  | succ n ih =>
    unfold DefinitionBuilder.run at h ⊢
    cases hb : b.next? with
    | none => exact ⟨[], .done hb⟩
    | some b' =>
      simp only [hb] at h
      obtain ⟨turns, hturns⟩ := ih h
      cases hp : b.resolver.pop? with
      | none => simp [DefinitionBuilder.next?, hp] at hb
      | some dr => exact ⟨dr.1 :: turns, .turn hp hb hturns⟩

/-- Finishing is such a run: its turns are the declarations that have been followed to its end. -/
theorem exists_drains (registry : Registry) (calls : List Call) :
    ∃ turns final, (afterCalls registry calls).Drains turns final ∧
      (afterCalls registry calls).finish = final.built ∧
      final.Follows registry (registry.namesCalled calls) turns ∧
      final.resolver.sink.queue = [] := by
  have hb := follows_afterCalls registry calls
  obtain ⟨-, -, hqueue⟩ := hb.run (_ + (afterCalls registry calls).resolver.registry.size) (by
    rw [hb.registry_eq]
    omega)
  obtain ⟨turns, hturns⟩ := drains_run hqueue
  exact ⟨turns, _, hturns, rfl, hturns.follows hb, hqueue⟩

theorem Follows.subset_decls (h : b.Follows registry roots done) : done ⊆ registry.decls :=
  fun d hd => Registry.mem_of_definable (h.definable d hd)

/-- Finishing builds each definition asked for in one turn, at most as many as the registry holds;
and collecting the fields of a declared struct ends, with at most as many collections under way at
once as structs are declared. -/
theorem finish_ends_within_registry (registry : Registry) (calls : List Call) :
    let b := afterCalls registry calls
    (∃ turns final, b.Drains turns final ∧ b.finish = final.built ∧
      (∀ turns' final', b.Drains turns' final' → turns' = turns ∧ final' = final) ∧
      (turns.map TypeDecl.declName).Nodup ∧
      (∀ n, n ∈ turns.map TypeDecl.declName ↔ final.resolver.isAsked n = true) ∧
      turns.length ≤ registry.size ∧ turns ⊆ registry.decls) ∧
    ∀ d ∈ registry.decls, ∀ fields, d.fields? = some fields →
      ∀ r : Resolver Pending, r.registry = registry →
        (∃ active, Collected.Collects registry d.modulePath fields {d.declName} ⟨r, .empty, []⟩
          active {d.declName} (r.collectStruct d fields)) ∧
        ∀ active visiting c, Collected.Collects registry d.modulePath fields {d.declName}
          ⟨r, .empty, []⟩ active visiting c →
          active ≤ registry.structCount ∧ visiting = {d.declName} ∧
            c = r.collectStruct d fields := by
  intro b
  refine ⟨?_, ?_⟩
  · obtain ⟨turns, final, hturns, hfinish, hfollows, hqueue⟩ := exists_drains registry calls
    have hnames := hfollows.declNames_eq hqueue
    refine ⟨turns, final, hturns, hfinish, fun _ _ => hturns.unique, ?_, ?_,
      Nat.le_of_add_right_le hfollows.length_le, hfollows.subset_decls⟩
    · rw [hnames]
      exact hfollows.tracks.nodup
    · intro n
      simp [hnames, Resolver.isAsked]
  · rintro d hd fields hf r rfl
    exact Collected.collects_collectStruct hd hf

theorem finish_ends_within_tangle :
    let left : TypeDecl := ⟨"acme/models", "Left", .struct [⟨"", .ident "" "Right", none⟩,
      ⟨"", .ident "" "Node", none⟩]⟩
    let fields := [⟨"", .ident "" "Right", none⟩, ⟨"", .ident "" "Node", none⟩]
    let b := afterCalls .tangle [.classify (.array (.ident "models" "Node"))]
    let r := Resolver.ofSink Registry.tangle Pending.empty
    left ∈ Registry.tangle.decls ∧ left.fields? = some fields ∧
      (∃ turns final, b.Drains turns final ∧ b.finish = final.built ∧ turns.length ≤ 4) ∧
      ∃ active, Collected.Collects .tangle left.modulePath fields {left.declName} ⟨r, .empty, []⟩
        active {left.declName} (r.collectStruct left fields) ∧ active ≤ 3 := by
  intro left fields b r
  have hleft : left ∈ Registry.tangle.decls := by decide
  have hfields : left.fields? = some fields := rfl
  obtain ⟨⟨turns, final, hturns, hfinish, -, -, -, hlength, -⟩, hcollect⟩ :=
    finish_ends_within_registry .tangle [.classify (.array (.ident "models" "Node"))]
  obtain ⟨⟨active, hactive⟩, hbound⟩ := hcollect left hleft fields hfields r rfl
  exact ⟨hleft, hfields, ⟨turns, final, hturns, hfinish, hlength⟩, active, hactive,
    (hbound active _ _ hactive).1⟩

end DefinitionBuilder

end TypeSchema
