import TypeSchema.Proofs.BreadthFirst
import TypeSchema.Proofs.Registration

namespace TypeSchema

section Grouping

variable {α κ : Type} [DecidableEq κ]

/-- The members of a list by their keys: those of one key together, and the keys in the order in
which they are first met. -/
def groupedBy (f : α → κ) (l : List α) : List α :=
  (l.map f).eraseDups.flatMap fun k => l.filter (f · = k)

variable {f : α → κ} {l : List α} {a : α}

theorem mem_groupedBy : a ∈ groupedBy f l ↔ a ∈ l := by
  simp only [groupedBy, List.mem_flatMap, List.mem_eraseDups, List.mem_filter, decide_eq_true_eq]
  constructor
  · rintro ⟨k, -, ha, -⟩
    exact ha
  · intro ha
    exact ⟨f a, List.mem_map_of_mem ha, ha, rfl⟩

/-- The members of one key stand together. -/
theorem filter_infix_groupedBy (f : α → κ) (l : List α) (k : κ) :
    l.filter (f · = k) <:+: groupedBy f l := by
  by_cases hk : k ∈ l.map f
  · show _ <:+: ((l.map f).eraseDups.map fun k => l.filter (f · = k)).flatten
    apply List.infix_of_mem_flatten
    exact List.mem_map.mpr ⟨k, List.mem_eraseDups.mpr hk, rfl⟩
  · have hnone : l.filter (f · = k) = [] := by
      rw [List.filter_eq_nil_iff]
      intro a ha hka
      exact hk (of_decide_eq_true hka ▸ List.mem_map_of_mem ha)
    rw [hnone]
    exact List.nil_infix

theorem filter_concat_of_eq {k : κ} (h : f a = k) :
    (l ++ [a]).filter (f · = k) = l.filter (f · = k) ++ [a] := by
  rw [List.filter_append, List.filter_singleton, decide_eq_true h]
  rfl

theorem filter_concat_of_ne {k : κ} (h : f a ≠ k) :
    (l ++ [a]).filter (f · = k) = l.filter (f · = k) := by
  rw [List.filter_append, List.filter_singleton, decide_eq_false h]
  exact List.append_nil _

/-- A member does not count for the other keys. -/
theorem flatMap_filter_concat {ks : List κ} (h : f a ∉ ks) :
    (ks.flatMap fun k => (l ++ [a]).filter (f · = k)) =
      ks.flatMap fun k => l.filter (f · = k) := by
  apply List.flatMap_congr
  intro k hk
  apply filter_concat_of_ne
  rintro rfl
  exact h hk

/-- A new key comes last. -/
theorem groupedBy_concat_of_not_mem (h : f a ∉ l.map f) :
    groupedBy f (l ++ [a]) = groupedBy f l ++ [a] := by
  have hkeys : ((l ++ [a]).map f).eraseDups = (l.map f).eraseDups ++ [f a] := by
    rw [List.map_append, List.map_singleton, eraseDups_concat, if_neg h]
  have hnone : l.filter (f · = f a) = [] := by
    rw [List.filter_eq_nil_iff]
    intro b hb hba
    exact h (of_decide_eq_true hba ▸ List.mem_map_of_mem hb)
  rw [groupedBy, hkeys, List.flatMap_append, List.flatMap_singleton, filter_concat_of_eq rfl, hnone,
    flatMap_filter_concat fun hmem => h (List.mem_eraseDups.mp hmem)]
  rfl

/-- A member of a known key comes behind the last one of that key. -/
theorem groupedBy_concat_of_mem (h : f a ∈ l.map f) :
    ∃ before x after, f x = f a ∧ (∀ y ∈ after, f y ≠ f a) ∧
      groupedBy f l = before ++ x :: after ∧
      groupedBy f (l ++ [a]) = before ++ x :: a :: after := by
  have hkeys : ((l ++ [a]).map f).eraseDups = (l.map f).eraseDups := by
    rw [List.map_append, List.map_singleton, eraseDups_concat, if_pos h]
  -- The keys before and behind this one, and the last member that has it.
  obtain ⟨ks, ks', hsplit⟩ := List.append_of_mem (List.mem_eraseDups.mpr h)
  have hnodup : (ks ++ f a :: ks').Nodup := hsplit ▸ nodup_eraseDups (l.map f)
  rw [List.nodup_middle, List.nodup_cons, List.mem_append, not_or] at hnodup
  obtain ⟨⟨hks, hks'⟩, -⟩ := hnodup
  obtain ⟨b, hb, hba⟩ := List.mem_map.mp h
  have hne : l.filter (f · = f a) ≠ [] :=
    List.ne_nil_of_mem (List.mem_filter.mpr ⟨hb, decide_eq_true hba⟩)
  obtain ⟨init, x, hx⟩ := List.eq_nil_or_concat' _ |>.resolve_left hne
  have hxmem : x ∈ l.filter (f · = f a) := by
    rw [hx]
    exact List.mem_append_right _ (List.mem_singleton_self x)
  refine ⟨(ks.flatMap fun k => l.filter (f · = k)) ++ init, x,
    ks'.flatMap fun k => l.filter (f · = k), ?_, ?_, ?_, ?_⟩
  · exact of_decide_eq_true (List.mem_filter.mp hxmem).2
  · intro y hy hya
    obtain ⟨k, hk, hy⟩ := List.mem_flatMap.mp hy
    have hyk : f y = k := of_decide_eq_true (List.mem_filter.mp hy).2
    exact hks' (hya ▸ hyk ▸ hk)
  · rw [groupedBy, hsplit, List.flatMap_append, List.flatMap_cons, hx]
    simp only [List.append_assoc, List.cons_append, List.nil_append]
  · rw [groupedBy, hkeys, hsplit, List.flatMap_append, List.flatMap_cons, flatMap_filter_concat hks,
      flatMap_filter_concat hks', filter_concat_of_eq rfl, hx]
    simp only [List.append_assoc, List.cons_append, List.nil_append]

/-- Of a list in which the members of each key stand together, the same holds without the last. -/
theorem filter_infix_of_concat (h : ∀ k, (l ++ [a]).filter (f · = k) <:+: l ++ [a]) :
    (∀ k, l.filter (f · = k) <:+: l) ∧ l.filter (f · = f a) <:+ l := by
  have hlast : l.filter (f · = f a) <:+ l := by
    have hkey := h (f a)
    rw [filter_concat_of_eq rfl, List.infix_concat_iff] at hkey
    rcases hkey with hkey | hkey
    · exact List.suffix_append_self_iff.mp hkey
    · -- There are more members of this key than the list has without the last.
      have hlen := (hkey.filter (f · = f a)).length_le
      rw [filter_concat_of_eq rfl, List.filter_filter, List.length_append] at hlen
      simp only [Bool.and_self, List.length_singleton] at hlen
      omega
  refine ⟨?_, hlast⟩
  intro k
  by_cases hk : f a = k
  · exact hk ▸ hlast.isInfix
  · have hkey := h k
    rw [filter_concat_of_ne hk, List.infix_concat_iff, List.suffix_concat_iff] at hkey
    rcases hkey with (hnil | ⟨t, ht, -⟩) | hkey
    · rw [hnil]
      exact List.nil_infix
    · have ha : a ∈ l.filter (f · = k) := by
        rw [ht]
        exact List.mem_append_right _ (List.mem_singleton_self a)
      exact absurd (of_decide_eq_true (List.mem_filter.mp ha).2) hk
    · exact hkey

theorem eq_nil_of_filter_suffix {p : α → Bool} {before after : List α} {x : α} (hx : p x = true)
    (hafter : ∀ y ∈ after, p y = false)
    (h : (before ++ x :: after).filter p <:+ before ++ x :: after) : after = [] := by
  have hnone : after.filter p = [] := by
    rw [List.filter_eq_nil_iff]
    intro y hy
    exact Bool.eq_false_iff.mp (hafter y hy)
  rw [List.filter_append, List.filter_cons_of_pos hx, hnone] at h
  rcases List.eq_nil_or_concat' after with hnil | ⟨init, y, rfl⟩
  · exact hnil
  · rw [← List.cons_append, ← List.append_assoc] at h
    have hlast := ((List.suffix_append_inj_of_length_eq (by rfl)).mp h).2
    obtain rfl := List.singleton_inj.mp hlast
    have hy := hafter x (List.mem_append_right _ (List.mem_singleton_self x))
    exact absurd hx (Bool.eq_false_iff.mp hy)

/-- Grouping changes nothing exactly where the members of each key stand together. -/
theorem groupedBy_eq_self_iff : groupedBy f l = l ↔ ∀ k, l.filter (f · = k) <:+: l := by
  constructor
  · intro h k
    have hinfix := filter_infix_groupedBy f l k
    rw [h] at hinfix
    exact hinfix
  · intro h
    induction l using List.reverseRecOn with
    | nil => rfl
    | append_singleton l a ih =>
      obtain ⟨hrest, hlast⟩ := filter_infix_of_concat h
      have hl := ih hrest
      by_cases ha : f a ∈ l.map f
      · obtain ⟨before, x, after, hx, hafter, hold, hnew⟩ := groupedBy_concat_of_mem ha
        rw [hl] at hold
        -- The members of this key end the list, so none of another key stands behind the last one.
        have hnil : after = [] := by
          rw [hold] at hlast
          exact eq_nil_of_filter_suffix (decide_eq_true hx)
            (fun y hy => decide_eq_false (hafter y hy)) hlast
        rw [hnew, hold, hnil]
        simp only [List.append_assoc, List.cons_append, List.nil_append]
      · rw [groupedBy_concat_of_not_mem ha, hl]

end Grouping

namespace Registry

variable {r : Registry} {d : TypeDecl} {names : List DeclName}

theorem insertGrouped_of_new {decls : List TypeDecl} (h : ∀ e ∈ decls, e.module ≠ d.module) :
    insertGrouped d decls = decls ++ [d] := by
  induction decls with
  | nil => rfl
  | cons e decls ih =>
    rw [List.forall_mem_cons] at h
    rw [insertGrouped, if_neg (fun hsame => h.1 hsame.1), ih h.2, List.cons_append]

theorem insertGrouped_behind {before after : List TypeDecl} {e : TypeDecl}
    (he : e.module = d.module) (hafter : ∀ x ∈ after, x.module ≠ d.module) :
    insertGrouped d (before ++ e :: after) = before ++ e :: d :: after := by
  induction before with
  | nil => exact if_pos ⟨he, hafter⟩
  | cons b before ih =>
    -- A declaration of the module comes later, so this is not the place.
    have hlater : ¬∀ x ∈ before ++ e :: after, x.module ≠ d.module := fun h =>
      h e (List.mem_append_right _ List.mem_cons_self) he
    rw [List.cons_append, insertGrouped, if_neg (fun h => hlater h.2), ih, List.cons_append]

/-- A name keeps its place once it has one. -/
theorem declNames_register (h : r.decls.map TypeDecl.declName = groupedBy DeclName.module names) :
    (r.register d).decls.map TypeDecl.declName = groupedBy DeclName.module
      (if d.declName ∈ names then names else names ++ [d.declName]) := by
  have hmem : d.declName ∈ names ↔ ∃ e ∈ r.decls, e.declName = d.declName := by
    rw [← mem_groupedBy (f := DeclName.module), ← h, List.mem_map]
  show (place d r.decls).map TypeDecl.declName = _
  unfold place
  by_cases hknown : d.declName ∈ names
  · rw [if_pos hknown, if_pos (hmem.mp hknown), declNames_replace, h]
  · rw [if_neg hknown, if_neg (fun hd => hknown (hmem.mpr hd))]
    by_cases hmodule : d.declName.module ∈ names.map DeclName.module
    · obtain ⟨before, n, after, hn, hafter, hold, hnew⟩ :=
        groupedBy_concat_of_mem (f := DeclName.module) (a := d.declName) hmodule
      -- The declarations stand as their names do.
      rw [hold, List.map_eq_append_iff] at h
      obtain ⟨ds, ds', hsplit, rfl, hds⟩ := h
      obtain ⟨e, ds', rfl, rfl, rfl⟩ := List.map_eq_cons_iff.mp hds
      have hother : ∀ x ∈ ds', x.module ≠ d.module := fun x hx =>
        hafter x.declName (List.mem_map_of_mem hx)
      rw [hnew, hsplit, insertGrouped_behind hn hother, List.map_append, List.map_cons,
        List.map_cons]
    · have hother : ∀ e ∈ r.decls, e.module ≠ d.module := by
        intro e he hsame
        have hname : e.declName ∈ names := by
          rw [← mem_groupedBy (f := DeclName.module), ← h]
          exact List.mem_map_of_mem he
        exact hmodule (List.mem_map.mpr ⟨e.declName, hname, hsame⟩)
      rw [groupedBy_concat_of_not_mem (f := DeclName.module) (a := d.declName) hmodule,
        insertGrouped_of_new hother, List.map_append, h, List.map_singleton]

/-- The names that have been registered, in the order of their first registration and grouped by
module. -/
theorem declNames_registerAll_eq (hr : r.decls = []) (ds : List TypeDecl) :
    (r.registerAll ds).decls.map TypeDecl.declName =
      groupedBy DeclName.module (ds.map TypeDecl.declName).eraseDups := by
  induction ds using List.reverseRecOn with
  | nil =>
    show r.decls.map TypeDecl.declName = []
    rw [hr, List.map_nil]
  | append_singleton ds d ih =>
    have hlast : r.registerAll (ds ++ [d]) = (r.registerAll ds).register d := List.foldl_concat ..
    have hstep := declNames_register (d := d) ih
    rw [hlast, hstep, List.map_append, List.map_singleton, eraseDups_concat]
    simp only [List.mem_eraseDups]

/-- A registry lists one declaration for each name that was registered, the last one. The modules
come in the order of their first registration, and so do the names of each module. Altogether that
is the order of first registration exactly where the names of each module were first registered
together. -/
theorem decls_in_order_by_module (overrides : OrderedMap String String) (ds : List TypeDecl) :
    let r := (ofOverrides overrides).registerAll ds
    let names := (ds.map TypeDecl.declName).eraseDups
    r.decls.map some =
      (groupedBy DeclName.module names).map (fun n => (ds.filter (·.declName = n)).getLast?) ∧
    r.decls.map TypeDecl.declName = groupedBy DeclName.module names ∧
    (r.decls.map TypeDecl.declName).Nodup ∧
    (r.decls.map TypeDecl.declName = names ↔
      ∀ module, names.filter (·.module = module) <:+: names) := by
  intro r names
  have hnames : r.decls.map TypeDecl.declName = groupedBy DeclName.module names :=
    declNames_registerAll_eq rfl ds
  refine ⟨?_, hnames, r.distinct, ?_⟩
  · rw [← hnames, List.map_map]
    apply List.map_congr_left
    intro d hd
    have hfound : r.lookup d.declName = some d := lookup_eq_some_iff.mpr ⟨hd, rfl⟩
    rw [← hfound]
    exact lookup_registerAll_of_nil rfl ds d.declName
  · rw [hnames]
    exact groupedBy_eq_self_iff

/-- Of three declarations the last belongs to the module of the first, and is listed before the
second. -/
theorem decls_out_of_order :
    let ds : List TypeDecl := [⟨"acme/models", "Widget", .interface⟩,
      ⟨"acme/orders", "Order", .interface⟩, ⟨"acme/models", "Part", .interface⟩]
    let names := (ds.map TypeDecl.declName).eraseDups
    let r := (ofOverrides .empty).registerAll ds
    names = [⟨"models", "Widget"⟩, ⟨"orders", "Order"⟩, ⟨"models", "Part"⟩] ∧
      r.decls.map TypeDecl.declName =
        [⟨"models", "Widget"⟩, ⟨"models", "Part"⟩, ⟨"orders", "Order"⟩] ∧
      r.decls.map TypeDecl.declName ≠ names := by
  decide

end Registry

end TypeSchema
