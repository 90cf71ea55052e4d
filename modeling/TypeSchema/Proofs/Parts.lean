import TypeSchema.Proofs.WellFormed

namespace TypeSchema.TypeExpr

open Text

/-- A type at its place. It is `embedded` where it is the type of a field without a name. -/
structure Part where
  embedded : Bool
  type : TypeExpr

/-- What stands directly in a type. -/
def parts : TypeExpr → List Part
  | ident _ _ => []
  | pointer target => [⟨false, target⟩]
  | array element => [⟨false, element⟩]
  | map key value => [⟨false, key⟩, ⟨false, value⟩]
  | struct fields => fields.map fun f => ⟨f.isEmbedded, f.type⟩
  | interface => []
  | func params results => (params ++ results).map (⟨false, ·⟩)
  | chan message => [⟨false, message⟩]

/-- `p.Holds level q`: on this level of `p` stands `q`. On the first level stands `p` itself. -/
inductive Part.Holds : Part → Nat → Part → Prop
  | self (p : Part) : Holds p 1 p
  | part {p q r : Part} {level : Nat} : q ∈ p.type.parts → Holds q level r →
      Holds p (level + 1) r

theorem fieldsHeight_eq (fields : List (Field TypeExpr)) :
    fieldsHeight fields = typesHeight (fields.map (·.type)) := by
  induction fields with
  | nil => rfl
  | cons f fields ih => rw [fieldsHeight, ih, List.map_cons, typesHeight]

theorem typesHeight_append (ts us : List TypeExpr) :
    typesHeight (ts ++ us) = max (typesHeight ts) (typesHeight us) := by
  induction ts with
  | nil => exact (Nat.zero_max _).symm
  | cons t ts ih => rw [List.cons_append, typesHeight, typesHeight, ih, Nat.max_assoc]

theorem height_le_typesHeight {types : List TypeExpr} {t : TypeExpr} (h : t ∈ types) :
    t.height ≤ typesHeight types := by
  induction types with
  | nil => cases h
  | cons u types ih =>
    rw [typesHeight]
    rcases List.mem_cons.mp h with rfl | h
    · exact Nat.le_max_left _ _
    · exact Nat.le_trans (ih h) (Nat.le_max_right _ _)

theorem exists_height_eq_typesHeight {types : List TypeExpr} (h : 0 < typesHeight types) :
    ∃ t ∈ types, t.height = typesHeight types := by
  induction types with
  | nil => exact absurd h (Nat.lt_irrefl 0)
  | cons u types ih =>
    rw [typesHeight] at h ⊢
    rcases Nat.le_total (typesHeight types) u.height with hle | hle
    · exact ⟨u, List.mem_cons_self, (Nat.max_eq_left hle).symm⟩
    · rw [Nat.max_eq_right hle] at h ⊢
      obtain ⟨t, ht, heq⟩ := ih h
      exact ⟨t, List.mem_cons_of_mem u ht, heq⟩

/-- A type is one level higher than what stands in it. -/
theorem height_eq_parts (t : TypeExpr) : t.height = typesHeight (t.parts.map (·.type)) + 1 := by
  cases t with
  | ident path name => rfl
  | interface => rfl
  | pointer target | array target | chan target =>
    exact congrArg (· + 1) (Nat.max_zero _).symm
  | map key value =>
    simp only [height, parts, List.map_cons, List.map_nil, typesHeight, Nat.max_zero]
  | struct fields => simp only [height, parts, fieldsHeight_eq, List.map_map, Function.comp_def]
  | func params results =>
    simp only [height, parts, List.map_map, Function.comp_def, List.map_id', typesHeight_append]

theorem height_lt_of_mem_parts {t : TypeExpr} {q : Part} (h : q ∈ t.parts) :
    q.type.height < t.height := by
  rw [height_eq_parts t]
  exact Nat.lt_succ_of_le (height_le_typesHeight (List.mem_map_of_mem h))

theorem exists_mem_parts_height {t : TypeExpr} (h : 1 < t.height) :
    ∃ q ∈ t.parts, q.type.height + 1 = t.height := by
  rw [height_eq_parts t] at h ⊢
  obtain ⟨u, hu, heq⟩ := exists_height_eq_typesHeight (Nat.lt_of_succ_lt_succ h)
  obtain ⟨q, hq, rfl⟩ := List.mem_map.mp hu
  exact ⟨q, hq, congrArg (· + 1) heq⟩

theorem Part.Holds.level_add_height_le {p q : Part} {level : Nat} (h : p.Holds level q) :
    level + q.type.height ≤ p.type.height + 1 := by
  induction h with
  | self p => exact Nat.le_of_eq (Nat.add_comm 1 _)
  | part hq _ ih =>
    have hlt := height_lt_of_mem_parts hq
    omega

/-- Something stands on the last level. -/
theorem exists_holds_height (p : Part) : ∃ q, p.Holds p.type.height q := by
  obtain ⟨n, hn⟩ := Nat.exists_eq_succ_of_ne_zero (Nat.pos_iff_ne_zero.mp (height_pos p.type))
  induction n generalizing p with
  | zero => exact ⟨p, hn ▸ .self p⟩
  | succ n ih =>
    obtain ⟨q, hq, hheight⟩ := exists_mem_parts_height (by omega : 1 < p.type.height)
    obtain ⟨r, hr⟩ := ih q (by omega)
    exact ⟨r, hheight ▸ .part hq hr⟩

section

variable {isPath : String → Bool}

/-- What is asked of one field of a well-formed struct. -/
theorem wellFormed_of_mem_fields {fields : List (Field TypeExpr)} {f : Field TypeExpr}
    (h : wellFormedFields isPath fields = true) (hf : f ∈ fields) :
    (if f.name.isEmpty then f.type.isEmbeddable else isIdentifier f.name.toList) = true ∧
      f.type.wellFormed isPath f.isEmbedded = true ∧ f.tag.all isTagText = true := by
  induction fields with
  | nil => cases hf
  | cons g fields ih =>
    rw [wellFormedFields, Bool.and_eq_true, Bool.and_eq_true, Bool.and_eq_true] at h
    rcases List.mem_cons.mp hf with rfl | hf
    · exact ⟨h.1.1.1, h.1.1.2, h.1.2⟩
    · exact ih h.2 hf

theorem wellFormed_of_mem_types {types : List TypeExpr} {t : TypeExpr}
    (h : wellFormedTypes isPath types = true) (ht : t ∈ types) :
    t.wellFormed isPath false = true := by
  induction types with
  | nil => cases ht
  | cons u types ih =>
    rw [wellFormedTypes, Bool.and_eq_true] at h
    rcases List.mem_cons.mp ht with rfl | ht
    · exact h.1
    · exact ih h.2 ht

theorem wellFormed_of_mem_parts {t : TypeExpr} {embedded : Bool} {q : Part}
    (h : t.wellFormed isPath embedded = true) (hq : q ∈ t.parts) :
    q.type.wellFormed isPath q.embedded = true := by
  cases t with
  | ident path name => cases hq
  | interface => cases hq
  | pointer target | array target | chan target =>
    obtain rfl := List.mem_singleton.mp hq
    exact h
  | map key value =>
    rw [wellFormed, Bool.and_eq_true] at h
    simp only [parts, List.mem_cons, List.not_mem_nil, or_false] at hq
    rcases hq with rfl | rfl
    · exact h.1
    · exact h.2
  | struct fields =>
    obtain ⟨f, hf, rfl⟩ := List.mem_map.mp hq
    exact (wellFormed_of_mem_fields h hf).2.1
  | func params results =>
    rw [wellFormed, Bool.and_eq_true] at h
    obtain ⟨u, hu, rfl⟩ := List.mem_map.mp hq
    rcases List.mem_append.mp hu with hu | hu
    · exact wellFormed_of_mem_types h.1 hu
    · exact wellFormed_of_mem_types h.2 hu

theorem Part.Holds.wellFormed {p q : Part} {level : Nat} (h : p.Holds level q)
    (hp : p.type.wellFormed isPath p.embedded = true) :
    q.type.wellFormed isPath q.embedded = true := by
  induction h with
  | self p => exact hp
  | part hq _ ih => exact ih (wellFormed_of_mem_parts hp hq)

end

end TypeSchema.TypeExpr
