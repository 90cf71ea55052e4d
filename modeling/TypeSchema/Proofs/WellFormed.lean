import TypeSchema.Proofs.CharacterClasses

namespace TypeSchema

open Text

namespace TypeExpr

/-- The words that begin another type than an identifier. -/
def keywords : List String := ["map", "struct", "interface", "func", "chan"]

/-- A word that a type can begin with. -/
def isTypeWord (word : List Char) : Bool :=
  word.head?.any isIdentifierStart && word.all isWordChar

/-- The module paths that can stand in a text as they are. -/
def isPathText (path : String) : Bool := isTypeWord path.toList

/-- The types that a field without a name may have. -/
def isEmbeddable : TypeExpr → Bool
  | ident _ _ => true
  | pointer _ => true
  | _ => false

/-- A tag ends at the first backquote. -/
def isTagText (tag : String) : Bool := !tag.toList.contains '\x60'

mutual

/-- Module paths are those that `isPath` admits. Only an `embedded` type, one that stands directly
in a field without a name, may be named by a keyword. -/
def wellFormed (isPath : String → Bool) (embedded : Bool) : TypeExpr → Bool
  | ident path name =>
    isIdentifier name.toList &&
      if path.isEmpty then embedded || !keywords.contains name else isPath path
  | pointer target => target.wellFormed isPath false
  | array element => element.wellFormed isPath false
  | map key value => key.wellFormed isPath false && value.wellFormed isPath false
  | struct fields => wellFormedFields isPath fields
  | interface => true
  | func params results => wellFormedTypes isPath params && wellFormedTypes isPath results
  | chan message => message.wellFormed isPath false

def wellFormedFields (isPath : String → Bool) : List (Field TypeExpr) → Bool
  | [] => true
  | ⟨name, type, tag⟩ :: fields =>
    (if name.isEmpty then type.isEmbeddable else isIdentifier name.toList) &&
      type.wellFormed isPath name.isEmpty && tag.all isTagText &&
      wellFormedFields isPath fields

def wellFormedTypes (isPath : String → Bool) : List TypeExpr → Bool
  | [] => true
  | type :: types => type.wellFormed isPath false && wellFormedTypes isPath types

end

theorem wellFormed_ident {isPath : String → Bool} {embedded : Bool} {path name : String}
    (h : (ident path name).wellFormed isPath embedded = true) :
    isIdentifier name.toList = true ∧ (path.isEmpty = false → isPath path = true) ∧
      (path.isEmpty = true → embedded = false → name ∉ keywords) := by
  rw [wellFormed, Bool.and_eq_true] at h
  refine ⟨h.1, fun hp => ?_, fun hp he => ?_⟩
  · simpa [hp] using h.2
  · simpa [hp, he] using h.2

theorem wellFormedFields_embedded {isPath : String → Bool} {t : TypeExpr} {tag : Option String}
    {fields : List (Field TypeExpr)}
    (h : wellFormedFields isPath (⟨"", t, tag⟩ :: fields) = true) :
    t.wellFormed isPath true = true ∧ tag.all isTagText = true ∧
      wellFormedFields isPath fields = true := by
  rw [wellFormedFields, Bool.and_eq_true, Bool.and_eq_true, Bool.and_eq_true] at h
  exact ⟨h.1.1.2, h.1.2, h.2⟩

theorem wellFormedFields_named {isPath : String → Bool} {names : List String} {t : TypeExpr}
    {tag : Option String} {fields : List (Field TypeExpr)} (hne : ∀ name ∈ names, name ≠ "")
    (h : wellFormedFields isPath (names.map (⟨·, t, tag⟩) ++ fields) = true) :
    (∀ name ∈ names, isIdentifier name.toList = true ∧ t.wellFormed isPath false = true ∧
      tag.all isTagText = true) ∧ wellFormedFields isPath fields = true := by
  induction names with
  | nil => exact ⟨List.forall_mem_nil _, h⟩
  | cons name names ih =>
    rw [List.forall_mem_cons] at hne
    have hempty : name.isEmpty = false := by
      rw [Bool.eq_false_iff, Ne, String.isEmpty_iff]
      exact hne.1
    rw [List.map_cons, List.cons_append, wellFormedFields, hempty, Bool.and_eq_true,
      Bool.and_eq_true, Bool.and_eq_true] at h
    obtain ⟨⟨⟨hname, ht⟩, htag⟩, hmore⟩ := h
    obtain ⟨hnames, hfields⟩ := ih hne.2 hmore
    rw [if_neg Bool.false_ne_true] at hname
    exact ⟨List.forall_mem_cons.2 ⟨⟨hname, ht, htag⟩, hnames⟩, hfields⟩

mutual

/-- Every type counts as one level, that of an embedded field too. -/
def height : TypeExpr → Nat
  | ident _ _ => 1
  | pointer target => target.height + 1
  | array element => element.height + 1
  | map key value => max key.height value.height + 1
  | struct fields => fieldsHeight fields + 1
  | interface => 1
  | func params results => max (typesHeight params) (typesHeight results) + 1
  | chan message => message.height + 1

def fieldsHeight : List (Field TypeExpr) → Nat
  | [] => 0
  | ⟨_, type, _⟩ :: fields => max type.height (fieldsHeight fields)

def typesHeight : List TypeExpr → Nat
  | [] => 0
  | type :: types => max type.height (typesHeight types)

end

theorem height_pos (t : TypeExpr) : 0 < t.height := by
  cases t <;> simp only [height] <;> omega

theorem fieldsHeight_append (fs gs : List (Field TypeExpr)) :
    fieldsHeight (fs ++ gs) = max (fieldsHeight fs) (fieldsHeight gs) := by
  induction fs with
  | nil => exact (Nat.zero_max _).symm
  | cons f fs ih => rw [List.cons_append, fieldsHeight, fieldsHeight, ih, Nat.max_assoc]

mutual

def mapPaths (f : String → String) : TypeExpr → TypeExpr
  | ident path name => ident (f path) name
  | pointer target => pointer (target.mapPaths f)
  | array element => array (element.mapPaths f)
  | map key value => map (key.mapPaths f) (value.mapPaths f)
  | struct fields => struct (mapFieldPaths f fields)
  | interface => interface
  | func params results => func (mapTypePaths f params) (mapTypePaths f results)
  | chan message => chan (message.mapPaths f)

def mapFieldPaths (f : String → String) : List (Field TypeExpr) → List (Field TypeExpr)
  | [] => []
  | ⟨name, type, tag⟩ :: fields => ⟨name, type.mapPaths f, tag⟩ :: mapFieldPaths f fields

def mapTypePaths (f : String → String) : List TypeExpr → List TypeExpr
  | [] => []
  | type :: types => type.mapPaths f :: mapTypePaths f types

end

theorem isEmbeddable_mapPaths (f : String → String) (t : TypeExpr) :
    (t.mapPaths f).isEmbeddable = t.isEmbeddable := by
  cases t <;> simp [mapPaths, isEmbeddable]

mutual

theorem height_mapPaths (f : String → String) : ∀ t : TypeExpr, (t.mapPaths f).height = t.height
  | ident _ _ => rfl
  | pointer target => by rw [mapPaths, height, height, height_mapPaths f target]
  | array element => by rw [mapPaths, height, height, height_mapPaths f element]
  | map key value => by
    rw [mapPaths, height, height, height_mapPaths f key, height_mapPaths f value]
  | struct fields => by rw [mapPaths, height, height, fieldsHeight_mapFieldPaths f fields]
  | interface => rfl
  | func params results => by
    rw [mapPaths, height, height, typesHeight_mapTypePaths f params,
      typesHeight_mapTypePaths f results]
  | chan message => by rw [mapPaths, height, height, height_mapPaths f message]

theorem fieldsHeight_mapFieldPaths (f : String → String) : ∀ fields : List (Field TypeExpr),
    fieldsHeight (mapFieldPaths f fields) = fieldsHeight fields
  | [] => rfl
  | ⟨_, type, _⟩ :: fields => by
    rw [mapFieldPaths, fieldsHeight, fieldsHeight, height_mapPaths f type,
      fieldsHeight_mapFieldPaths f fields]

theorem typesHeight_mapTypePaths (f : String → String) : ∀ types : List TypeExpr,
    typesHeight (mapTypePaths f types) = typesHeight types
  | [] => rfl
  | type :: types => by
    rw [mapTypePaths, typesHeight, typesHeight, height_mapPaths f type,
      typesHeight_mapTypePaths f types]

end

section

variable {P Q : String → Bool} {f : String → String}

theorem wellFormed_ident_mapPaths (hempty : f "" = "")
    (hf : ∀ path, P path = true → (f path).isEmpty = false ∧ Q (f path) = true)
    {path name : String} {embedded : Bool} (h : (ident path name).wellFormed P embedded = true) :
    (ident (f path) name).wellFormed Q embedded = true := by
  obtain ⟨hn, hp, -⟩ := wellFormed_ident h
  by_cases hpath : path.isEmpty = true
  · rw [String.isEmpty_iff.1 hpath] at h ⊢
    rw [hempty]
    exact h
  · obtain ⟨hne, hq⟩ := hf path (hp (Bool.eq_false_iff.2 hpath))
    rw [wellFormed, hn, hne, hq]
    rfl

mutual

/-- A tree stays well formed when each of its module paths is replaced by an admissible one. -/
theorem wellFormed_mapPaths (hempty : f "" = "")
    (hf : ∀ path, P path = true → (f path).isEmpty = false ∧ Q (f path) = true) :
    ∀ (t : TypeExpr) {embedded : Bool}, t.wellFormed P embedded = true →
      (t.mapPaths f).wellFormed Q embedded = true
  | ident _ _, _, h => wellFormed_ident_mapPaths hempty hf h
  | pointer target, _, h => wellFormed_mapPaths hempty hf target h
  | array element, _, h => wellFormed_mapPaths hempty hf element h
  | map key value, _, h => by
    rw [wellFormed, Bool.and_eq_true] at h
    rw [mapPaths, wellFormed, wellFormed_mapPaths hempty hf key h.1,
      wellFormed_mapPaths hempty hf value h.2]
    rfl
  | struct fields, _, h => wellFormedFields_mapFieldPaths hempty hf fields h
  | interface, _, _ => rfl
  | func params results, _, h => by
    rw [wellFormed, Bool.and_eq_true] at h
    rw [mapPaths, wellFormed, wellFormedTypes_mapTypePaths hempty hf params h.1,
      wellFormedTypes_mapTypePaths hempty hf results h.2]
    rfl
  | chan message, _, h => wellFormed_mapPaths hempty hf message h

theorem wellFormedFields_mapFieldPaths (hempty : f "" = "")
    (hf : ∀ path, P path = true → (f path).isEmpty = false ∧ Q (f path) = true) :
    ∀ fields : List (Field TypeExpr), wellFormedFields P fields = true →
      wellFormedFields Q (mapFieldPaths f fields) = true
  | [], _ => rfl
  | ⟨name, type, tag⟩ :: fields, h => by
    rw [wellFormedFields, Bool.and_eq_true, Bool.and_eq_true, Bool.and_eq_true] at h
    have htype := wellFormed_mapPaths hempty hf type h.1.1.2
    have hfields := wellFormedFields_mapFieldPaths hempty hf fields h.2
    rw [mapFieldPaths, wellFormedFields, isEmbeddable_mapPaths, h.1.1.1, htype, h.1.2, hfields]
    rfl

theorem wellFormedTypes_mapTypePaths (hempty : f "" = "")
    (hf : ∀ path, P path = true → (f path).isEmpty = false ∧ Q (f path) = true) :
    ∀ types : List TypeExpr, wellFormedTypes P types = true →
      wellFormedTypes Q (mapTypePaths f types) = true
  | [], _ => rfl
  | type :: types, h => by
    rw [wellFormedTypes, Bool.and_eq_true] at h
    rw [mapTypePaths, wellFormedTypes, wellFormed_mapPaths hempty hf type h.1,
      wellFormedTypes_mapTypePaths hempty hf types h.2]
    rfl

end

end

end TypeExpr

end TypeSchema
