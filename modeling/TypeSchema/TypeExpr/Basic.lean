namespace TypeSchema

/-- A struct field. An embedded field has the empty name, and its type names it. -/
structure Field (τ : Type) where
  name : String
  type : τ
  tag : Option String
  deriving DecidableEq

namespace Field

def isEmbedded {τ : Type} (f : Field τ) : Bool := f.name.isEmpty

end Field

/-- An unqualified identifier has the empty module path. -/
inductive TypeExpr where
  | ident (modulePath name : String)
  | pointer (target : TypeExpr)
  | array (element : TypeExpr)
  | map (key value : TypeExpr)
  | struct (fields : List (Field TypeExpr))
  | interface
  | func (params results : List TypeExpr)
  | chan (message : TypeExpr)

/-- The last segment of a module path. -/
def shortModuleName (path : String) : String :=
  String.ofList (path.toList.reverse.takeWhile (· ≠ '/')).reverse

namespace TypeExpr

def stripPointers : TypeExpr → TypeExpr
  | pointer target => target.stripPointers
  | e => e

def isPointer : TypeExpr → Bool
  | pointer _ => true
  | _ => false

def isStruct : TypeExpr → Bool
  | struct _ => true
  | _ => false

theorem isPointer_stripPointers (e : TypeExpr) : e.stripPointers.isPointer = false := by
  induction e using stripPointers.induct with
  | case1 target ih => simpa [stripPointers] using ih
  | case2 e h =>
    cases e with
    | pointer target => exact absurd rfl (h target)
    | _ => rfl

mutual

/-- Attaches a module path to the bare identifiers that are local to it. -/
def qualifyLocal (module : String) (isLocal : String → Bool) : TypeExpr → TypeExpr
  | ident path name =>
    if path.isEmpty && isLocal name then ident module name else ident path name
  | pointer target => pointer (target.qualifyLocal module isLocal)
  | array element => array (element.qualifyLocal module isLocal)
  | map key value => map (key.qualifyLocal module isLocal) (value.qualifyLocal module isLocal)
  | struct fields => struct (qualifyFields module isLocal fields)
  | interface => interface
  | func params results =>
    func (qualifyTypes module isLocal params) (qualifyTypes module isLocal results)
  | chan message => chan (message.qualifyLocal module isLocal)

def qualifyFields (module : String) (isLocal : String → Bool) :
    List (Field TypeExpr) → List (Field TypeExpr)
  | [] => []
  | ⟨name, type, tag⟩ :: fields =>
    ⟨name, type.qualifyLocal module isLocal, tag⟩ :: qualifyFields module isLocal fields

def qualifyTypes (module : String) (isLocal : String → Bool) : List TypeExpr → List TypeExpr
  | [] => []
  | type :: types => type.qualifyLocal module isLocal :: qualifyTypes module isLocal types

end

mutual

def sameType : TypeExpr → TypeExpr → Bool
  | ident p n, ident q m => p == q && n == m
  | pointer a, pointer b => sameType a b
  | array a, array b => sameType a b
  | map k a, map l b => sameType k l && sameType a b
  | struct fs, struct gs => sameFields fs gs
  | interface, interface => true
  | func ps rs, func qs ss => sameTypes ps qs && sameTypes rs ss
  | chan a, chan b => sameType a b
  | _, _ => false

def sameFields : List (Field TypeExpr) → List (Field TypeExpr) → Bool
  | [], [] => true
  | ⟨n, a, s⟩ :: fs, ⟨m, b, t⟩ :: gs => n == m && sameType a b && s == t && sameFields fs gs
  | _, _ => false

def sameTypes : List TypeExpr → List TypeExpr → Bool
  | [], [] => true
  | a :: as, b :: bs => sameType a b && sameTypes as bs
  | _, _ => false

end

mutual

theorem sameType_iff : ∀ a b : TypeExpr, sameType a b = true ↔ a = b
  | ident _ _, b => by cases b <;> simp [sameType]
  | pointer a, b => by cases b <;> simp [sameType, sameType_iff a]
  | array a, b => by cases b <;> simp [sameType, sameType_iff a]
  | map k a, b => by cases b <;> simp [sameType, sameType_iff k, sameType_iff a]
  | struct fs, b => by cases b <;> simp [sameType, sameFields_iff fs]
  | interface, b => by cases b <;> simp [sameType]
  | func ps rs, b => by cases b <;> simp [sameType, sameTypes_iff ps, sameTypes_iff rs]
  | chan a, b => by cases b <;> simp [sameType, sameType_iff a]

theorem sameFields_iff : ∀ fs gs : List (Field TypeExpr), sameFields fs gs = true ↔ fs = gs
  | [], gs => by cases gs <;> simp [sameFields]
  | ⟨n, a, s⟩ :: fs, gs => by
    cases gs with
    | nil => simp [sameFields]
    | cons g gs =>
      cases g
      simp [sameFields, sameType_iff a, sameFields_iff fs, and_assoc]

theorem sameTypes_iff : ∀ as bs : List TypeExpr, sameTypes as bs = true ↔ as = bs
  | [], bs => by cases bs <;> simp [sameTypes]
  | a :: as, bs => by cases bs <;> simp [sameTypes, sameType_iff a, sameTypes_iff as]

end

instance : DecidableEq TypeExpr := fun a b => decidable_of_iff _ (sameType_iff a b)

end TypeExpr

end TypeSchema
