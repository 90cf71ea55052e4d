import TypeSchema.OrderedMap
import TypeSchema.TypeExpr.Basic

namespace TypeSchema

/-- What a declaration is known by: a short module name and a type name. -/
structure DeclName where
  module : String
  name : String
  deriving DecidableEq, Repr

namespace DeclName

def text (n : DeclName) : String := n.module ++ "." ++ n.name

end DeclName

structure TypeDecl where
  modulePath : String
  name : String
  type : TypeExpr
  deriving DecidableEq

namespace TypeDecl

def module (d : TypeDecl) : String := shortModuleName d.modulePath

def declName (d : TypeDecl) : DeclName := ⟨d.module, d.name⟩

/-- The fields of a struct declaration. -/
def fields? (d : TypeDecl) : Option (List (Field TypeExpr)) :=
  match d.type with
  | .struct fields => some fields
  | _ => none

end TypeDecl

namespace Registry

/-- Behind the last declaration of the same module, or else at the end. -/
def insertGrouped (d : TypeDecl) : List TypeDecl → List TypeDecl
  | [] => [d]
  | e :: es =>
    if e.module = d.module ∧ ∀ x ∈ es, x.module ≠ d.module then e :: d :: es
    else e :: insertGrouped d es

/-- In place of the declaration known alike, if there is one. -/
def place (d : TypeDecl) (decls : List TypeDecl) : List TypeDecl :=
  if ∃ e ∈ decls, e.declName = d.declName then
    decls.map fun e => if e.declName = d.declName then d else e
  else insertGrouped d decls

theorem insertGrouped_perm (d : TypeDecl) (decls : List TypeDecl) :
    (insertGrouped d decls).Perm (d :: decls) := by
  induction decls with
  | nil => exact .refl _
  | cons e es ih =>
    unfold insertGrouped
    split
    · exact .swap ..
    · exact (ih.cons e).trans (.swap ..)

theorem declNames_replace (d : TypeDecl) (decls : List TypeDecl) :
    (decls.map fun e => if e.declName = d.declName then d else e).map TypeDecl.declName =
      decls.map TypeDecl.declName := by
  rw [List.map_map]
  apply List.map_congr_left
  intro e _
  show (if e.declName = d.declName then d else e).declName = e.declName
  split
  · next h => exact h.symm
  · rfl

theorem distinct_place (d : TypeDecl) {decls : List TypeDecl}
    (h : (decls.map TypeDecl.declName).Nodup) :
    ((place d decls).map TypeDecl.declName).Nodup := by
  unfold place
  split
  · rw [declNames_replace]
    exact h
  · next hd =>
    rw [((insertGrouped_perm d decls).map TypeDecl.declName).nodup_iff, List.map_cons,
      List.nodup_cons]
    exact ⟨by simpa using hd, h⟩

end Registry

/-- The declarations of one module stand together. -/
structure Registry where
  decls : List TypeDecl
  distinct : (decls.map TypeDecl.declName).Nodup
  overrides : OrderedMap String String

namespace Registry

def empty : Registry := ⟨[], .nil, .empty⟩

def register (r : Registry) (d : TypeDecl) : Registry :=
  { r with decls := place d r.decls, distinct := distinct_place d r.distinct }

def addOverride (r : Registry) (expression word : String) : Registry :=
  { r with overrides := r.overrides.put expression word }

def lookup (r : Registry) (n : DeclName) : Option TypeDecl := r.decls.find? (·.declName = n)

def override? (r : Registry) (expression : String) : Option String := r.overrides.get? expression

def size (r : Registry) : Nat := r.decls.length

theorem mem_of_lookup {r : Registry} {n : DeclName} {d : TypeDecl} (h : r.lookup n = some d) :
    d ∈ r.decls :=
  List.mem_of_find?_eq_some h

theorem declName_of_lookup {r : Registry} {n : DeclName} {d : TypeDecl}
    (h : r.lookup n = some d) : d.declName = n := by
  have := List.find?_some h
  simpa using this

end Registry

end TypeSchema
