import TypeSchema.Proofs.WellFormed

namespace TypeSchema.TypeExpr

mutual

/-- The identifiers of a type in the order in which they are written, each with its module path. -/
def identifiers : TypeExpr → List (String × String)
  | ident path name => [(path, name)]
  | pointer target => target.identifiers
  | array element => element.identifiers
  | map key value => key.identifiers ++ value.identifiers
  | struct fields => fieldIdentifiers fields
  | interface => []
  | func params results => typeIdentifiers params ++ typeIdentifiers results
  | chan message => message.identifiers

def fieldIdentifiers : List (Field TypeExpr) → List (String × String)
  | [] => []
  | ⟨_, type, _⟩ :: fields => type.identifiers ++ fieldIdentifiers fields

def typeIdentifiers : List TypeExpr → List (String × String)
  | [] => []
  | type :: types => type.identifiers ++ typeIdentifiers types

end

/-- The shape of a type: all that is written there but the module paths. -/
def withoutPaths (t : TypeExpr) : TypeExpr := t.mapPaths fun _ => ""

def qualifyName (module : String) (isLocal : String → Bool) (n : String × String) :
    String × String :=
  if n.1.isEmpty && isLocal n.2 then (module, n.2) else n

section

variable (module : String) (isLocal : String → Bool)

mutual

theorem identifiers_qualifyLocal : ∀ t : TypeExpr,
    (t.qualifyLocal module isLocal).identifiers =
      t.identifiers.map (qualifyName module isLocal)
  | ident path name => by
    rw [qualifyLocal, identifiers, List.map_singleton, qualifyName]
    split <;> rfl
  | pointer target => identifiers_qualifyLocal target
  | array element => identifiers_qualifyLocal element
  | map key value => by
    rw [qualifyLocal, identifiers, identifiers, identifiers_qualifyLocal key,
      identifiers_qualifyLocal value, List.map_append]
  | struct fields => fieldIdentifiers_qualifyFields fields
  | interface => rfl
  | func params results => by
    rw [qualifyLocal, identifiers, identifiers, typeIdentifiers_qualifyTypes params,
      typeIdentifiers_qualifyTypes results, List.map_append]
  | chan message => identifiers_qualifyLocal message

theorem fieldIdentifiers_qualifyFields : ∀ fields : List (Field TypeExpr),
    fieldIdentifiers (qualifyFields module isLocal fields) =
      (fieldIdentifiers fields).map (qualifyName module isLocal)
  | [] => rfl
  | ⟨_, type, _⟩ :: fields => by
    rw [qualifyFields, fieldIdentifiers, fieldIdentifiers, identifiers_qualifyLocal type,
      fieldIdentifiers_qualifyFields fields, List.map_append]

theorem typeIdentifiers_qualifyTypes : ∀ types : List TypeExpr,
    typeIdentifiers (qualifyTypes module isLocal types) =
      (typeIdentifiers types).map (qualifyName module isLocal)
  | [] => rfl
  | type :: types => by
    rw [qualifyTypes, typeIdentifiers, typeIdentifiers, identifiers_qualifyLocal type,
      typeIdentifiers_qualifyTypes types, List.map_append]

end

variable {f : String → String}

mutual

/-- What does not tell the module from no module does not see a type qualified. -/
theorem mapPaths_qualifyLocal (hf : f module = f "") : ∀ t : TypeExpr,
    (t.qualifyLocal module isLocal).mapPaths f = t.mapPaths f
  | ident path name => by
    rw [qualifyLocal]
    split
    · next hlocal =>
      rw [Bool.and_eq_true, String.isEmpty_iff] at hlocal
      rw [mapPaths, mapPaths, hlocal.1, hf]
    · rfl
  | pointer target => congrArg pointer (mapPaths_qualifyLocal hf target)
  | array element => congrArg array (mapPaths_qualifyLocal hf element)
  | map key value => congrArg₂ map (mapPaths_qualifyLocal hf key) (mapPaths_qualifyLocal hf value)
  | struct fields => congrArg struct (mapFieldPaths_qualifyFields hf fields)
  | interface => rfl
  | func params results =>
    congrArg₂ func (mapTypePaths_qualifyTypes hf params) (mapTypePaths_qualifyTypes hf results)
  | chan message => congrArg chan (mapPaths_qualifyLocal hf message)

theorem mapFieldPaths_qualifyFields (hf : f module = f "") : ∀ fields : List (Field TypeExpr),
    mapFieldPaths f (qualifyFields module isLocal fields) = mapFieldPaths f fields
  | [] => rfl
  | ⟨name, type, tag⟩ :: fields => by
    rw [qualifyFields, mapFieldPaths, mapFieldPaths, mapPaths_qualifyLocal hf type,
      mapFieldPaths_qualifyFields hf fields]

theorem mapTypePaths_qualifyTypes (hf : f module = f "") : ∀ types : List TypeExpr,
    mapTypePaths f (qualifyTypes module isLocal types) = mapTypePaths f types
  | [] => rfl
  | type :: types => by
    rw [qualifyTypes, mapTypePaths, mapTypePaths, mapPaths_qualifyLocal hf type,
      mapTypePaths_qualifyTypes hf types]

end

end

section

variable {f : String → String}

mutual

-- Followed by the identifiers of what stands behind: the shape alone says how many are the type's
-- own, so the two lists are taken apart from the front.
theorem eq_of_mapPaths_eq : ∀ (t u : TypeExpr) {rest rest' : List (String × String)},
    t.mapPaths f = u.mapPaths f → t.identifiers ++ rest = u.identifiers ++ rest' →
      t = u ∧ rest = rest'
  | ident path name, u, _, _, hshape, hnames => by
    cases u with
    | ident path' name' =>
      obtain ⟨hname, hrest⟩ := List.cons_eq_cons.mp hnames
      obtain ⟨rfl, rfl⟩ := Prod.mk.inj hname
      exact ⟨rfl, hrest⟩
    | _ => cases hshape
  | pointer target, u, _, _, hshape, hnames => by
    cases u with
    | pointer target' =>
      obtain ⟨rfl, hrest⟩ := eq_of_mapPaths_eq target target' (pointer.inj hshape) hnames
      exact ⟨rfl, hrest⟩
    | _ => cases hshape
  | array element, u, _, _, hshape, hnames => by
    cases u with
    | array element' =>
      obtain ⟨rfl, hrest⟩ := eq_of_mapPaths_eq element element' (array.inj hshape) hnames
      exact ⟨rfl, hrest⟩
    | _ => cases hshape
  | map key value, u, _, _, hshape, hnames => by
    cases u with
    | map key' value' =>
      obtain ⟨hkey, hvalue⟩ := map.inj hshape
      rw [identifiers, identifiers, List.append_assoc, List.append_assoc] at hnames
      obtain ⟨rfl, hvalues⟩ := eq_of_mapPaths_eq key key' hkey hnames
      obtain ⟨rfl, hrest⟩ := eq_of_mapPaths_eq value value' hvalue hvalues
      exact ⟨rfl, hrest⟩
    | _ => cases hshape
  | struct fields, u, _, _, hshape, hnames => by
    cases u with
    | struct fields' =>
      obtain ⟨rfl, hrest⟩ := eq_of_mapFieldPaths_eq fields fields' (struct.inj hshape) hnames
      exact ⟨rfl, hrest⟩
    | _ => cases hshape
  | interface, u, _, _, hshape, hnames => by
    cases u with
    | interface => exact ⟨rfl, hnames⟩
    | _ => cases hshape
  | func params results, u, _, _, hshape, hnames => by
    cases u with
    | func params' results' =>
      obtain ⟨hparams, hresults⟩ := func.inj hshape
      rw [identifiers, identifiers, List.append_assoc, List.append_assoc] at hnames
      obtain ⟨rfl, hmore⟩ := eq_of_mapTypePaths_eq params params' hparams hnames
      obtain ⟨rfl, hrest⟩ := eq_of_mapTypePaths_eq results results' hresults hmore
      exact ⟨rfl, hrest⟩
    | _ => cases hshape
  | chan message, u, _, _, hshape, hnames => by
    cases u with
    | chan message' =>
      obtain ⟨rfl, hrest⟩ := eq_of_mapPaths_eq message message' (chan.inj hshape) hnames
      exact ⟨rfl, hrest⟩
    | _ => cases hshape

theorem eq_of_mapFieldPaths_eq : ∀ (fs gs : List (Field TypeExpr))
    {rest rest' : List (String × String)}, mapFieldPaths f fs = mapFieldPaths f gs →
      fieldIdentifiers fs ++ rest = fieldIdentifiers gs ++ rest' → fs = gs ∧ rest = rest'
  | [], gs, _, _, hshape, hnames => by
    cases gs with
    | nil => exact ⟨rfl, hnames⟩
    | cons g gs => cases hshape
  | ⟨name, type, tag⟩ :: fs, gs, _, _, hshape, hnames => by
    cases gs with
    | nil => cases hshape
    | cons g gs =>
      obtain ⟨name', type', tag'⟩ := g
      rw [mapFieldPaths, mapFieldPaths, List.cons_eq_cons, Field.mk.injEq] at hshape
      obtain ⟨⟨rfl, htype, rfl⟩, hfields⟩ := hshape
      rw [fieldIdentifiers, fieldIdentifiers, List.append_assoc, List.append_assoc] at hnames
      obtain ⟨rfl, hmore⟩ := eq_of_mapPaths_eq type type' htype hnames
      obtain ⟨rfl, hrest⟩ := eq_of_mapFieldPaths_eq fs gs hfields hmore
      exact ⟨rfl, hrest⟩

theorem eq_of_mapTypePaths_eq : ∀ (ts us : List TypeExpr)
    {rest rest' : List (String × String)}, mapTypePaths f ts = mapTypePaths f us →
      typeIdentifiers ts ++ rest = typeIdentifiers us ++ rest' → ts = us ∧ rest = rest'
  | [], us, _, _, hshape, hnames => by
    cases us with
    | nil => exact ⟨rfl, hnames⟩
    | cons u us => cases hshape
  | t :: ts, us, _, _, hshape, hnames => by
    cases us with
    | nil => cases hshape
    | cons u us =>
      rw [mapTypePaths, mapTypePaths, List.cons_eq_cons] at hshape
      rw [typeIdentifiers, typeIdentifiers, List.append_assoc, List.append_assoc] at hnames
      obtain ⟨rfl, hmore⟩ := eq_of_mapPaths_eq t u hshape.1 hnames
      obtain ⟨rfl, hrest⟩ := eq_of_mapTypePaths_eq ts us hshape.2 hmore
      exact ⟨rfl, hrest⟩

end

end

/-- A type is its shape and its identifiers: no identifier is left out of the list of them. -/
theorem eq_of_withoutPaths_eq {t u : TypeExpr} (hshape : t.withoutPaths = u.withoutPaths)
    (hnames : t.identifiers = u.identifiers) : t = u := by
  have happended : t.identifiers ++ [] = u.identifiers ++ [] := congrArg (· ++ []) hnames
  exact (eq_of_mapPaths_eq t u hshape happended).1

section

variable {module : String} {isLocal : String → Bool}

@[simp]
theorem withoutPaths_qualifyLocal (module : String) (isLocal : String → Bool) (t : TypeExpr) :
    (t.qualifyLocal module isLocal).withoutPaths = t.withoutPaths :=
  mapPaths_qualifyLocal module isLocal rfl t

theorem snd_qualifyName (module : String) (isLocal : String → Bool) (n : String × String) :
    (qualifyName module isLocal n).2 = n.2 := by
  unfold qualifyName
  split <;> rfl

theorem qualifyName_of_not_bare {n : String × String} (h : n.1 ≠ "" ∨ isLocal n.2 = false) :
    qualifyName module isLocal n = n := by
  apply if_neg
  rw [Bool.and_eq_true, String.isEmpty_iff]
  rintro ⟨hbare, hlocal⟩
  rcases h with h | h
  · exact h hbare
  · exact Bool.false_ne_true (h ▸ hlocal)

theorem qualifyName_bare {name : String} (h : isLocal name = true) :
    qualifyName module isLocal ("", name) = (module, name) :=
  if_pos h

/-- A local name has a path once it is qualified, whether it had one before or gets it now. -/
theorem fst_qualifyName_ne (hmodule : module ≠ "") {n : String × String}
    (h : isLocal n.2 = true) : (qualifyName module isLocal n).1 ≠ "" := by
  obtain ⟨path, name⟩ := n
  by_cases hpath : path = ""
  · subst hpath
    rw [qualifyName_bare h]
    exact hmodule
  · rw [qualifyName_of_not_bare (.inl hpath)]
    exact hpath

/-- No bare name is left that is local, as long as the module has a path. -/
theorem isLocal_of_bare_mem_qualifyLocal (hmodule : module ≠ "") {t : TypeExpr} {name : String}
    (h : ("", name) ∈ (t.qualifyLocal module isLocal).identifiers) : isLocal name = false := by
  rw [identifiers_qualifyLocal] at h
  obtain ⟨n, -, hn⟩ := List.mem_map.mp h
  have hname : n.2 = name := by rw [← snd_qualifyName module isLocal n, hn]
  by_contra hlocal
  rw [Bool.not_eq_false, ← hname] at hlocal
  exact fst_qualifyName_ne hmodule hlocal (congrArg Prod.fst hn)

/-- Only names that are not local are open to being qualified again. -/
theorem isLocal_of_qualifyName_ne (hmodule : module ≠ "") {module' : String}
    {isLocal' : String → Bool} {n : String × String}
    (h : qualifyName module' isLocal' (qualifyName module isLocal n) ≠
      qualifyName module isLocal n) : isLocal n.2 = false := by
  by_contra hlocal
  apply h
  apply qualifyName_of_not_bare
  exact .inl (fst_qualifyName_ne hmodule (Bool.not_eq_false _ ▸ hlocal))

theorem qualifyName_qualifyName (hmodule : module ≠ "") (n : String × String) :
    qualifyName module isLocal (qualifyName module isLocal n) = qualifyName module isLocal n := by
  by_contra h
  apply h
  apply qualifyName_of_not_bare
  right
  rw [snd_qualifyName]
  exact isLocal_of_qualifyName_ne hmodule h

theorem qualifyLocal_qualifyLocal (hmodule : module ≠ "") (t : TypeExpr) :
    (t.qualifyLocal module isLocal).qualifyLocal module isLocal =
      t.qualifyLocal module isLocal := by
  -- No second induction over types: the shapes agree, and the identifiers one by one.
  apply eq_of_withoutPaths_eq
  · rw [withoutPaths_qualifyLocal]
  · rw [identifiers_qualifyLocal, identifiers_qualifyLocal, List.map_map]
    apply List.map_congr_left
    intro n _
    exact qualifyName_qualifyName hmodule n

/-- Qualifying settles the local names and nothing else: no bare one is left, every other identifier
is as it was, and so is the shape of the type. Done again it changes nothing, and no later
qualifying of any kind reaches a name that was local to the first one. -/
theorem qualifyLocal_settles_local_names (module : String) (isLocal : String → Bool) (t : TypeExpr)
    (hmodule : module ≠ "") :
    let q := t.qualifyLocal module isLocal
    (∀ name, isLocal name = true → ("", name) ∉ q.identifiers) ∧
    (∀ (i : Nat) path name, t.identifiers[i]? = some (path, name) →
      (path ≠ "" ∨ isLocal name = false → q.identifiers[i]? = some (path, name)) ∧
      (path = "" → isLocal name = true → q.identifiers[i]? = some (module, name))) ∧
    q.withoutPaths = t.withoutPaths ∧
    q.qualifyLocal module isLocal = q ∧
    ∀ module' isLocal',
      (q.qualifyLocal module' isLocal').withoutPaths = q.withoutPaths ∧
      ∀ (i : Nat) path name, q.identifiers[i]? = some (path, name) →
        (q.qualifyLocal module' isLocal').identifiers[i]? ≠ some (path, name) →
        isLocal name = false := by
  intro q
  refine ⟨?_, ?_, ?_, ?_, ?_⟩
  · intro name hlocal hbare
    rw [isLocal_of_bare_mem_qualifyLocal hmodule hbare] at hlocal
    exact Bool.false_ne_true hlocal
  · intro i path name hi
    have hq : q.identifiers[i]? = some (qualifyName module isLocal (path, name)) := by
      rw [identifiers_qualifyLocal, List.getElem?_map, hi]
      rfl
    refine ⟨?_, ?_⟩
    · intro hother
      rw [hq, qualifyName_of_not_bare hother]
    · rintro rfl hlocal
      rw [hq, qualifyName_bare hlocal]
  · exact withoutPaths_qualifyLocal module isLocal t
  · exact qualifyLocal_qualifyLocal hmodule t
  · intro module' isLocal'
    refine ⟨withoutPaths_qualifyLocal module' isLocal' q, ?_⟩
    intro i path name hi hchanged
    rw [identifiers_qualifyLocal, List.getElem?_map, hi, Option.map_some, Ne,
      Option.some_inj] at hchanged
    rw [identifiers_qualifyLocal, List.getElem?_map, Option.map_eq_some_iff] at hi
    obtain ⟨n, -, hn⟩ := hi
    rw [← hn] at hchanged
    have hname : n.2 = name := by rw [← snd_qualifyName module isLocal n, hn]
    rw [← hname]
    exact isLocal_of_qualifyName_ne hmodule hchanged

/-- A struct that embeds a local type and names it behind a pointer in a func, beside a type of that
name from elsewhere. Qualifying every name later reaches only the error. -/
theorem qualifyLocal_settles_parts :
    let isPart : String → Bool := fun name => name = "Part"
    let t : TypeExpr := .struct [⟨"", .ident "" "Part", some "json:\"-\""⟩,
      ⟨"OnSave", .func [.pointer (.ident "" "Part")] [.ident "" "error"], none⟩,
      ⟨"Spare", .ident "other" "Part", none⟩]
    let q := t.qualifyLocal "acme/models" isPart
    let later := q.qualifyLocal "builtin" fun _ => true
    "acme/models" ≠ "" ∧ isPart "Part" = true ∧ ("", "Part") ∉ q.identifiers ∧
      t.identifiers[3]? = some ("other", "Part") ∧ q.identifiers[3]? = some ("other", "Part") ∧
      t.identifiers[1]? = some ("", "Part") ∧ q.identifiers[1]? = some ("acme/models", "Part") ∧
      q.withoutPaths = t.withoutPaths ∧ q.qualifyLocal "acme/models" isPart = q ∧
      q.identifiers[2]? = some ("", "error") ∧ later.identifiers[2]? = some ("builtin", "error") ∧
      isPart "error" = false := by
  intro isPart t q later
  have hmodule : "acme/models" ≠ "" := by decide
  have hpart : isPart "Part" = true := by decide
  obtain ⟨hbare, hplaces, hshape, hagain, hlater⟩ :=
    qualifyLocal_settles_local_names "acme/models" isPart t hmodule
  have hchanged : later.identifiers[2]? ≠ some ("", "error") := by decide
  exact ⟨hmodule, hpart, hbare "Part" hpart, rfl, (hplaces 3 _ _ rfl).1 (.inl (by decide)), rfl,
    (hplaces 1 _ _ rfl).2 rfl hpart, hshape, hagain, rfl, rfl,
    (hlater "builtin" fun _ => true).2 2 _ _ rfl hchanged⟩

end

end TypeSchema.TypeExpr
