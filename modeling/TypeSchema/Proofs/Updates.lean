import TypeSchema.Proofs.Arrays
import TypeSchema.Proofs.Registration

namespace TypeSchema

namespace TypeExpr

/-- What an expression comes down to: what stands behind its pointers, or if that is an array, what
stands behind the pointers of its elements. -/
def subject (e : TypeExpr) : TypeExpr :=
  match e.stripPointers with
  | array element => element.stripPointers
  | f => f

theorem isPointer_subject (e : TypeExpr) : e.subject.isPointer = false := by
  unfold subject
  split
  · exact isPointer_stripPointers _
  · exact isPointer_stripPointers e

theorem exists_ident_of_elementName? {x : TypeExpr} {n : DeclName} (hx : x.isPointer = false)
    (h : x.elementName? = some n) :
    ∃ path, path ≠ "" ∧ shortModuleName path = n.module ∧ x = .ident path n.name := by
  cases x with
  | pointer target => cases hx
  | ident path name =>
    rw [elementName?] at h
    split at h
    · cases h
    · next hp =>
      cases h
      exact ⟨path, fun hempty => hp (String.isEmpty_iff.mpr hempty), rfl, rfl⟩
  | _ => cases h

theorem elementName?_stripPointers (e : TypeExpr) :
    e.stripPointers.elementName? = e.elementName? := by
  rw [← elementName?_pointers e.stripPointers e.pointerDepth, pointers_stripPointers]

end TypeExpr

namespace Registry

open TypeExpr

variable {r r' : Registry}

/-- `r.ReadsOverride e key`: describing `e` may come upon the override for `key`. -/
inductive ReadsOverride (r : Registry) (e : TypeExpr) : String → Prop
  | text {f : TypeExpr} {n : Nat} (h : e = f.pointers n) : ReadsOverride r e f.text
  | element {element : TypeExpr} (h : e.stripPointers = .array element)
    (hstruct : e.subject.isStruct = false)
    (hbare : ∀ path name, e.subject = .ident path name → path = "") :
    ReadsOverride r e e.subject.text
  | name {path name : String} (h : e.subject = .ident path name) (hm : shortModuleName path ≠ "")
    (hk : SchemaKind.narrow? name = none) (hl : r.lookup ⟨shortModuleName path, name⟩ = none) :
    ReadsOverride r e name

theorem ReadsOverride.pointer {target : TypeExpr} {key : String} (h : r.ReadsOverride target key) :
    r.ReadsOverride (.pointer target) key := by
  cases h with
  | text h => exact .text (n := _ + 1) (congrArg TypeExpr.pointer h)
  | element h hstruct hbare => exact .element (e := .pointer target) h hstruct hbare
  | name h hm hk hl => exact .name (e := .pointer target) h hm hk hl

theorem overriding_of_agree {e : TypeExpr} (h : r'.override? e.text = r.override? e.text) :
    r'.overriding e = r.overriding e := by
  rw [overriding, overriding, h]

theorem elementDescriptor_stripPointers (r : Registry) (e : TypeExpr) :
    r.elementDescriptor e.stripPointers = r.elementDescriptor e := by
  rw [← elementDescriptor_pointers r e.stripPointers e.pointerDepth, pointers_stripPointers]

theorem override?_addOverride (r : Registry) (key key' word : String) :
    (r.addOverride key word).override? key' = if key' = key then some word else r.override? key' :=
  OrderedMap.get?_put ..

theorem requests_of_overriding {e : TypeExpr} {d : Descriptor} (h : r.overriding e = some d)
    (he : e.isIdent = false) : r.requests e = [] := by
  cases e with
  | ident path name => cases he
  | _ => simp [requests, resolvedName?, h]

theorem classify_array_of_agree {element : TypeExpr}
    (htext : r'.overriding (.array element) = r.overriding (.array element))
    (hlookup : ∀ n, element.elementName? = some n → r'.lookup n = r.lookup n)
    (helement : r'.elementDescriptor element = r.elementDescriptor element) :
    r'.classify (.array element) = r.classify (.array element) ∧
      r'.requests (.array element) = r.requests (.array element) := by
  refine ⟨?_, ?_⟩
  · rw [classify_array, classify_array, htext, helement]
  · cases ho : r.overriding (.array element) with
    | some d => rw [requests_of_overriding ho rfl, requests_of_overriding (htext.trans ho) rfl]
    | none =>
      rw [requests_array ho, requests_array (htext.trans ho)]
      cases hn : element.elementName? with
      | none => rfl
      | some n => rw [Option.bind_some, Option.bind_some, definable?_of_agree (hlookup n hn)]

theorem classify_ident_of_agree {path name : String}
    (htext : r'.overriding (.ident path name) = r.overriding (.ident path name))
    (hlookup : ∀ n, (ident path name).elementName? = some n → r'.lookup n = r.lookup n)
    (hname : shortModuleName path ≠ "" → SchemaKind.narrow? name = none →
      r.lookup ⟨shortModuleName path, name⟩ = none → r'.override? name = r.override? name) :
    r'.classify (.ident path name) = r.classify (.ident path name) ∧
      r'.requests (.ident path name) = r.requests (.ident path name) := by
  by_cases hp : path.isEmpty = true
  · refine ⟨?_, ?_⟩
    · rw [classify_bare hp, classify_bare hp, htext]
    · rw [requests_of_isIdent rfl, requests_of_isIdent rfl, elementName?, if_pos hp]
      rfl
  · have hpath := Bool.eq_false_iff.mpr hp
    have hn : r'.lookup ⟨shortModuleName path, name⟩ = r.lookup ⟨shortModuleName path, name⟩ := by
      apply hlookup
      rw [elementName?, if_neg hp]
    refine ⟨?_, ?_⟩
    · rw [classify_qualified hpath, classify_qualified hpath, describe_of_agree hn hname]
    · rw [requests_qualified hpath, requests_qualified hpath, definable?_of_agree hn]

/-- Two registries that agree on what describing an expression may read describe it alike, and ask
for the same definition. -/
theorem classify_of_agree {e : TypeExpr}
    (hlookup : ∀ n, e.subject.elementName? = some n → r'.lookup n = r.lookup n)
    (hkeys : ∀ key, r.ReadsOverride e key → r'.override? key = r.override? key) :
    r'.classify e = r.classify e ∧ r'.requests e = r.requests e := by
  -- On the pointers: each may have an override for its own text, and without one hands on what its
  -- target is described by. Only behind the last of them is the registry looked up.
  induction e using stripPointers.induct with
  | case1 target ih =>
    have htext : r'.overriding (.pointer target) = r.overriding (.pointer target) :=
      overriding_of_agree (hkeys _ (.text (n := 0) rfl))
    rw [classify_pointer, classify_pointer, htext]
    cases ho : r.overriding (.pointer target) with
    | some d =>
      rw [requests_of_overriding ho rfl, requests_of_overriding (htext.trans ho) rfl]
      exact ⟨rfl, rfl⟩
    | none =>
      rw [requests_pointer ho, requests_pointer (htext.trans ho)]
      exact ih hlookup fun key h => hkeys key h.pointer
  | case2 e he =>
    have htext : r'.overriding e = r.overriding e :=
      overriding_of_agree (hkeys _ (.text (n := 0) rfl))
    cases e with
    | pointer target => exact absurd rfl (he target)
    | ident path name =>
      exact classify_ident_of_agree htext hlookup fun hm hk hl => hkeys name (.name rfl hm hk hl)
    | array element =>
      have hname : ∀ n, element.elementName? = some n → r'.lookup n = r.lookup n := by
        intro n hn
        apply hlookup
        exact (elementName?_stripPointers element).trans hn
      apply classify_array_of_agree htext hname
      rw [← elementDescriptor_stripPointers r', ← elementDescriptor_stripPointers r]
      apply elementDescriptor_of_agree (isPointer_stripPointers element) hlookup
      · intro hs hbare
        exact hkeys _ (.element rfl hs hbare)
      · intro path name hx hm hk hl
        exact hkeys name (.name hx hm hk hl)
    | _ =>
      -- All that is left is told by its own text alone.
      refine ⟨?_, rfl⟩
      simp only [classify_map, classify_struct, classify_interface, classify_func, classify_chan,
        htext]

end Registry

namespace Resolver

open TypeExpr

variable {σ : Type} [DefinitionSink σ]

theorem classify_of_agree {r : Resolver σ} {registry : Registry} {e : TypeExpr}
    (hlookup : ∀ n, e.subject.elementName? = some n → registry.lookup n = r.registry.lookup n)
    (hkeys : ∀ key, r.registry.ReadsOverride e key →
      registry.override? key = r.registry.override? key) :
    ({ r with registry } : Resolver σ).classify e =
      ((r.classify e).1, { (r.classify e).2 with registry }) := by
  obtain ⟨hclassify, hrequests⟩ := Registry.classify_of_agree hlookup hkeys
  rw [classify_eq, classify_eq, askAll_withRegistry, hclassify, hrequests]

/-- A change to a registry is seen by an expression only where describing it reads. A new
declaration changes neither its descriptor or error nor what is asked for, unless the expression
comes down to the qualified name of the declaration. Nor does a new override, unless describing the
expression may come upon it. -/
theorem classify_sees_what_it_reads (r : Resolver σ) (e : TypeExpr) :
    (∀ d : TypeDecl,
      (∀ path, path ≠ "" → shortModuleName path = d.module → e.subject ≠ .ident path d.name) →
      let registry := r.registry.register d
      ({ r with registry } : Resolver σ).classify e =
        ((r.classify e).1, { (r.classify e).2 with registry })) ∧
    ∀ key word, ¬r.registry.ReadsOverride e key →
      let registry := r.registry.addOverride key word
      ({ r with registry } : Resolver σ).classify e =
        ((r.classify e).1, { (r.classify e).2 with registry }) := by
  refine ⟨?_, ?_⟩
  · intro d hd registry
    apply classify_of_agree
    · intro n hn
      obtain ⟨path, hp, hm, hx⟩ := exists_ident_of_elementName? (isPointer_subject e) hn
      have hne : d.declName ≠ n := by
        rintro rfl
        exact hd path hp hm hx
      rw [Registry.lookup_register, if_neg hne]
    · intro key _
      rfl
  · intro key word hkey registry
    apply classify_of_agree
    · intro n _
      rfl
    · intro key' hread
      have hne : key' ≠ key := by
        rintro rfl
        exact hkey hread
      rw [Registry.override?_addOverride, if_neg hne]

/-- Prices of a shop behind pointers in a list. A price of another module says nothing about them,
nor does an override for a pointer to one; a declaration in the shop or an override by the bare name
does. -/
theorem classify_sees_what_it_reads_price :
    let prices : TypeExpr := .array (.pointer (.ident "acme/shop" "Price"))
    let plain := Registry.empty.register ⟨"acme/models", "Part", .struct []⟩
    let classifyIn (registry : Registry) := (ofSink registry Pending.empty).classify prices
    let other : TypeDecl := ⟨"acme/models", "Price", .ident "" "int"⟩
    (∀ path, path ≠ "" → shortModuleName path = other.module →
        prices.subject ≠ .ident path other.name) ∧
      classifyIn (plain.register other) =
        ((classifyIn plain).1, { (classifyIn plain).2 with registry := plain.register other }) ∧
      ¬plain.ReadsOverride prices "*shop.Price" ∧
      classifyIn (plain.addOverride "*shop.Price" "number") = ((classifyIn plain).1,
        { (classifyIn plain).2 with registry := plain.addOverride "*shop.Price" "number" }) ∧
      (classifyIn plain).1 = .ok (.uniform "string") ∧
      (classifyIn (plain.register ⟨"shop", "Price", .struct []⟩)).1 =
        .ok ⟨"array", "Price", "shop"⟩ ∧
      (classifyIn (plain.addOverride "Price" "number")).1 = .ok (.uniform "number") := by
  intro prices plain classifyIn other
  have hother : ∀ path, path ≠ "" → shortModuleName path = other.module →
      prices.subject ≠ .ident path other.name := by
    rintro path - hmodule hsubject
    obtain ⟨rfl, -⟩ := TypeExpr.ident.inj hsubject
    exact absurd hmodule (by decide)
  have hkey : ¬plain.ReadsOverride prices "*shop.Price" := by
    intro hread
    generalize heq : "*shop.Price" = key at hread
    cases hread with
    | @text f n h =>
      cases n with
      | zero =>
        obtain rfl : prices = f := h
        exact absurd heq (by decide)
      | succ n => exact absurd (congrArg TypeExpr.isPointer h) Bool.false_ne_true
    | element _ _ hbare => exact absurd (hbare "acme/shop" "Price" rfl) (by decide)
    | name h =>
      obtain ⟨-, rfl⟩ := TypeExpr.ident.inj h
      exact absurd heq (by decide)
  obtain ⟨hregister, hoverride⟩ := classify_sees_what_it_reads (ofSink plain Pending.empty) prices
  exact ⟨hother, hregister other hother, hkey, hoverride "*shop.Price" "number" hkey, rfl, rfl, rfl⟩

end Resolver

end TypeSchema
