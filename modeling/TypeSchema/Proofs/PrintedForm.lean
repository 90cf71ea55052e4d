import TypeSchema.Proofs.Printing
import TypeSchema.Proofs.Resolution
import TypeSchema.Proofs.WellFormedReading

namespace TypeSchema

open Text

namespace TypeExpr

/-- The word that a text begins with and the character that ends it, if one does. -/
def opening (cs : List Char) : Option (String × Char) :=
  (cs.dropWhile isWordChar).head?.map (String.ofList (cs.takeWhile isWordChar), ·)

theorem opening_append (word : String) (x : Char) (cs : List Char)
    (hw : word.toList.all isWordChar = true) (hx : isWordChar x = false) :
    opening (word.toList ++ x :: cs) = some (word, x) := by
  have hstop : ¬isWordChar x = true := by rw [hx]; decide
  rw [List.all_eq_true] at hw
  rw [opening, List.dropWhile_append_of_pos hw, List.takeWhile_append_of_pos hw,
    List.dropWhile_cons_of_neg hstop, List.takeWhile_cons_of_neg hstop, List.append_nil,
    String.ofList_toList]
  rfl

theorem opening_word {word : List Char} (hw : ∀ c ∈ word, isWordChar c = true) :
    opening word = none := by
  have hnil : word.dropWhile isWordChar = [] := List.dropWhile_eq_nil_iff.mpr hw
  rw [opening, hnil]
  rfl

/-- What each kind of type begins with. -/
def mark : TypeExpr → Option (String × Char)
  | ident _ _ => none
  | pointer _ => some ("", '*')
  | array _ => some ("", '[')
  | map _ _ => some ("map", '[')
  | struct _ => some ("struct", '{')
  | interface => some ("interface", '{')
  | func _ _ => some ("func", '(')
  | chan _ => some ("chan", ' ')

theorem isWordChar_of_mem_identChars {path name : String} (hn : isIdentifier name.toList = true)
    (hp : path.isEmpty = false → isWordPath path = true) {c : Char}
    (hc : c ∈ identChars path name) : isWordChar c = true := by
  have hname := isTypeWord_of_isIdentifier hn
  rw [isTypeWord, Bool.and_eq_true, List.all_eq_true] at hname
  unfold identChars at hc
  split at hc
  · exact hname.2 c hc
  · next hpath =>
    have hword := hp (Bool.eq_false_iff.mpr hpath)
    rw [isWordPath, List.all_eq_true] at hword
    rcases List.mem_append.mp hc with hc | hc
    · exact hword c (mem_of_mem_shortModuleName hc)
    · rcases List.mem_cons.mp hc with rfl | hc
      · decide
      · exact hname.2 c hc

/-- A text begins as its kind of type does. -/
theorem opening_chars {e : TypeExpr} (he : e.wellFormed isWordPath false = true) :
    opening e.chars = e.mark := by
  cases e with
  | ident path name =>
    obtain ⟨hn, hp, -⟩ := wellFormed_ident he
    exact opening_word fun c => isWordChar_of_mem_identChars hn hp
  | pointer target => exact opening_append "" '*' target.chars (by decide) (by decide)
  | array element => exact opening_append "" '[' (']' :: element.chars) (by decide) (by decide)
  | map key value => rw [chars_map, opening_append "map" '[' _ (by decide) (by decide), mark]
  | struct fields => rw [chars_struct, opening_append "struct" '{' _ (by decide) (by decide), mark]
  | interface => exact opening_append "interface" '{' ['}'] (by decide) (by decide)
  | func params results =>
    rw [chars_func, opening_append "func" '(' _ (by decide) (by decide), mark]
  | chan message => exact opening_append "chan" ' ' message.chars (by decide) (by decide)

/-- The last dot of a printed identifier stands before its name. -/
theorem splitLast_identChars {name : String} (hn : isIdentifier name.toList = true)
    (path : String) :
    splitLast '.' (identChars path name) =
      if path.isEmpty then none else some ((shortModuleName path).toList, name.toList) := by
  have hdot : '.' ∉ name.toList := not_mem_of_isIdentifier hn (by decide)
  unfold identChars
  split
  · exact splitLast_of_not_mem hdot
  · exact splitLast_append hdot _

theorem eq_of_identChars_eq {path path' name name' : String}
    (hn : isIdentifier name.toList = true) (hn' : isIdentifier name'.toList = true)
    (h : identChars path name = identChars path' name') :
    path.isEmpty = path'.isEmpty ∧ shortModuleName path = shortModuleName path' ∧
      name = name' := by
  have hsplit := congrArg (splitLast '.') h
  rw [splitLast_identChars hn, splitLast_identChars hn'] at hsplit
  by_cases hp : path.isEmpty = true <;> by_cases hp' : path'.isEmpty = true
  · rw [identChars, identChars, if_pos hp, if_pos hp', String.toList_inj] at h
    rw [String.isEmpty_iff.mp hp, String.isEmpty_iff.mp hp']
    exact ⟨rfl, rfl, h⟩
  · rw [if_pos hp, if_neg hp'] at hsplit
    cases hsplit
  · rw [if_neg hp, if_pos hp'] at hsplit
    cases hsplit
  · rw [if_neg hp, if_neg hp'] at hsplit
    obtain ⟨hpath, hname⟩ := Prod.mk.inj (Option.some.inj hsplit)
    rw [Bool.eq_false_iff.mpr hp, Bool.eq_false_iff.mpr hp']
    exact ⟨rfl, String.toList_inj.mp hpath, String.toList_inj.mp hname⟩

/-- Two trees with the same pointers and arrays on the outside, which lead to the same name, or to
two types of one kind with the same text. -/
inductive Alike : TypeExpr → TypeExpr → Prop
  | ident {path path' : String} (name : String) : path.isEmpty = path'.isEmpty →
      shortModuleName path = shortModuleName path' → Alike (.ident path name) (.ident path' name)
  | pointer {t t' : TypeExpr} : Alike t t' → Alike (.pointer t) (.pointer t')
  | array {t t' : TypeExpr} : Alike t t' → Alike (.array t) (.array t')
  | map {k k' v v' : TypeExpr} : (map k v).text = (map k' v').text →
      Alike (.map k v) (.map k' v')
  | struct {fs fs' : List (Field TypeExpr)} : (struct fs).text = (struct fs').text →
      Alike (.struct fs) (.struct fs')
  | interface : Alike .interface .interface
  | func {ps ps' rs rs' : List TypeExpr} : (func ps rs).text = (func ps' rs').text →
      Alike (.func ps rs) (.func ps' rs')
  | chan {t t' : TypeExpr} : (chan t).text = (chan t').text → Alike (.chan t) (.chan t')

/-- Equal texts are texts of alike trees: each begins as its kind of type does, and behind a star or
brackets stands the text of what is pointed at or held. -/
theorem alike_of_chars_eq {e e' : TypeExpr} (he : e.wellFormed isWordPath false = true)
    (he' : e'.wellFormed isWordPath false = true) (h : e.chars = e'.chars) : Alike e e' := by
  -- The first word and its end tell the kind, so only trees of one kind are left to compare.
  have hmark : e.mark = e'.mark := by rw [← opening_chars he, h, opening_chars he']
  have htext : e.text = e'.text := congrArg String.ofList h
  cases e with
  | ident path name =>
    cases e' with
    | ident path' name' =>
      obtain ⟨hpath, hshort, rfl⟩ :=
        eq_of_identChars_eq (wellFormed_ident he).1 (wellFormed_ident he').1 h
      exact .ident name hpath hshort
    | _ => simp [mark] at hmark
  | pointer t =>
    cases e' with
    | pointer t' => exact .pointer (alike_of_chars_eq he he' (List.cons.inj h).2)
    | _ => simp [mark] at hmark
  | array t =>
    cases e' with
    | array t' => exact .array (alike_of_chars_eq he he' (List.cons.inj (List.cons.inj h).2).2)
    | _ => simp [mark] at hmark
  | map k v =>
    cases e' with
    | map k' v' => exact .map htext
    | _ => simp [mark] at hmark
  | struct fs =>
    cases e' with
    | struct fs' => exact .struct htext
    | _ => simp [mark] at hmark
  | interface =>
    cases e' with
    | interface => exact .interface
    | _ => simp [mark] at hmark
  | func ps rs =>
    cases e' with
    | func ps' rs' => exact .func htext
    | _ => simp [mark] at hmark
  | chan t =>
    cases e' with
    | chan t' => exact .chan htext
    | _ => simp [mark] at hmark

theorem alike_of_text_eq {e e' : TypeExpr} (he : e.wellFormed isWordPath false = true)
    (he' : e'.wellFormed isWordPath false = true) (h : e.text = e'.text) : Alike e e' := by
  refine alike_of_chars_eq he he' ?_
  rw [← toList_text, h, toList_text]

namespace Alike

variable {e e' : TypeExpr}

theorem text_eq (h : Alike e e') : e.text = e'.text := by
  have hchars : e.chars = e'.chars := by
    induction h with
    | @ident path path' name hpath hshort =>
      show identChars path name = identChars path' name
      rw [identChars, identChars, hpath, hshort]
    | pointer _ ih => exact congrArg ('*' :: ·) ih
    | array _ ih => exact congrArg ('[' :: ']' :: ·) ih
    | interface => rfl
    | map h | struct h | func h | chan h => rw [← toList_text, h, toList_text]
  rw [text, text, hchars]

theorem elementName?_eq (h : Alike e e') : e.elementName? = e'.elementName? := by
  induction h with
  | ident name hpath hshort => rw [elementName?, elementName?, hpath, hshort]
  | pointer _ ih => exact ih
  | _ => rfl

end Alike

end TypeExpr

namespace Registry

variable {r : Registry} {e e' : TypeExpr}

theorem overriding_congr (h : e.text = e'.text) : r.overriding e = r.overriding e' := by
  rw [overriding, overriding, h]

theorem elementDescriptor_congr (h : e.Alike e') :
    r.elementDescriptor e = r.elementDescriptor e' := by
  induction h with
  | @ident path path' name hpath hshort =>
    by_cases hp : path.isEmpty = true
    · rw [elementDescriptor_bare hp, elementDescriptor_bare (hpath ▸ hp)]
    · have hp := Bool.eq_false_iff.mpr hp
      rw [elementDescriptor_qualified hp, elementDescriptor_qualified (hpath ▸ hp), hshort]
  | pointer _ ih => exact ih
  | struct _ => rfl
  | interface => rfl
  | array h =>
    simp only [elementDescriptor, Resolver.classifyElement, Resolver.ofSink]
    rw [(TypeExpr.Alike.array h).text_eq]
  | map h | func h | chan h =>
    simp only [elementDescriptor, Resolver.classifyElement, Resolver.ofSink]
    rw [h]

theorem resolvedName?_congr (h : e.Alike e') : r.resolvedName? e = r.resolvedName? e' := by
  induction h with
  | ident name hpath hshort => rw [resolvedName?, resolvedName?, hpath, hshort]
  | pointer h ih =>
    rw [resolvedName?, resolvedName?, ih, overriding_congr (TypeExpr.Alike.pointer h).text_eq]
  | array h =>
    rw [resolvedName?, resolvedName?, h.elementName?_eq,
      overriding_congr (TypeExpr.Alike.array h).text_eq]
  | _ => rfl

theorem requests_congr (h : e.Alike e') : r.requests e = r.requests e' := by
  rw [requests, requests, resolvedName?_congr h]

theorem classify_congr (h : e.Alike e') : r.classify e = r.classify e' := by
  induction h with
  | @ident path path' name hpath hshort =>
    by_cases hp : path.isEmpty = true
    · rw [classify_bare hp, classify_bare (hpath ▸ hp),
        overriding_congr (TypeExpr.Alike.ident name hpath hshort).text_eq]
    · have hp := Bool.eq_false_iff.mpr hp
      rw [classify_qualified hp, classify_qualified (hpath ▸ hp), hshort]
  | pointer h ih =>
    rw [classify_pointer, classify_pointer, ih,
      overriding_congr (TypeExpr.Alike.pointer h).text_eq]
  | array h =>
    rw [classify_array, classify_array, elementDescriptor_congr h,
      overriding_congr (TypeExpr.Alike.array h).text_eq]
  | map h => rw [classify_map, classify_map, overriding_congr h]
  | struct h => rw [classify_struct, classify_struct, overriding_congr h]
  | interface => rfl
  | func h => rw [classify_func, classify_func, overriding_congr h, h]
  | chan h => rw [classify_chan, classify_chan, overriding_congr h, h]

end Registry

namespace Resolver

open TypeExpr

/-- Classification is a function of the printed text: two types that were read and are printed alike
have the same descriptor or the same error, ask for the same definition and leave the same requests
behind. -/
theorem classify_eq_of_text_eq {src src' : String} {e e' : TypeExpr} (he : parse src = .ok e)
    (he' : parse src' = .ok e') (htext : e.text = e'.text) {σ : Type} [DefinitionSink σ]
    (r : Resolver σ) :
    r.classify e = r.classify e' ∧ r.registry.requests e = r.registry.requests e' := by
  have halike := alike_of_text_eq (wellFormed_of_parse he) (wellFormed_of_parse he') htext
  have hclassify := Registry.classify_congr (r := r.registry) halike
  have hrequests := Registry.requests_congr (r := r.registry) halike
  refine ⟨?_, hrequests⟩
  rw [classify_eq, classify_eq, hclassify, hrequests]

/-- A part by the full path of its module, and by its short name in an array with a length. -/
theorem classify_eq_parts :
    let part : TypeDecl := ⟨"github.com/acme/models", "Part", .struct []⟩
    let r : Resolver Unit := .ofSink (Registry.empty.register part) ()
    let e : TypeExpr := .pointer (.array (.ident "github.com/acme/models" "Part"))
    let e' : TypeExpr := .pointer (.array (.ident "models" "Part"))
    parse "*[]github.com/acme/models.Part" = .ok e ∧ parse "* [3] models.Part" = .ok e' ∧
      e.text = e'.text ∧ (r.classify e').1 = .ok ⟨"array", "Part", "models"⟩ ∧
      r.registry.requests e' = [part] ∧
      r.classify e = r.classify e' ∧ r.registry.requests e = r.registry.requests e' := by
  intro part r e e'
  have he : parse "*[]github.com/acme/models.Part" = .ok e := by decide +kernel
  have he' : parse "* [3] models.Part" = .ok e' := by decide +kernel
  exact ⟨he, he', by decide, by decide, by decide, classify_eq_of_text_eq he he' (by decide) r⟩

end Resolver

end TypeSchema
