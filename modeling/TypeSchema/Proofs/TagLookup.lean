import TypeSchema.Proofs.CharacterClasses
import TypeSchema.TypeExpr.Tag

namespace TypeSchema.Tag

open Text

def isKey (s : String) : Bool :=
  !s.isEmpty && s.toList.all fun c => c ≠ ' ' && c ≠ ':' && c ≠ '"'

def isValue (s : String) : Bool := s.toList.all (· ≠ '"')

def pairChars (p : String × String) : List Char :=
  p.1.toList ++ ':' :: '"' :: (p.2.toList ++ ['"'])

/-- Pairs, each behind a space. -/
def spacedChars (pairs : List (String × String)) : List Char :=
  pairs.flatMap fun p => ' ' :: pairChars p

/-- The tag `k1:"v1" k2:"v2"` and so on. -/
def ofPairs : List (String × String) → String
  | [] => ""
  | p :: pairs => String.ofList (pairChars p ++ spacedChars pairs)

/-- The value of the pair ends like the key with its colon, where a key may stand: behind a space,
or as a whole behind a longer key that ends alike. -/
def Misleads (key : String) (p : String × String) : Prop :=
  ' ' :: (key.toList ++ [':']) <:+ p.2.toList ∨
    key.toList ++ [':'] = p.2.toList ∧ key.toList <:+ p.1.toList

instance (key : String) (p : String × String) : Decidable (Misleads key p) :=
  inferInstanceAs (Decidable (_ ∨ _))

theorem isKey_iff {s : String} : isKey s = true ↔
    s.toList ≠ [] ∧ ' ' ∉ s.toList ∧ ':' ∉ s.toList ∧ '"' ∉ s.toList := by
  have hall : (s.toList.all fun c => c ≠ ' ' && c ≠ ':' && c ≠ '"') = true ↔
      ' ' ∉ s.toList ∧ ':' ∉ s.toList ∧ '"' ∉ s.toList := by
    rw [List.all_eq_true]
    constructor
    · intro h
      exact ⟨fun hc => by simpa using h _ hc, fun hc => by simpa using h _ hc,
        fun hc => by simpa using h _ hc⟩
    · rintro ⟨hspace, hcolon, hquote⟩ c hc
      have hne : ∀ {x : Char}, x ∉ s.toList → c ≠ x := fun hx heq => hx (heq ▸ hc)
      simp [hne hspace, hne hcolon, hne hquote]
  rw [isKey, Bool.and_eq_true, hall]
  simp

theorem isValue_iff {s : String} : isValue s = true ↔ '"' ∉ s.toList := by
  rw [isValue, List.all_eq_true]
  constructor
  · intro h hc
    simpa using h _ hc
  · intro h c hc
    rw [decide_eq_true_eq]
    rintro rfl
    exact h hc

/-- Two texts that end at their first `x` are the same if one begins the other. -/
theorem append_prefix_iff {x : Char} {a cs rest : List Char} (ha : x ∉ a) (hcs : x ∉ cs) :
    a ++ [x] <+: cs ++ x :: rest ↔ a = cs := by
  have htake : ∀ as bs : List Char, x ∉ as → (as ++ x :: bs).takeWhile (· ≠ x) = as := by
    intro as bs has
    refine takeWhile_append_of_stops (fun c hc => ?_) (stops_cons (by simp))
    rw [decide_eq_true_eq]
    rintro rfl
    exact has hc
  constructor
  · rintro ⟨more, h⟩
    have h' : a ++ x :: more = cs ++ x :: rest := by rw [← h]; simp
    rw [← htake a more ha, h', htake cs rest hcs]
  · rintro rfl
    exact ⟨rest, by simp⟩

section

variable {name tail : List Char} {atKey : Bool}

theorem search_step {opening cs : List Char} {c : Char} (h : ¬opening <+: c :: cs) :
    search opening atKey (c :: cs) = search opening (c = ' ') cs := by
  rw [search, if_neg]
  rwa [List.isPrefixOf_iff_prefix]

theorem search_match : search (name ++ ['"']) atKey (name ++ '"' :: tail) =
    if atKey then quotedValue tail else search (name ++ ['"']) true tail := by
  obtain ⟨c, cs, hcs⟩ : ∃ c cs, name ++ '"' :: tail = c :: cs :=
    List.exists_cons_of_ne_nil (by simp)
  have hprefix : (name ++ ['"']).isPrefixOf (c :: cs) = true := by
    rw [List.isPrefixOf_iff_prefix, ← hcs]
    exact ⟨tail, by simp⟩
  have hdrop : (c :: cs).drop (name ++ ['"']).length = tail := by
    rw [← hcs]
    simp
  have hdrop' : cs.drop ((name ++ ['"']).length - 1) = tail := by
    rw [← hdrop]
    simp
  rw [hcs, search, if_pos hprefix, hdrop, hdrop']

/-- Whether a key may stand behind `cs`. -/
def keyBehind (atKey : Bool) (cs : List Char) : Bool :=
  match cs.getLast? with
  | none => atKey
  | some c => c = ' '

/-- Up to the next quote, only the end of the text can match. -/
theorem search_of_suffix {cs : List Char} (hname : '"' ∉ name) (hcs : '"' ∉ cs) :
    search (name ++ ['"']) atKey (cs ++ name ++ '"' :: tail) =
      if keyBehind atKey cs then quotedValue tail else search (name ++ ['"']) true tail := by
  induction cs generalizing atKey with
  | nil => exact search_match
  | cons c cs ih =>
    rw [List.mem_cons, not_or] at hcs
    have hmiss : ¬name ++ ['"'] <+: c :: (cs ++ name ++ '"' :: tail) := by
      have hquote : '"' ∉ c :: (cs ++ name) := by simp [hcs, hname]
      intro h
      have hlength := congrArg List.length ((append_prefix_iff hname hquote).mp h)
      simp at hlength
      omega
    have hbehind : keyBehind atKey (c :: cs) = keyBehind (c = ' ') cs := by
      cases cs <;> rfl
    rw [List.cons_append, List.cons_append, search_step hmiss, ih hcs.2, hbehind]

theorem search_of_not_suffix {cs : List Char} (hname : '"' ∉ name) (hcs : '"' ∉ cs)
    (h : ¬name <:+ cs) :
    search (name ++ ['"']) atKey (cs ++ '"' :: tail) = search (name ++ ['"']) false tail := by
  induction cs generalizing atKey with
  | nil =>
    have hmiss : ¬name ++ ['"'] <+: '"' :: tail := by
      intro hprefix
      have hempty := (append_prefix_iff hname hcs).mp hprefix
      exact h (hempty ▸ List.suffix_rfl)
    exact search_step hmiss
  | cons c cs ih =>
    have hmiss : ¬name ++ ['"'] <+: c :: (cs ++ '"' :: tail) := by
      intro hprefix
      have hwhole := (append_prefix_iff hname hcs).mp hprefix
      exact h (hwhole ▸ List.suffix_rfl)
    rw [List.mem_cons, not_or] at hcs
    have hless : ¬name <:+ cs := fun hs => h (hs.trans (List.suffix_cons c cs))
    rw [List.cons_append, search_step hmiss, ih hcs.2 hless]

end

theorem quotedValue_append {v : List Char} (hv : '"' ∉ v) (tail : List Char) :
    quotedValue (v ++ '"' :: tail) = some v := by
  have hin : ∀ c ∈ v, decide (c ≠ '"') = true := by
    intro c hc
    rw [decide_eq_true_eq]
    rintro rfl
    exact hv hc
  rw [quotedValue, if_pos (by simp), takeWhile_append_of_stops hin (stops_cons (by decide))]

theorem opening_eq (key : String) : opening key = key.toList ++ [':'] ++ ['"'] := by
  rw [opening, List.append_assoc]
  rfl

section

variable {key : String} {p : String × String} {pairs : List (String × String)} {tail : List Char}
  {atKey : Bool}

theorem not_mem_name (hkey : isKey key = true) : '"' ∉ key.toList ++ [':'] := by
  simp [(isKey_iff.mp hkey).2.2.2]

theorem search_spacedChars_cons (hkey : isKey key = true) :
    search (opening key) atKey (spacedChars (p :: pairs)) =
      search (opening key) true (pairChars p ++ spacedChars pairs) := by
  obtain ⟨hne, hspace, -, -⟩ := isKey_iff.mp hkey
  obtain ⟨c, cs, hcs⟩ := List.exists_cons_of_ne_nil hne
  have hmiss : ¬opening key <+: ' ' :: (pairChars p ++ spacedChars pairs) := by
    rw [opening, hcs, List.cons_append, List.cons_prefix_cons]
    rintro ⟨rfl, -⟩
    exact hspace (hcs ▸ List.mem_cons_self)
  exact search_step hmiss

theorem search_spacedChars (hkey : isKey key = true) :
    search (opening key) atKey (spacedChars pairs) =
      search (opening key) true (spacedChars pairs) := by
  cases pairs with
  | nil => rw [spacedChars, List.flatMap_nil, search, search]
  | cons p pairs => rw [search_spacedChars_cons hkey, search_spacedChars_cons hkey]

theorem search_pair_of_eq (hvalue : isValue p.2 = true) (hp : p.1 = key) :
    search (opening key) true (pairChars p ++ tail) = some p.2.toList := by
  have htext : pairChars p ++ tail = key.toList ++ [':'] ++ '"' :: (p.2.toList ++ '"' :: tail) := by
    simp [pairChars, hp]
  rw [opening_eq, htext, search_match, if_pos rfl, quotedValue_append (isValue_iff.mp hvalue)]

/-- A longer key that ends like the one looked up is passed over, and a key may stand behind it. -/
theorem search_pair_of_ne (hkey : isKey key = true) (hkey' : isKey p.1 = true)
    (hp : p.1 ≠ key) : search (opening key) true (pairChars p ++ tail) =
      search (opening key) (decide (key.toList <:+ p.1.toList)) (p.2.toList ++ '"' :: tail) := by
  obtain ⟨-, hspace, -, hquote⟩ := isKey_iff.mp hkey'
  by_cases h : key.toList <:+ p.1.toList
  · obtain ⟨u, hu⟩ := h
    have htext : pairChars p ++ tail =
        u ++ (key.toList ++ [':']) ++ '"' :: (p.2.toList ++ '"' :: tail) := by
      simp [pairChars, ← hu]
    have hbehind : keyBehind true u = false := by
      cases hlast : u.getLast? with
      | none =>
        rw [List.getLast?_eq_none_iff.mp hlast, List.nil_append] at hu
        exact absurd (String.toList_injective hu.symm) hp
      | some c =>
        have hc : c ∈ p.1.toList := hu ▸ List.mem_append_left _ (List.mem_of_getLast? hlast)
        have hne : c ≠ ' ' := fun heq => hspace (heq ▸ hc)
        simp [keyBehind, hlast, hne]
    have hu' : '"' ∉ u := fun hc => hquote (hu ▸ List.mem_append_left _ hc)
    have hsuffix : key.toList <:+ p.1.toList := ⟨u, hu⟩
    rw [opening_eq, htext, search_of_suffix (not_mem_name hkey) hu', hbehind,
      decide_eq_true hsuffix]
    rfl
  · have htext : pairChars p ++ tail =
        p.1.toList ++ [':'] ++ '"' :: (p.2.toList ++ '"' :: tail) := by
      simp [pairChars]
    have hmiss : ¬key.toList ++ [':'] <:+ p.1.toList ++ [':'] := by
      rintro ⟨u, hu⟩
      rw [← List.append_assoc] at hu
      exact h ⟨u, List.append_cancel_right hu⟩
    rw [opening_eq, htext, search_of_not_suffix (not_mem_name hkey) (not_mem_name hkey') hmiss,
      decide_eq_false h]

theorem search_pair_of_misleads (hkey : isKey key = true) (hkey' : isKey p.1 = true)
    (hvalue : isValue p.2 = true) (hp : p.1 ≠ key) (h : Misleads key p) :
    search (opening key) true (pairChars p ++ tail) = quotedValue tail := by
  rw [search_pair_of_ne hkey hkey' hp]
  have hname := not_mem_name hkey
  rcases h with ⟨u, hu⟩ | ⟨hwhole, hsuffix⟩
  · have htext :
        p.2.toList ++ '"' :: tail = u ++ [' '] ++ (key.toList ++ [':']) ++ '"' :: tail := by
      simp [← hu]
    have hu' : '"' ∉ u ++ [' '] := by
      have hquote := isValue_iff.mp hvalue
      rw [← hu] at hquote
      intro hc
      apply hquote
      rw [List.append_cons]
      exact List.mem_append_left _ hc
    have hbehind : ∀ b, keyBehind b (u ++ [' ']) = true := by
      intro b
      simp [keyBehind]
    rw [opening_eq, htext, search_of_suffix hname hu', hbehind, if_pos rfl]
  · rw [opening_eq, ← hwhole, decide_eq_true hsuffix, search_match, if_pos rfl]

/-- A pair that does not mislead is passed over as a whole. -/
theorem search_pair_of_not_misleads (hkey : isKey key = true) (hkey' : isKey p.1 = true)
    (hvalue : isValue p.2 = true) (hp : p.1 ≠ key) (h : ¬Misleads key p) :
    search (opening key) true (pairChars p ++ spacedChars pairs) =
      search (opening key) true (spacedChars pairs) := by
  rw [search_pair_of_ne hkey hkey' hp]
  have hname := not_mem_name hkey
  have hquote := isValue_iff.mp hvalue
  by_cases hsuffix : key.toList ++ [':'] <:+ p.2.toList
  · obtain ⟨u, hu⟩ := hsuffix
    have hu' : '"' ∉ u := fun hc => hquote (hu ▸ List.mem_append_left _ hc)
    have hbehind : keyBehind (decide (key.toList <:+ p.1.toList)) u = false := by
      rw [Bool.eq_false_iff]
      intro hb
      apply h
      cases hlast : u.getLast? with
      | none =>
        rw [List.getLast?_eq_none_iff.mp hlast] at hu hb
        exact .inr ⟨hu, by simpa [keyBehind] using hb⟩
      | some c =>
        obtain ⟨w, rfl⟩ := List.getLast?_eq_some_iff.mp hlast
        have hc : c = ' ' := by simpa [keyBehind] using hb
        exact .inl ⟨w, by rw [← hu, hc]; simp⟩
    rw [opening_eq, ← hu, search_of_suffix hname hu', hbehind]
    rfl
  · rw [opening_eq, search_of_not_suffix hname hquote hsuffix, ← opening_eq,
      search_spacedChars hkey]

theorem value?_ofPairs_eq (hkey : isKey key = true) : value? (ofPairs pairs) key =
    (search (opening key) true (spacedChars pairs)).map String.ofList := by
  cases pairs with
  | nil => rfl
  | cons p pairs => rw [value?, ofPairs, String.toList_ofList, search_spacedChars_cons hkey]

/-- Where no earlier pair misleads, the first pair with the key is found. -/
theorem search_eq_find? (hkey : isKey key = true)
    (hpairs : ∀ p ∈ pairs, isKey p.1 = true ∧ isValue p.2 = true)
    (h : ∀ p ∈ pairs.takeWhile (·.1 ≠ key), ¬Misleads key p) :
    search (opening key) true (spacedChars pairs) =
      (pairs.find? (·.1 = key)).map fun p => p.2.toList := by
  induction pairs with
  | nil => rw [spacedChars, List.flatMap_nil, search]; rfl
  | cons p pairs ih =>
    rw [List.forall_mem_cons] at hpairs
    obtain ⟨⟨hkey', hvalue⟩, hpairs⟩ := hpairs
    rw [search_spacedChars_cons hkey]
    by_cases hp : p.1 = key
    · rw [search_pair_of_eq hvalue hp, List.find?_cons_of_pos (by simpa using hp)]
      rfl
    · rw [List.takeWhile_cons_of_pos (by simpa using hp), List.forall_mem_cons] at h
      rw [search_pair_of_not_misleads hkey hkey' hvalue hp h.1,
        List.find?_cons_of_neg (by simpa using hp), ih hpairs h.2]

theorem search_append {before after : List (String × String)} (hkey : isKey key = true)
    (hpairs : ∀ q ∈ before, isKey q.1 = true ∧ isValue q.2 = true)
    (h : ∀ q ∈ before, q.1 ≠ key ∧ ¬Misleads key q) :
    search (opening key) true (spacedChars (before ++ after)) =
      search (opening key) true (spacedChars after) := by
  induction before with
  | nil => rfl
  | cons q before ih =>
    rw [List.forall_mem_cons] at hpairs h
    rw [List.cons_append, search_spacedChars_cons hkey, search_pair_of_not_misleads hkey
      hpairs.1.1 hpairs.1.2 h.1.1 h.1.2, ih hpairs.2 h.2]

theorem quotedValue_spacedChars (hpairs : ∀ q ∈ pairs, isKey q.1 = true) :
    (quotedValue (spacedChars pairs)).map String.ofList =
      pairs.head?.map fun q => " " ++ q.1 ++ ":" := by
  cases pairs with
  | nil => rfl
  | cons q pairs =>
    have htext : spacedChars (q :: pairs) =
        (' ' :: (q.1.toList ++ [':'])) ++ '"' :: (q.2.toList ++ '"' :: spacedChars pairs) := by
      simp [spacedChars, pairChars]
    have hquote : '"' ∉ ' ' :: (q.1.toList ++ [':']) := by
      simp [(isKey_iff.mp (hpairs q List.mem_cons_self)).2.2.2]
    have hread : String.ofList (' ' :: (q.1.toList ++ [':'])) = " " ++ q.1 ++ ":" := by
      rw [← String.toList_inj]
      simp
    rw [htext, quotedValue_append hquote, Option.map_some, hread]
    rfl

end

/-- The value of a key is that of the first pair with this key, unless an earlier pair misleads. The
first one that misleads has the key of the next pair, with its space and colon, taken for the
value. -/
theorem tagValue?_ofPairs {τ : Type} (f : Field τ) (pairs : List (String × String)) (key : String)
    (htag : f.tag = some (ofPairs pairs)) (hkey : isKey key = true)
    (hpairs : ∀ p ∈ pairs, isKey p.1 = true ∧ isValue p.2 = true) :
    ((∀ p ∈ pairs.takeWhile (·.1 ≠ key), ¬Misleads key p) →
      f.tagValue? key = (pairs.find? (·.1 = key)).map Prod.snd) ∧
    ∀ before p after, pairs = before ++ p :: after →
      (∀ q ∈ before, q.1 ≠ key ∧ ¬Misleads key q) → p.1 ≠ key → Misleads key p →
      f.tagValue? key = after.head?.map fun q => " " ++ q.1 ++ ":" := by
  have hvalue : f.tagValue? key =
      (search (opening key) true (spacedChars pairs)).map String.ofList := by
    rw [Field.tagValue?, htag]
    exact value?_ofPairs_eq hkey
  rw [hvalue]
  refine ⟨fun h => ?_, ?_⟩
  · rw [search_eq_find? hkey hpairs h, Option.map_map]
    congr 1
    funext p
    exact String.ofList_toList
  · rintro before p after rfl hbefore hp hmisleads
    have hp' := hpairs p (List.mem_append_right _ List.mem_cons_self)
    rw [search_append hkey (fun q hq => hpairs q (List.mem_append_left _ hq)) hbefore,
      search_spacedChars_cons hkey, search_pair_of_misleads hkey hp'.1 hp'.2 hp hmisleads]
    exact quotedValue_spacedChars fun q hq =>
      (hpairs q (List.mem_append_right _ (List.mem_cons_of_mem p hq))).1

/-- The value `id:json:` misleads no one, for its last part is not behind a space. The value `json:`
misleads behind a key that ends in `json`. -/
theorem tagValue?_ofPairs_json :
    let read := [("xml", "id:json:"), ("json", "name,omitempty"), ("json", "other")]
    let misread := [("db", "id"), ("bson-json", "json:"), ("json", "name")]
    let f : Field TypeExpr := ⟨"Name", .ident "" "string", some (ofPairs read)⟩
    let g : Field TypeExpr := ⟨"Name", .ident "" "string", some (ofPairs misread)⟩
    (isKey "json" = true ∧ ∀ p ∈ read ++ misread, isKey p.1 = true ∧ isValue p.2 = true) ∧
      (∀ p ∈ read.takeWhile (·.1 ≠ "json"), ¬Misleads "json" p) ∧
      f.tagValue? "json" = some "name,omitempty" ∧
      Misleads "json" ("bson-json", "json:") ∧ g.tagValue? "json" = some " json:" := by
  intro read misread f g
  have hkey : isKey "json" = true := by decide
  have hpairs : ∀ p ∈ read ++ misread, isKey p.1 = true ∧ isValue p.2 = true := by decide
  have hnone : ∀ p ∈ read.takeWhile (·.1 ≠ "json"), ¬Misleads "json" p := by decide
  have hmisleads : Misleads "json" ("bson-json", "json:") := by decide
  have hf := (tagValue?_ofPairs f read "json" rfl hkey
    fun p hp => hpairs p (List.mem_append_left _ hp)).1 hnone
  have hg := (tagValue?_ofPairs g misread "json" rfl hkey
    fun p hp => hpairs p (List.mem_append_right _ hp)).2 [("db", "id")] ("bson-json", "json:")
      [("json", "name")] rfl (by decide) (by decide) hmisleads
  exact ⟨⟨hkey, hpairs⟩, hnone, hf, hmisleads, hg⟩

/-- The value of `xml` ends like the key `json`, so what stands behind it is returned. -/
theorem tagValue?_between_values :
    let pairs := [("xml", "a json:"), ("json", "id")]
    let f : Field TypeExpr := ⟨"ID", .ident "" "int", some (ofPairs pairs)⟩
    (∀ p ∈ pairs, isKey p.1 = true ∧ isValue p.2 = true) ∧
      ofPairs pairs = "xml:\"a json:\" json:\"id\"" ∧
      pairs.find? (·.1 = "json") = some ("json", "id") ∧ f.tagValue? "json" = some " json:" :=
  ⟨by decide, by decide, rfl, by decide +kernel⟩

end TypeSchema.Tag
