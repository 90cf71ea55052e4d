import TypeSchema.Proofs.WellFormed

namespace TypeSchema.TypeExpr

open Text

/-- An identifier with its whole module path. -/
def wordChars (path name : String) : List Char :=
  if path.isEmpty then name.toList else path.toList ++ '.' :: name.toList

/-- The last token of a type: a name, a parameter list without results, or a bracket. -/
inductive Ending where
  | word
  | signature
  | bracket

def startsResult (x : Char) : Bool := x = '(' || startsBareResult x

/-- A name must not go on, nor results follow on the line of a parameter list without results. -/
def Ending.Allows : Ending → List Char → Prop
  | word, rest => Stops isWordChar rest
  | signature, rest => Stops startsResult (rest.dropWhile isInlineBlank)
  | bracket, _ => True

/-- Texts in which every brace has its partner. -/
inductive Balanced : List Char → Prop
  | nil : Balanced []
  | char {c : Char} {cs : List Char} : c ≠ '{' → c ≠ '}' → Balanced cs → Balanced (c :: cs)
  | braces {inner cs : List Char} : Balanced inner → Balanced cs →
      Balanced ('{' :: inner ++ '}' :: cs)

def Digits (cs : List Char) : Prop := ∀ c ∈ cs, c.isDigit = true

instance (cs : List Char) : Decidable (Digits cs) :=
  List.decidableBAll (fun c : Char => c.isDigit = true) cs

inductive SpellsTag : Option String → List Char → Prop
  | none : SpellsTag none []
  | some {blanks : List Char} (tag : String) : InlineBlanks blanks →
      SpellsTag (some tag) (blanks ++ '\x60' :: tag.toList ++ ['\x60'])

/-- The names of a field line behind its first one. -/
inductive SpellsNames : List String → List Char → Prop
  | nil : SpellsNames [] []
  | cons {b₁ b₂ cs : List Char} {names : List String} {name : String} : InlineBlanks b₁ →
      InlineBlanks b₂ → SpellsNames names cs →
      SpellsNames (name :: names) (b₁ ++ ',' :: b₂ ++ name.toList ++ cs)

/-- An embedded name without a tag stands at the end of a line or of a field. -/
def EndsLine (rest : List Char) : Prop :=
  ∃ x ∈ ['\n', ';', '}'], (rest.dropWhile isInlineBlank).head? = some x

mutual

/-- `Spells t e cs`: `cs` is a text of `t` that ends as `e` says, without blanks around it. -/
inductive Spells : TypeExpr → Ending → List Char → Prop
  | ident (path name : String) : Spells (.ident path name) .word (wordChars path name)
  | pointer {t : TypeExpr} {e : Ending} {b cs : List Char} : Blanks b → Spells t e cs →
      Spells (.pointer t) e ('*' :: b ++ cs)
  | array {t : TypeExpr} {e : Ending} {b₁ digits b₂ b₃ cs : List Char} : Blanks b₁ →
      Digits digits → Blanks b₂ → Blanks b₃ → Spells t e cs →
      Spells (.array t) e ('[' :: b₁ ++ digits ++ b₂ ++ ']' :: b₃ ++ cs)
  | map {k v : TypeExpr} {d e : Ending} {b₁ b₂ ks b₃ b₄ vs : List Char} : Blanks b₁ →
      Blanks b₂ → Spells k d ks → Blanks b₃ → Blanks b₄ → Spells v e vs →
      Spells (.map k v) e ("map".toList ++ b₁ ++ '[' :: b₂ ++ ks ++ b₃ ++ ']' :: b₄ ++ vs)
  | struct {fields : List (Field TypeExpr)} {b cs : List Char} : Blanks b →
      SpellsFields fields cs → Spells (.struct fields) .bracket ("struct".toList ++ b ++ '{' :: cs)
  | interface {b body : List Char} : Blanks b → Balanced body →
      Spells .interface .bracket ("interface".toList ++ b ++ '{' :: body ++ ['}'])
  | func {params : List TypeExpr} {b ps : List Char} : Blanks b → SpellsList params ps →
      Spells (.func params []) .signature ("func".toList ++ b ++ ps)
  | funcResult {params : List TypeExpr} {result : TypeExpr} {e : Ending}
      {b ps i rs : List Char} : Blanks b → SpellsList params ps → InlineBlanks i →
      Spells result e rs → Spells (.func params [result]) e ("func".toList ++ b ++ ps ++ i ++ rs)
  | funcResults {params results : List TypeExpr} {b ps i rs : List Char} : Blanks b →
      SpellsList params ps → InlineBlanks i → SpellsList results rs →
      Spells (.func params results) .bracket ("func".toList ++ b ++ ps ++ i ++ rs)
  | chan {t : TypeExpr} {e : Ending} {b cs : List Char} : Blanks b → Spells t e cs →
      Stops isWordChar (b ++ cs) → Spells (.chan t) e ("chan".toList ++ b ++ cs)

/-- A list of types with its parentheses. -/
inductive SpellsList : List TypeExpr → List Char → Prop
  | nil {b : List Char} : Blanks b → SpellsList [] ('(' :: b ++ [')'])
  | types {types : List TypeExpr} {b cs : List Char} : Blanks b → SpellsTypes types cs →
      SpellsList types ('(' :: b ++ cs)

/-- One type or more, up to the closing parenthesis. -/
inductive SpellsTypes : List TypeExpr → List Char → Prop
  | last {t : TypeExpr} {e : Ending} {cs b : List Char} : Spells t e cs → Blanks b →
      SpellsTypes [t] (cs ++ b ++ [')'])
  | cons {t : TypeExpr} {e : Ending} {types : List TypeExpr} {cs b₁ b₂ ds : List Char} :
      Spells t e cs → Blanks b₁ → Blanks b₂ → SpellsTypes types ds →
      SpellsTypes (t :: types) (cs ++ b₁ ++ ',' :: b₂ ++ ds)

/-- The fields of a struct up to its closing brace. -/
inductive SpellsFields : List (Field TypeExpr) → List Char → Prop
  | nil {b : List Char} : Blanks b → SpellsFields [] (b ++ ['}'])
  | semicolon {fields : List (Field TypeExpr)} {b cs : List Char} : Blanks b →
      SpellsFields fields cs → SpellsFields fields (b ++ ';' :: cs)
  | starred {t : TypeExpr} {e : Ending} {tag : Option String} {fields : List (Field TypeExpr)}
      {b ts gs cs : List Char} : Blanks b → Spells (.pointer t) e ts → SpellsTag tag gs →
      (tag = none → e.Allows cs) → SpellsFields fields cs →
      SpellsFields (⟨"", .pointer t, tag⟩ :: fields) (b ++ ts ++ gs ++ cs)
  | embedded {path name : String} {tag : Option String} {fields : List (Field TypeExpr)}
      {b gs cs : List Char} : Blanks b → SpellsTag tag gs → (tag = none → EndsLine cs) →
      SpellsFields fields cs →
      SpellsFields (⟨"", .ident path name, tag⟩ :: fields) (b ++ wordChars path name ++ gs ++ cs)
  | named {name : String} {names : List String} {t : TypeExpr} {e : Ending} {tag : Option String}
      {fields : List (Field TypeExpr)} {b ns i ts gs cs : List Char} : Blanks b →
      (∀ n ∈ name :: names, n ≠ "") → SpellsNames names ns → InlineBlanks i → Spells t e ts →
      Stops isWordChar (i ++ ts) →
      SpellsTag tag gs → (tag = none → e.Allows cs) → SpellsFields fields cs →
      SpellsFields ((name :: names).map (⟨·, t, tag⟩) ++ fields)
        (b ++ name.toList ++ ns ++ i ++ ts ++ gs ++ cs)

end

/-- `s` is a text of `t`, with any blanks around it. -/
def IsTextOf (t : TypeExpr) (s : String) : Prop :=
  ∃ e b cs b', Blanks b ∧ Spells t e cs ∧ Blanks b' ∧ s.toList = b ++ (cs ++ b')

end TypeSchema.TypeExpr
