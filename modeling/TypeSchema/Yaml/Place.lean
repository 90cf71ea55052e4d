namespace TypeSchema.Yaml

/-- The characters that end a line. -/
def isBreak (c : Char) : Bool :=
  c = '\n' || c = '\r' || c = '\u0085' || c = '\u2028' || c = '\u2029'

def isSpace (c : Char) : Bool := c = ' ' || c = '\t'

def isNameChar (c : Char) : Bool := c.isAlphanum || c = '_' || c = '-'

/-- The characters that a text may hold at all. -/
def isAllowed (c : Char) : Bool :=
  c = '\t' || c = '\n' || c = '\r' || c = '\u0085' || (0x20 ≤ c.toNat && c.toNat ≤ 0x7E) ||
    (0xA0 ≤ c.toNat && c.toNat ≤ 0xFFFD) || 0x10000 ≤ c.toNat

/-- A break, a space or the end of the text. -/
def endsWord : Option Char → Bool
  | none => true
  | some c => isSpace c || isBreak c

def endsLine : Option Char → Bool
  | none => true
  | some c => isBreak c

structure Place where
  rest : List Char
  index : Nat
  line : Nat
  column : Nat

namespace Place

def head? (p : Place) : Option Char := p.rest.head?

def second? (p : Place) : Option Char := p.rest.tail.head?

/-- Moves over `n` characters of one line. -/
def skip (p : Place) (n : Nat) : Place :=
  { p with rest := p.rest.drop n, index := p.index + n, column := p.column + n }

def skipWhile (f : Char → Bool) (p : Place) : Place := p.skip (p.rest.takeWhile f).length

/-- Moves over a line break; a carriage return and a line feed are one. -/
def skipBreak (p : Place) : Place :=
  match p.rest with
  | '\r' :: '\n' :: rest => ⟨rest, p.index + 2, p.line + 1, 0⟩
  | c :: rest => if isBreak c then ⟨rest, p.index + 1, p.line + 1, 0⟩ else p
  | [] => p

/-- What a line break counts as in a scalar. -/
def breakText (p : Place) : List Char :=
  match p.rest with
  | c :: _ =>
    if c = '\u2028' || c = '\u2029' then [c] else if isBreak c then ['\n'] else []
  | [] => []

/-- At `---` or `...` standing alone at the start of a line. -/
def isMarker (mark : Char) (p : Place) : Bool :=
  p.column = 0 && (p.rest.take 3 = [mark, mark, mark]) && endsWord (p.rest.drop 3).head?

def atMarker (p : Place) : Bool := p.isMarker '-' || p.isMarker '.'

end Place

end TypeSchema.Yaml
