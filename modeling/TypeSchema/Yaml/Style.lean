import TypeSchema.Yaml.Place

namespace TypeSchema.Yaml

inductive Style where
  | plain
  | singleQuoted
  | doubleQuoted
  | literal
  deriving DecidableEq, Repr

/-- Digits behind a leading zero are no number. -/
def isZeroPadded (digits : List Char) : Bool :=
  match digits with
  | '0' :: c :: cs => (c :: cs).all Char.isDigit
  | _ => false

def dropSign : List Char → List Char
  | '-' :: cs | '+' :: cs => cs
  | cs => cs

def digitValue? (radix : Nat) (c : Char) : Option Nat :=
  let n :=
    if c.isDigit then some (c.toNat - '0'.toNat)
    else if c.isLower then some (c.toNat - 'a'.toNat + 10)
    else if c.isUpper then some (c.toNat - 'A'.toNat + 10)
    else none
  n.filter (· < radix)

/-- The value of a digit sequence, if it is one. -/
def natOf? (radix : Nat) (cs : List Char) : Option Nat :=
  if cs.isEmpty then none
  else cs.foldlM (fun n c => (digitValue? radix c).map (n * radix + ·)) 0

def isNatBelow (radix limit : Nat) (cs : List Char) : Bool := (natOf? radix cs).any (· < limit)

/-- Digits behind a radix mark, or decimal digits. -/
def isMarkedBelow (limit : Nat) : List Char → Bool
  | '0' :: 'x' :: cs => isNatBelow 16 limit cs
  | '0' :: 'o' :: cs => isNatBelow 8 limit cs
  | '0' :: 'b' :: cs => isNatBelow 2 limit cs
  | cs => isNatBelow 10 limit cs

/-- Integers of at most 128 bits, in decimal or behind a radix mark. -/
def isInteger (cs : List Char) : Bool :=
  !isZeroPadded (dropSign cs) &&
    match cs with
    | '-' :: cs => isMarkedBelow (Nat.pow 2 127 + 1) cs
    | '+' :: cs => isMarkedBelow (Nat.pow 2 128) cs
    | cs => isMarkedBelow (Nat.pow 2 128) cs

/-- Digits with an optional point and exponent: the digits, the number of them behind the point,
and the exponent. -/
def decimal? (cs : List Char) : Option (List Char × Nat × Int) :=
  let whole := cs.takeWhile Char.isDigit
  let rest := cs.dropWhile Char.isDigit
  let (fraction, rest) := match rest with
    | '.' :: rest => (rest.takeWhile Char.isDigit, rest.dropWhile Char.isDigit)
    | rest => ([], rest)
  if (whole ++ fraction).isEmpty then none
  else
    match rest with
    | [] => some (whole ++ fraction, fraction.length, 0)
    | e :: rest =>
      if e = 'e' || e = 'E' then
        (natOf? 10 (dropSign rest)).map fun n =>
          (whole ++ fraction, fraction.length, if rest.head? = some '-' then -(n : Int) else n)
      else none

/-- Half a unit above the largest number of double precision: from here on a number is infinite. -/
def doubleLimit : Nat := Nat.pow 2 1024 - Nat.pow 2 970

/-- Whether `0.digits` times ten to the power `magnitude` is a finite double. -/
def isFinite (digits : List Char) (magnitude : Int) : Bool :=
  if digits.isEmpty || magnitude < 309 then true
  else if 309 < magnitude then false
  else (natOf? 10 digits).any fun n => n * Nat.pow 10 309 < doubleLimit * Nat.pow 10 digits.length

def isFiniteDecimal (cs : List Char) : Bool :=
  (decimal? cs).any fun (digits, places, exponent) =>
    let significant := digits.dropWhile (· = '0')
    isFinite significant ((significant.length : Int) - places + exponent)

def isFloat (cs : List Char) : Bool :=
  !isZeroPadded (dropSign cs) &&
    (isFiniteDecimal (dropSign cs) ||
      String.ofList cs ∈ [".inf", ".Inf", ".INF", "+.inf", "+.Inf", "+.INF", "-.inf", "-.Inf",
        "-.INF", ".nan", ".NaN", ".NAN"])

def isWordOfSchema (s : String) : Bool :=
  s ∈ ["", "null", "Null", "NULL", "~", "true", "True", "TRUE", "false", "False", "FALSE"]

/-- Whether a bare scalar would read as something else than a text, or as a padded number. -/
def isAmbiguous (s : String) : Bool :=
  let cs := s.toList
  isWordOfSchema s || isZeroPadded (dropSign cs) || isInteger cs || isFloat cs

def isPrintable (c : Char) : Bool :=
  c = '\n' || (0x20 ≤ c.toNat && c.toNat ≤ 0x7E) ||
    (0xA0 ≤ c.toNat && c ≠ '\uFEFF' && c ≠ '\uFFFE' && c ≠ '\uFFFF')

def startsIndicator (c : Char) (next : Option Char) : Bool :=
  (c ∈ "#,[]\x7b\x7d&*!|>'\"%@\x60".toList) ||
    ((c = '?' || c = ':' || c = '-') && endsWord next)

/-- A colon before white space, or a hash behind it, after the first character. -/
def holdsIndicator (previous : Char) : List Char → Bool
  | [] => false
  | c :: cs =>
    (c = ':' && endsWord cs.head?) || (c = '#' && endsWord (some previous)) || holdsIndicator c cs

def hasIndicator : List Char → Bool
  | [] => false
  | c :: cs =>
    ['-', '-', '-'].isPrefixOf (c :: cs) || ['.', '.', '.'].isPrefixOf (c :: cs) ||
      startsIndicator c cs.head? || holdsIndicator c cs

/-- Two neighbours of which `p` holds. -/
def hasPair (p : Char → Char → Bool) : List Char → Bool
  | a :: b :: cs => p a b || hasPair p (b :: cs)
  | _ => false

def isPlainAllowed (cs : List Char) : Bool :=
  let edge := fun c : Option Char => c.any fun c => c = ' ' || isBreak c
  !(edge cs.head? || edge cs.getLast? || cs.any isBreak || cs.any (!isPrintable ·) ||
    hasIndicator cs)

def hasBrokenSpace (cs : List Char) : Bool := hasPair (fun a b => a = ' ' && isBreak b) cs

def isSingleQuotedAllowed (cs : List Char) : Bool :=
  !(hasPair (fun a b => isBreak a && b = ' ') cs || hasBrokenSpace cs || cs.any (!isPrintable ·))

def isLiteralAllowed (cs : List Char) : Bool :=
  !(cs.getLast? = some ' ' || hasBrokenSpace cs || cs.any (!isPrintable ·))

def quotedStyle (cs : List Char) : Style :=
  if isSingleQuotedAllowed cs then .singleQuoted else .doubleQuoted

def style (s : String) : Style :=
  let cs := s.toList
  if '\n' ∈ cs then if isLiteralAllowed cs then .literal else .doubleQuoted
  else if isAmbiguous s || !isPlainAllowed cs then quotedStyle cs
  else .plain

end TypeSchema.Yaml
