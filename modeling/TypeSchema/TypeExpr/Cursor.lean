import TypeSchema.Text.Blank
import TypeSchema.Text.Word
import TypeSchema.TypeExpr.Fault

namespace TypeSchema

abbrev Attempt := Except ParseError

/-- A place in a text: the number of UTF-8 bytes before it, and the characters that are left. -/
structure Cursor where
  offset : Nat
  rest : List Char
  deriving DecidableEq, Repr

def utf8Length (cs : List Char) : Nat := cs.foldr (fun c length => c.utf8Size + length) 0

namespace Cursor

open Text

def start (src : List Char) : Cursor := ⟨0, src⟩

def head? (c : Cursor) : Option Char := c.rest.head?

def fail {α : Type} (c : Cursor) (fault : Fault) : Attempt α :=
  .error ⟨c.offset, fault⟩

def next (c : Cursor) : Cursor :=
  match c.rest with
  | [] => c
  | x :: rest => ⟨c.offset + x.utf8Size, rest⟩

/-- Reads on while `p` holds. -/
def skipWhile (p : Char → Bool) (c : Cursor) : Cursor :=
  ⟨c.offset + utf8Length (c.rest.takeWhile p), c.rest.dropWhile p⟩

def taken (p : Char → Bool) (c : Cursor) : List Char := c.rest.takeWhile p

def skipBlanks (c : Cursor) : Cursor := c.skipWhile isBlank

def skipInlineBlanks (c : Cursor) : Cursor := c.skipWhile isInlineBlank

theorem utf8Length_append (as bs : List Char) :
    utf8Length (as ++ bs) = utf8Length as + utf8Length bs := by
  induction as with
  | nil => exact (Nat.zero_add _).symm
  | cons a as ih =>
    have hcons : ∀ cs, utf8Length (a :: cs) = a.utf8Size + utf8Length cs := fun _ => rfl
    rw [List.cons_append, hcons, hcons, ih, Nat.add_assoc]

/-- `c'` is `c` after reading `read`. -/
def Reads (read : List Char) (c c' : Cursor) : Prop :=
  c.rest = read ++ c'.rest ∧ c'.offset = c.offset + utf8Length read

theorem Reads.trans {r s : List Char} {a b c : Cursor} (h : Reads r a b) (k : Reads s b c) :
    Reads (r ++ s) a c := by
  constructor
  · rw [h.1, k.1, List.append_assoc]
  · rw [k.2, h.2, utf8Length_append, Nat.add_assoc]

theorem reads_skipWhile (p : Char → Bool) (c : Cursor) : Reads (c.taken p) c (c.skipWhile p) :=
  ⟨List.takeWhile_append_dropWhile.symm, rfl⟩

theorem length_skipWhile_le (p : Char → Bool) (c : Cursor) :
    (c.skipWhile p).rest.length ≤ c.rest.length := by
  have h := congrArg List.length (reads_skipWhile p c).1
  rw [List.length_append] at h
  omega

end Cursor

/-- What a reader can do at a place of its text: move on, or give up with a fault. -/
class Scanner (m : Type → Type) where
  next (c : Cursor) : m Cursor
  skipWhile (p : Char → Bool) (c : Cursor) : m Cursor
  fail {α : Type} (c : Cursor) (fault : Fault) : m α

instance : Scanner Attempt where
  next c := .ok c.next
  skipWhile p c := .ok (c.skipWhile p)
  fail c fault := c.fail fault

namespace Scanner

open Text

section

variable {m : Type → Type} [Scanner m]

def skipBlanks (c : Cursor) : m Cursor := skipWhile isBlank c

def skipInlineBlanks (c : Cursor) : m Cursor := skipWhile isInlineBlank c

/-- Reads `x`, which may stand after blanks. -/
def expect [Monad m] (x : Char) (c : Cursor) : m Cursor := do
  let c ← skipBlanks c
  if c.head? = some x then next c else fail c (.expectedChar x)

end

section

variable {α : Type} (c : Cursor) (f : Cursor → Attempt α)

-- A move cannot fail, so an attempt goes on with what stands behind it.
@[simp] theorem next_bind : (next c >>= f) = f c.next := rfl
@[simp] theorem skipWhile_bind (p : Char → Bool) : (skipWhile p c >>= f) = f (c.skipWhile p) := rfl
@[simp] theorem skipBlanks_bind : (skipBlanks c >>= f) = f c.skipBlanks := rfl
@[simp] theorem skipInlineBlanks_bind : (skipInlineBlanks c >>= f) = f c.skipInlineBlanks := rfl

end

end Scanner

end TypeSchema
