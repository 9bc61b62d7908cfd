import Autoscaler.Yaml.Source

/-!
# Reading characters in order

A cursor holds the characters ahead and the place of the next one. It also notes how far ahead
characters were asked for, because a broken source fails once that is beyond what it has.
-/

namespace Autoscaler.Yaml

/-- A place in a document; all three count from zero. -/
structure Mark where
  index : Nat
  line : Nat
  column : Nat
deriving DecidableEq, Repr

structure Cursor where
  rest : List Char
  left : Nat
  mark : Mark
  /-- How many characters were asked for, from the start of the document. -/
  reach : Nat

/-- Stands for the end of input. Documents do not contain it. -/
def endChar : Char := '\x00'

def isSpace (c : Char) : Bool := c == ' ' || c == '\t'
def isBreak (c : Char) : Bool :=
  c == '\r' || c == '\n' || c == '\u0085' || c == '\u2028' || c == '\u2029'
def isEnd (c : Char) : Bool := c == endChar
def isBreakOrEnd (c : Char) : Bool := isBreak c || isEnd c
def isGap (c : Char) : Bool := isSpace c || isBreakOrEnd c
def isWordChar (c : Char) : Bool :=
  ('0' ≤ c && c ≤ '9') || ('A' ≤ c && c ≤ 'Z') || ('a' ≤ c && c ≤ 'z') || c == '_' || c == '-'

namespace Cursor

def ofSource (s : Source) : Cursor := ⟨s.chars, s.chars.length, ⟨0, 0, 0⟩, 0⟩

/-- The character `i` places ahead. -/
def charAt (c : Cursor) (i : Nat) : Char := c.rest[i]?.getD endChar

/-- Notes that `n` characters were asked for. -/
def require (c : Cursor) (n : Nat) : Cursor := { c with reach := max c.reach (c.mark.index + n) }

def skip (c : Cursor) : Cursor :=
  { c with
    rest := c.rest.drop 1
    left := c.left - 1
    mark := { c.mark with index := c.mark.index + 1, column := c.mark.column + 1 } }

/-- Steps over `n` characters that end the line. -/
def nextLine (c : Cursor) (n : Nat) : Cursor :=
  { c with
    rest := c.rest.drop n
    left := c.left - n
    mark := ⟨c.mark.index + n, c.mark.line + 1, 0⟩ }

/-- Steps over a line break, if one is ahead, and gives its text: a line feed for the common
breaks, and the separators of lines and paragraphs as they are. -/
def readBreak (c : Cursor) : List Char × Cursor :=
  match c.rest with
  | '\r' :: '\n' :: _ => (['\n'], c.nextLine 2)
  | x :: _ =>
    if x == '\u2028' || x == '\u2029' then ([x], c.nextLine 1)
    else if isBreak x then (['\n'], c.nextLine 1)
    else ([], c)
  | [] => ([], c)

/-- Reads characters while `p` holds, at most `fuel` of them. -/
def readWhile (p : Char → Bool) : Nat → Cursor → List Char × Cursor
  | 0, c => ([], c)
  | fuel + 1, c =>
    if p (c.charAt 0) then
      let (xs, c') := readWhile p fuel c.skip
      (c.charAt 0 :: xs, c')
    else ([], c)

end Cursor

abbrev Scan := StateT Cursor Option

namespace Scan

def fail {α : Type} : Scan α := fun _ => none

def peek (i : Nat) : Scan Char := do return (← get).charAt i

def mark : Scan Mark := do return (← get).mark

def need (n : Nat) : Scan Unit := modify (·.require n)

def skip : Scan Unit := modify Cursor.skip

def readBreak : Scan (List Char) := modifyGet Cursor.readBreak

/-- How many characters are ahead: a bound for every loop. -/
def bound : Scan Nat := do return (← get).left + 1

/-- Reads characters while `p` holds. -/
def readWhile (p : Char → Bool) : Scan (List Char) := do
  let text ← modifyGet fun c => c.readWhile p c.left
  need 1
  return text

/-- Steps over characters while `p` holds. -/
def skipWhile (p : Char → Bool) : Scan Unit := do
  let _ ← readWhile p

def read : Scan Char := do
  let c ← peek 0
  skip
  return c

def expect (c : Char) : Scan Unit := do
  if (← peek 0) != c then fail
  skip

end Scan
end Autoscaler.Yaml
