import Autoscaler.Yaml.Token

/-!
# Scalars in the text

The written forms of a scalar: quoted, plain, and block scalars with an indicator in front. Line
breaks inside the first two fold to a space, or to one break fewer than were written.
-/

namespace Autoscaler.Yaml.Scan

/-- Whether a document indicator such as `---` is ahead. -/
def atDocumentIndicator : Scan Bool := do
  let c ← get
  let (a, b, d) := (c.charAt 0, c.charAt 1, c.charAt 2)
  return c.mark.column == 0 && (a == '-' || a == '.') && a == b && b == d && isGap (c.charAt 3)

structure Gap where
  spaces : List Char := []
  /-- Whether a break was met; it may be one that is not kept. -/
  broken : Bool := false
  first : List Char := []
  later : List Char := []

def Gap.fold (g : Gap) : List Char :=
  if g.broken then
    if g.first == ['\n'] then (if g.later.isEmpty then [' '] else g.later)
    else g.first ++ g.later
  else g.spaces

/-- Reads spaces, tabs and breaks on from `g`. `fine` says whether a space or tab may stand at a
place, given whether a break came before it. -/
def readGap (fine : Bool → Char → Mark → Bool) : Nat → Gap → Scan Gap
  | 0, g => return g
  | fuel + 1, g => do
    let c ← peek 0
    if isSpace c then
      if !fine g.broken c (← mark) then fail
      skip
      need 1
      readGap fine fuel (if g.broken then g else { g with spaces := g.spaces ++ [c] })
    else if isBreak c then
      need 2
      let b ← readBreak
      need 1
      readGap fine fuel
        (if g.broken then { g with later := g.later ++ b }
        else { g with spaces := [], broken := true, first := b })
    else return g

def shortEscape? : Char → Option Char
  | '0' => some '\x00'
  | 'a' => some '\x07'
  | 'b' => some '\x08'
  | 't' => some '\t'
  | '\t' => some '\t'
  | 'n' => some '\n'
  | 'v' => some '\x0b'
  | 'f' => some '\x0c'
  | 'r' => some '\r'
  | 'e' => some '\x1b'
  | ' ' => some ' '
  | '"' => some '"'
  | '/' => some '/'
  | '\\' => some '\\'
  | 'N' => some '\u0085'
  | '_' => some '\u00a0'
  | 'L' => some '\u2028'
  | 'P' => some '\u2029'
  | _ => none

/-- The number of hexadecimal digits that an escape letter asks for. -/
def escapeLength? : Char → Option Nat
  | 'x' => some 2
  | 'u' => some 4
  | 'U' => some 8
  | _ => none

def isHexDigit (c : Char) : Bool :=
  ('0' ≤ c && c ≤ '9') || ('A' ≤ c && c ≤ 'F') || ('a' ≤ c && c ≤ 'f')

/-- Reads `n` hexadecimal digits on from `value`. -/
def readHex : Nat → Nat → Scan Nat
  | 0, value => return value
  | n + 1, value => do
    let c ← read
    if !isHexDigit c then fail
    let d :=
      if c ≤ '9' then c.toNat - '0'.toNat
      else if c ≤ 'F' then c.toNat - 'A'.toNat + 10
      else c.toNat - 'a'.toNat + 10
    readHex n (16 * value + d)

def readEscape : Scan Char := do
  let c ← read
  match shortEscape? c with
  | some x => return x
  | none =>
    match escapeLength? c with
    | none => fail
    | some n =>
      need n
      let value ← readHex n 0
      if ¬ value.isValidChar then fail
      return Char.ofNat value

/-- Reads a run of quoted text up to a gap, an escaped break or the closing quote. Also tells
whether an escaped break ended it. `run` holds what was read, last character first. -/
def readQuotedRun (quote : Char) : Nat → List Char → Scan (List Char × Bool)
  | 0, run => return (run.reverse, false)
  | fuel + 1, run => do
    let c ← peek 0
    if isGap c then return (run.reverse, false)
    if quote == '\'' && c == '\'' && (← peek 1) == '\'' then
      skip
      skip
      need 2
      readQuotedRun quote fuel ('\'' :: run)
    else if c == quote then return (run.reverse, false)
    else if quote == '"' && c == '\\' && isBreak (← peek 1) then
      need 3
      skip
      let _ ← readBreak
      return (run.reverse, true)
    else if quote == '"' && c == '\\' then
      skip
      let x ← readEscape
      need 2
      readQuotedRun quote fuel (x :: run)
    else
      skip
      need 2
      readQuotedRun quote fuel (c :: run)

def readQuotedText (quote : Char) : Nat → List Char → Scan (List Char)
  | 0, _ => fail
  | fuel + 1, text => do
    need 4
    if ← atDocumentIndicator then fail
    if isEnd (← peek 0) then fail
    need 2
    let (run, escaped) ← readQuotedRun quote (← bound) []
    need 1
    if (← peek 0) == quote then return text ++ run
    let gap ← readGap (fun _ _ _ => true) (← bound) { broken := escaped }
    readQuotedText quote fuel (text ++ run ++ gap.fold)

def readQuoted (style : Style) : Scan Token := do
  let start ← mark
  let quote ← read
  let text ← readQuotedText quote (← bound) []
  skip
  return ⟨.scalar (String.ofList text) style, start, ← mark⟩

/-- Reads a run of plain text up to a gap or an indicator that ends it. `run` holds what was
read, last character first. -/
def readPlainRun (inFlow : Bool) : Nat → List Char → Scan (List Char)
  | 0, run => return run.reverse
  | fuel + 1, run => do
    let c ← peek 0
    if isGap c then return run.reverse
    let next ← peek 1
    if inFlow && c == ':' && [',', '?', '[', ']', '\x7b', '\x7d'].contains next then fail
    if c == ':' && isGap next then return run.reverse
    if inFlow && [',', '[', ']', '\x7b', '\x7d'].contains c then return run.reverse
    skip
    need 2
    readPlainRun inFlow fuel (c :: run)

/-- A plain scalar while it is read: its text, where that stops, and the gap after it. -/
structure PlainText where
  text : List Char := []
  stop : Mark
  gap : Gap := {}

/-- Reads plain text over several lines, of which the later ones start at `indent` or beyond. -/
def readPlainText (inFlow : Bool) (indent : Int) : Nat → PlainText → Scan PlainText
  | 0, p => return p
  | fuel + 1, p => do
    need 4
    if ← atDocumentIndicator then return p
    if (← peek 0) == '#' then return p
    let run ← readPlainRun inFlow (← bound) []
    let here ← mark
    let p := if run.isEmpty then p else { text := p.text ++ p.gap.fold ++ run, stop := here }
    let c ← peek 0
    if !(isSpace c || isBreak c) then return p
    need 1
    let fine := fun broken c (m : Mark) => !(broken && c == '\t' && (m.column : Int) < indent)
    let gap ← readGap fine (← bound) p.gap
    let p := { p with gap }
    if !inFlow && ((← mark).column : Int) < indent then return p
    readPlainText inFlow indent fuel p

def readPlain (inFlow : Bool) (indent : Int) : Scan (Token × Bool) := do
  let start ← mark
  let p ← readPlainText inFlow indent (← bound) { stop := start }
  return (⟨.scalar (String.ofList p.text) .plain, start, p.stop⟩, p.gap.broken)

inductive Chomping where
  | strip
  | clip
  | keep
deriving DecidableEq, Repr

def chomping? : Char → Option Chomping
  | '+' => some .keep
  | '-' => some .strip
  | _ => none

def readIncrement : Scan (Option Nat) := do
  let c ← peek 0
  if !c.isDigit then return none
  if c == '0' then fail
  skip
  return some (c.toNat - '0'.toNat)

/-- Reads the indicators of a block scalar, which come in either order. -/
def readBlockHeader : Scan (Chomping × Option Nat) := do
  need 1
  match chomping? (← peek 0) with
  | some chomping =>
    skip
    need 1
    return (chomping, ← readIncrement)
  | none =>
    match ← readIncrement with
    | none => return (.clip, none)
    | some n =>
      need 1
      match chomping? (← peek 0) with
      | some chomping =>
        skip
        return (chomping, some n)
      | none => return (.clip, some n)

/-- The lines without text in a block scalar: their breaks, where they stop, and the deepest
indentation met. -/
structure BlankLines where
  breaks : List Char := []
  stop : Mark
  deepest : Nat := 0

/-- Reads indentation and lines without text. Without an `indent` it takes all spaces. -/
def readBlankLines (indent : Option Nat) : Nat → BlankLines → Scan BlankLines
  | 0, b => return b
  | fuel + 1, b => do
    need 1
    let inside := fun (m : Mark) => indent.all (m.column < ·)
    readIndent inside (← bound)
    let c ← peek 0
    let here ← mark
    let b := { b with deepest := max b.deepest here.column }
    if inside here && c == '\t' then fail
    if !isBreak c then return b
    need 2
    let text ← readBreak
    readBlankLines indent fuel { b with breaks := b.breaks ++ text, stop := ← mark }
where
  /-- Steps over spaces at places that are `inside` the indentation. -/
  readIndent (inside : Mark → Bool) : Nat → Scan Unit
    | 0 => return ()
    | fuel + 1 => do
      if inside (← mark) && (← peek 0) == ' ' then
        skip
        need 1
        readIndent inside fuel

structure BlockText where
  text : List Char := []
  ending : List Char := []
  spaced : Bool := false
  blank : BlankLines

/-- Reads the lines at `indent`. Folding joins lines unless one of them starts with a space. -/
def readBlockLines (style : Style) (indent : Nat) : Nat → BlockText → Scan BlockText
  | 0, b => return b
  | fuel + 1, b => do
    let c ← peek 0
    if (← mark).column != indent || isEnd c then return b
    let joined :=
      if style == .folded && b.ending == ['\n'] && !b.spaced && !isSpace c then
        (if b.blank.breaks.isEmpty then [' '] else [])
      else b.ending
    let line ← readWhile (!isBreakOrEnd ·)
    need 2
    let br ← readBreak
    let blank ← readBlankLines (some indent) (← bound) { stop := ← mark }
    readBlockLines style indent fuel
      { text := b.text ++ joined ++ b.blank.breaks ++ line
        ending := br, spaced := isSpace c, blank }

/-- Reads a block scalar inside a block that is indented by `parent` (less than zero outside of
all blocks). -/
def readBlock (style : Style) (parent : Int) : Scan Token := do
  let start ← mark
  skip
  let (chomping, increment) ← readBlockHeader
  need 1
  skipWhile isSpace
  if (← peek 0) == '#' then skipWhile (!isBreakOrEnd ·)
  if !isBreakOrEnd (← peek 0) then fail
  if isBreak (← peek 0) then
    need 2
    let _ ← readBreak
  let given := increment.map fun n => if 0 ≤ parent then parent.toNat + n else n
  let blank ← readBlankLines given (← bound) { stop := ← mark }
  let indent := given.getD (max blank.deepest (max (parent + 1).toNat 1))
  need 1
  let b ← readBlockLines style indent (← bound) { blank }
  let ending := match chomping with
    | .strip => []
    | .clip => b.ending
    | .keep => b.ending ++ b.blank.breaks
  return ⟨.scalar (String.ofList (b.text ++ ending)) style, start, b.blank.stop⟩

end Autoscaler.Yaml.Scan
