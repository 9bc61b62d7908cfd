import Autoscaler.Yaml.Token.Scalar

/-!
# Cutting a document into tokens

Block structure is found from the indentation, and a key only from the colon behind it. So tokens
wait in a queue as long as one of them may yet turn out to be a key, which puts tokens in front of
it. The result is the list of tokens that can be handed out before the first error.
-/

namespace Autoscaler.Yaml

structure KeyCandidate where
  /-- The number of the token, counted from the start of the document. -/
  number : Nat
  mark : Mark
  /-- Whether nothing but a key can stand there. -/
  required : Bool

/-- A key and its colon stand on one line and at most this many characters apart. -/
def maxKeyLength : Nat := 1024

structure Lexer where
  cursor : Cursor
  broken : Bool
  size : Nat
  started : Bool := false
  ended : Bool := false
  handedOut : Nat := 0
  /-- The tokens that wait, in order. -/
  queue : List Token := []
  /-- The column of the current block, less than zero outside of all. -/
  indent : Int := -1
  indents : List Int := []
  candidate : Option KeyCandidate := none
  outer : List (Option KeyCandidate) := []
  keyAllowed : Bool := true

abbrev Lex := StateT Lexer Option

namespace Lex

def fail {α : Type} : Lex α := fun _ => none

def scan {α : Type} (s : Scan α) : Lex α := fun l => do
  let (a, cursor) ← s l.cursor
  return (a, { l with cursor })

def emit (t : Token) : Lex Unit := modify fun l => { l with queue := l.queue ++ [t] }

def insertBefore (number : Nat) (t : Token) : Lex Unit := modify fun l =>
  let place := number - l.handedOut
  { l with queue := l.queue.take place ++ t :: l.queue.drop place }

def inFlow : Lex Bool := do return !(← get).outer.isEmpty

def column : Lex Int := do return (← get).cursor.mark.column

def allowKey (b : Bool) : Lex Unit := modify fun l => { l with keyAllowed := b }

def isStale (here : Mark) (k : KeyCandidate) : Bool :=
  k.mark.line < here.line || k.mark.index + maxKeyLength < here.index

def expireCandidates : Lex Unit := do
  let l ← get
  let stale := isStale l.cursor.mark
  let all := l.candidate :: l.outer
  if all.any fun k => k.any fun k => stale k && k.required then fail
  let keep := fun (k : Option KeyCandidate) => k.filter (!stale ·)
  set { l with candidate := keep l.candidate, outer := l.outer.map keep }

def dropCandidate : Lex Unit := do
  let l ← get
  if l.candidate.any (·.required) then fail
  set { l with candidate := none }

def saveCandidate : Lex Unit := do
  let l ← get
  if l.keyAllowed then
    dropCandidate
    let k : KeyCandidate :=
      { number := l.handedOut + l.queue.length
        mark := l.cursor.mark
        required := l.outer.isEmpty && l.indent == l.cursor.mark.column }
    modify fun l => { l with candidate := some k }

/-- Opens a block at a column beyond the current one. Its start token goes before the token with
a number, or to the end of the queue. -/
def openBlock (column : Nat) (number : Option Nat) (kind : Token.Kind) (m : Mark) : Lex Unit := do
  let l ← get
  if l.outer.isEmpty && l.indent < column then
    set { l with indents := l.indent :: l.indents, indent := (column : Int) }
    match number with
    | none => emit ⟨kind, m, m⟩
    | some n => insertBefore n ⟨kind, m, m⟩

/-- The blocks that end at a column: how many, and the indentation and blocks that remain. -/
def closedAt (column : Int) : Int → List Int → Nat × Int × List Int
  | indent, [] => (0, indent, [])
  | indent, parent :: above =>
    if column < indent then
      let (n, rest) := closedAt column parent above
      (n + 1, rest)
    else (0, indent, parent :: above)

def closeBlocks (column : Int) : Lex Unit := do
  let l ← get
  if l.outer.isEmpty then
    let (n, indent, indents) := closedAt column l.indent l.indents
    let m := l.cursor.mark
    set { l with indent, indents, queue := l.queue ++ List.replicate n (Token.mk .blockEnd m m) }

/-- Reads `n` characters as one token. -/
def emitChars (n : Nat) (kind : Token.Kind) : Lex Unit := do
  let start ← scan Scan.mark
  modify fun l => { l with cursor := Nat.repeat Cursor.skip n l.cursor }
  let stop ← scan Scan.mark
  emit ⟨kind, start, stop⟩

/-- Steps over spaces, comments and line breaks up to the next token. -/
def skipGaps : Nat → Lex Unit
  | 0 => return ()
  | fuel + 1 => do
    scan (Scan.need 1)
    if (← column) == 0 && (← scan (Scan.peek 0)) == '\ufeff' then scan Scan.skip
    let tabs := (← inFlow) || !(← get).keyAllowed
    scan (Scan.skipWhile fun c => c == ' ' || (tabs && c == '\t'))
    if (← scan (Scan.peek 0)) == '#' then scan (Scan.skipWhile (!isBreakOrEnd ·))
    if isBreak (← scan (Scan.peek 0)) then
      scan (Scan.need 2)
      let _ ← scan Scan.readBreak
      if !(← inFlow) then allowKey true
      skipGaps fuel

/-- The end of the document: all blocks end, and a key that is due is missing. -/
def readEnd : Lex Unit := do
  if (← column) != 0 then modify fun l => { l with cursor := l.cursor.nextLine 0 }
  closeBlocks (-1)
  dropCandidate
  allowKey false
  let m ← scan Scan.mark
  emit ⟨.streamEnd, m, m⟩
  modify fun l => { l with ended := true }

/-- Octets written as a percent sign and two digits, which must encode one character; each octet
becomes a character of its own. -/
def readOctets : Nat → Scan (List Char)
  | 0 => return []
  | n + 1 => do
    Scan.need 3
    Scan.expect '%'
    let octet ← Scan.readHex 2 0
    if octet / 64 != 2 then Scan.fail
    return Char.ofNat octet :: (← readOctets n)

def readUriEscape : Scan (List Char) := do
  Scan.need 3
  Scan.expect '%'
  let octet ← Scan.readHex 2 0
  let length := sequenceLength (UInt8.ofNat octet)
  if length = 0 then Scan.fail
  return Char.ofNat octet :: (← readOctets (length - 1))

/-- The characters of a tag; a verbatim one may also hold flow indicators. -/
def isUriChar (verbatim : Bool) (c : Char) : Bool :=
  isWordChar c || ";/?:@&=+$.!~*'()%".toList.contains c ||
    (verbatim && (c == ',' || c == '[' || c == ']'))

def readUriChars (verbatim : Bool) : Nat → Scan (List Char)
  | 0 => return []
  | fuel + 1 => do
    let c ← Scan.peek 0
    if !isUriChar verbatim c then return []
    let text ← if c == '%' then readUriEscape else do
      Scan.skip
      pure [c]
    Scan.need 1
    return text ++ (← readUriChars verbatim fuel)

/-- Reads the text of a tag after `head`. It ends at an escaped NUL. -/
def readUri (verbatim : Bool) (head : List Char) : Scan (List Char) := do
  Scan.need 1
  let text ← readUriChars verbatim (← Scan.bound)
  if head.isEmpty && text.isEmpty then Scan.fail
  return (head.drop 1 ++ text).takeWhile (· != '\x00')

/-- Reads a tag handle: `!`, `!!` or a word between two marks. -/
def readHandle (directive : Bool) : Scan (List Char) := do
  Scan.need 1
  Scan.expect '!'
  Scan.need 1
  let word ← Scan.readWhile isWordChar
  if (← Scan.peek 0) == '!' then
    Scan.skip
    return '!' :: word ++ ['!']
  if directive && !word.isEmpty then Scan.fail
  return '!' :: word

def readTag (inFlow : Bool) : Scan Token := do
  let start ← Scan.mark
  Scan.need 2
  let (handle, suffix) ←
    if (← Scan.peek 1) == '<' then do
      Scan.skip
      Scan.skip
      let suffix ← readUri true []
      Scan.expect '>'
      pure ([], suffix)
    else do
      let handle ← readHandle false
      if 1 < handle.length && handle.getLast? == some '!' then
        pure (handle, ← readUri false [])
      else
        let suffix ← readUri false handle
        pure (if suffix.isEmpty then ([], ['!']) else (['!'], suffix))
  Scan.need 1
  let c ← Scan.peek 0
  if !(inFlow && c == ',') && !isGap c then Scan.fail
  return ⟨.tag (String.ofList handle) (String.ofList suffix), start, ← Scan.mark⟩

/-- The characters other than gaps that may follow the name of an anchor or alias. -/
def endsName (c : Char) : Bool := isGap c || "?:,]\x7d%@\x60".toList.contains c

def readName (kind : String → Token.Kind) : Scan Token := do
  let start ← Scan.mark
  Scan.skip
  Scan.need 1
  let name ← Scan.readWhile isWordChar
  if name.isEmpty || !endsName (← Scan.peek 0) then Scan.fail
  return ⟨kind (String.ofList name), start, ← Scan.mark⟩

/-- Reads a part of a version, of at most nine digits. -/
def readVersionPart : Scan Nat := do
  Scan.need 1
  let digits ← Scan.readWhile Char.isDigit
  if digits.isEmpty || 9 < digits.length then Scan.fail
  return digits.foldl (fun n c => 10 * n + (c.toNat - '0'.toNat)) 0

def readDirectiveBody (name : List Char) : Scan Token.Kind := do
  Scan.need 1
  Scan.skipWhile isSpace
  if name == "YAML".toList then
    let major ← readVersionPart
    Scan.expect '.'
    let minor ← readVersionPart
    return .versionDirective major minor
  else if name == "TAG".toList then
    let handle ← readHandle true
    Scan.need 1
    if !isSpace (← Scan.peek 0) then Scan.fail
    Scan.skipWhile isSpace
    let leading ← readUri true []
    Scan.need 1
    if !isGap (← Scan.peek 0) then Scan.fail
    return .tagDirective (String.ofList handle) (String.ofList leading)
  else Scan.fail

def readDirective : Scan Token := do
  let start ← Scan.mark
  Scan.skip
  Scan.need 1
  let name ← Scan.readWhile isWordChar
  if name.isEmpty || !isGap (← Scan.peek 0) then Scan.fail
  let kind ← readDirectiveBody name
  let stop ← Scan.mark
  Scan.need 1
  Scan.skipWhile isSpace
  if (← Scan.peek 0) == '#' then Scan.skipWhile (!isBreakOrEnd ·)
  if !isBreakOrEnd (← Scan.peek 0) then Scan.fail
  if isBreak (← Scan.peek 0) then
    Scan.need 2
    let _ ← Scan.readBreak
  return ⟨kind, start, stop⟩

/-- Ends the content of a document before a directive or document indicator. -/
def leaveDocument : Lex Unit := do
  closeBlocks (-1)
  dropCandidate
  allowKey false

def openFlow (kind : Token.Kind) : Lex Unit := do
  saveCandidate
  modify fun l => { l with candidate := none, outer := l.candidate :: l.outer }
  allowKey true
  emitChars 1 kind

def closeFlow (kind : Token.Kind) : Lex Unit := do
  dropCandidate
  modify fun l => match l.outer with
    | [] => l
    | k :: outer => { l with candidate := k, outer }
  allowKey false
  emitChars 1 kind

def readFlowEntry : Lex Unit := do
  dropCandidate
  allowKey true
  emitChars 1 .flowEntry

/-- In a block, an indicator that starts an entry is fine only where a key is. -/
def openEntry (kind : Token.Kind) : Lex Unit := do
  if !(← inFlow) then
    if !(← get).keyAllowed then fail
    let m ← scan Scan.mark
    openBlock m.column none kind m

def readBlockEntry : Lex Unit := do
  openEntry .blockSequenceStart
  dropCandidate
  allowKey true
  emitChars 1 .blockEntry

def readKey : Lex Unit := do
  openEntry .blockMappingStart
  dropCandidate
  allowKey (!(← inFlow))
  emitChars 1 .key

def readValue : Lex Unit := do
  match (← get).candidate with
  | some k =>
    insertBefore k.number ⟨.key, k.mark, k.mark⟩
    openBlock k.mark.column (some k.number) .blockMappingStart k.mark
    modify fun l => { l with candidate := none }
    allowKey false
  | none =>
    openEntry .blockMappingStart
    allowKey (!(← inFlow))
  emitChars 1 .value

def readKeyed (s : Scan Token) : Lex Unit := do
  saveCandidate
  allowKey false
  emit (← scan s)

def readBlockScalar (style : Style) : Lex Unit := do
  dropCandidate
  allowKey true
  emit (← scan (Scan.readBlock style (← get).indent))

def readPlainScalar : Lex Unit := do
  saveCandidate
  allowKey false
  let (t, broken) ← scan (Scan.readPlain (← inFlow) ((← get).indent + 1))
  emit t
  if broken then allowKey true

def isIndicator (c : Char) : Bool := "-?:,[]\x7b\x7d#&*!|>'\"%@\x60".toList.contains c

def startsPlain (inFlow : Bool) (c next : Char) : Bool :=
  !(isGap c || isIndicator c) || (c == '-' && !isSpace next) ||
    (!inFlow && (c == '?' || c == ':') && !isGap next)

def readToken : Lex Unit := do
  let inFlow ← inFlow
  let c ← scan (Scan.peek 0)
  let next ← scan (Scan.peek 1)
  if isEnd c then readEnd
  else if (← column) == 0 && c == '%' then
    leaveDocument
    emit (← scan readDirective)
  else if ← scan Scan.atDocumentIndicator then
    leaveDocument
    emitChars 3 (if c == '-' then .documentStart else .documentEnd)
  else if c == '[' then openFlow .flowSequenceStart
  else if c == '\x7b' then openFlow .flowMappingStart
  else if c == ']' then closeFlow .flowSequenceEnd
  else if c == '\x7d' then closeFlow .flowMappingEnd
  else if c == ',' then readFlowEntry
  else if c == '-' && isGap next then readBlockEntry
  else if c == '?' && (inFlow || isGap next) then readKey
  else if c == ':' && (inFlow || isGap next) then readValue
  else if c == '*' then readKeyed (readName .alias)
  else if c == '&' then readKeyed (readName .anchor)
  else if c == '!' then readKeyed (readTag inFlow)
  else if c == '|' && !inFlow then readBlockScalar .literal
  else if c == '>' && !inFlow then readBlockScalar .folded
  else if c == '\'' then readKeyed (Scan.readQuoted .singleQuoted)
  else if c == '"' then readKeyed (Scan.readQuoted .doubleQuoted)
  else if startsPlain inFlow c next then readPlainScalar
  else fail

/-- Fails if more characters were asked for than a broken source has. -/
def checkReach : Lex Unit := do
  let l ← get
  if l.broken && l.size < l.cursor.reach then fail

/-- Reads at least one more token into the queue. -/
def readMore : Lex Unit := do
  scan (Scan.need 1)
  if (← get).started then
    skipGaps (← scan Scan.bound)
    expireCandidates
    closeBlocks (← column)
    scan (Scan.need 4)
    readToken
  else
    let m ← scan Scan.mark
    emit ⟨.streamStart, m, m⟩
    modify fun l => { l with started := true }
  checkReach
  expireCandidates

/-- How many tokens of the queue can turn out to be no key any more. -/
def settled (l : Lexer) : Nat :=
  (l.candidate :: l.outer).foldl
    (fun n k => match k with
      | none => n
      | some k => min n (k.number - l.handedOut))
    l.queue.length

/-- Reads on and hands out settled tokens, until the end or the first error. -/
def handOut : Nat → Lexer → List Token
  | 0, _ => []
  | fuel + 1, l =>
    match readMore l with
    | none => []
    | some ((), l) =>
      let n := settled l
      let rest :=
        if l.ended then []
        else handOut fuel { l with queue := l.queue.drop n, handedOut := l.handedOut + n }
      l.queue.take n ++ rest

end Lex

/-- The tokens of a document up to its end or its first error. The last one is the stream end only
if there is no error. -/
def Token.ofSource (s : Source) : List Token :=
  Lex.handOut (s.chars.length + 3)
    { cursor := Cursor.ofSource s, broken := s.broken, size := s.chars.length }

end Autoscaler.Yaml
