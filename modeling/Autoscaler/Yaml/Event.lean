import Autoscaler.Yaml.Token.Lexer

/-!
# Events

The structure of a document in reading order: where nodes start and end, without the indicators
that show it. A grammar turns tokens into events one at a time, so that what comes before an error
is known.
-/

namespace Autoscaler.Yaml

/-- A scalar with its tag, if one is written and not the empty one. -/
structure Scalar where
  text : String
  style : Style
  tag : Option String
deriving DecidableEq, Repr

inductive Event.Kind where
  | streamStart
  | streamEnd
  | documentStart
  | documentEnd
  | alias (name : String)
  | scalar (anchor : Option String) (scalar : Scalar)
  | sequenceStart (anchor : Option String)
  | sequenceEnd
  | mappingStart (anchor : Option String)
  | mappingEnd
deriving DecidableEq, Repr

/-- An event at the place where its text starts. -/
structure Event where
  kind : Event.Kind
  mark : Mark
deriving DecidableEq, Repr

inductive Expected where
  | streamStart
  | firstDocument
  | document
  | documentContent
  | documentEnd
  | blockNode
  | blockSequenceFirst
  | blockSequenceEntry
  | indentlessEntry
  | blockMappingFirst
  | blockMappingKey
  | blockMappingValue
  | flowSequenceFirst
  | flowSequenceEntry
  | flowPairKey
  | flowPairValue
  | flowPairEnd
  | flowMappingFirst
  | flowMappingKey
  | flowMappingValue
  | flowMappingEmptyValue
  | nothing
deriving DecidableEq, Repr

structure Grammar where
  tokens : List Token
  expected : Expected := .streamStart
  later : List Expected := []
  handles : List (String × String) := []

/-- A step of the grammar, which fails at a token that does not fit or where the tokens end. -/
abbrev Parse := StateT Grammar Option

namespace Parse

def fail {α : Type} : Parse α := fun _ => none

def peek : Parse Token := fun g => g.tokens.head?.map fun t => (t, g)

def skip : Parse Unit := modify fun g => { g with tokens := g.tokens.drop 1 }

/-- The next token, without the current one. -/
def skipPeek : Parse Token := do
  skip
  peek

def expect (e : Expected) : Parse Unit := modify fun g => { g with expected := e }

/-- Expects `e` after the node that comes next. -/
def push (e : Expected) : Parse Unit := modify fun g => { g with later := e :: g.later }

def pop : Parse Unit := modify fun g =>
  { g with expected := g.later.headD .nothing, later := g.later.drop 1 }

/-- A plain scalar without text, for a node that is left out. -/
def emptyScalar (m : Mark) : Event := ⟨.scalar none ⟨"", .plain, none⟩, m⟩

def resolveTag (handle suffix : String) : Parse String := do
  if handle.isEmpty then return suffix
  match (← get).handles.find? (·.1 == handle) with
  | some (_, leading) => return leading ++ suffix
  | none => fail

/-- The anchor and tag in front of a node, in either order, and the place of the first. -/
structure Properties where
  anchor : Option String := none
  tag : Option String := none
  start : Mark

def readAnchor : Parse (Option String) := do
  match (← peek).kind with
  | .anchor name =>
    skip
    return some name
  | _ => return none

def readTag : Parse (Option (String × String)) := do
  match (← peek).kind with
  | .tag handle suffix =>
    skip
    return some (handle, suffix)
  | _ => return none

def readProperties : Parse Properties := do
  let start := (← peek).start
  let early ← readAnchor
  let tag ← readTag
  let anchor ← if early.isNone && tag.isSome then readAnchor else pure early
  let tag ← match tag with
    | none => pure none
    | some (handle, suffix) => some <$> resolveTag handle suffix
  return { anchor, tag, start }

/-- Reads a node or its start. Block collections are fine in a block only, and a sequence without
indentation of its own only in a mapping. -/
def readNode (block indentless : Bool) : Parse Event := do
  let first ← peek
  if let .alias name := first.kind then
    pop
    skip
    return ⟨.alias name, first.start⟩
  let p ← readProperties
  let t ← peek
  match t.kind with
  | .scalar text style =>
    pop
    skip
    return ⟨.scalar p.anchor ⟨text, style, p.tag.filter (· != "!")⟩, p.start⟩
  | .flowSequenceStart =>
    expect .flowSequenceFirst
    return ⟨.sequenceStart p.anchor, p.start⟩
  | .flowMappingStart =>
    expect .flowMappingFirst
    return ⟨.mappingStart p.anchor, p.start⟩
  | kind =>
    if indentless && kind == .blockEntry then
      expect .indentlessEntry
      return ⟨.sequenceStart p.anchor, p.start⟩
    else if block && kind == .blockSequenceStart then
      expect .blockSequenceFirst
      return ⟨.sequenceStart p.anchor, p.start⟩
    else if block && kind == .blockMappingStart then
      expect .blockMappingFirst
      return ⟨.mappingStart p.anchor, p.start⟩
    else if p.anchor.isSome || p.tag.isSome then
      pop
      return ⟨.scalar p.anchor ⟨"", .plain, p.tag⟩, p.start⟩
    else fail

/-- A node after which `next` is expected, or an empty one in front of the tokens `without`. -/
def readNodeUnless (without : List Token.Kind) (next : Expected) (block indentless : Bool)
    (m : Mark) : Parse Event := do
  if without.contains (← peek).kind then
    expect next
    return emptyScalar m
  else
    push next
    readNode block indentless

/-- Reads directives: one version at most, and no handle twice. -/
def readDirectives : Nat → Option (Nat × Nat) → List (String × String) →
    Parse (List (String × String))
  | 0, _, handles => return handles
  | fuel + 1, version, handles => do
    match (← peek).kind with
    | .versionDirective major minor =>
      if version.isSome then fail
      if major != 1 || (minor != 1 && minor != 2) then fail
      skip
      readDirectives fuel (some (major, minor)) handles
    | .tagDirective handle leading =>
      if handles.any (·.1 == handle) then fail
      skip
      readDirectives fuel version (handles ++ [(handle, leading)])
    | _ => return handles

def defaultHandles : List (String × String) := [("!", "!"), ("!!", "tag:yaml.org,2002:")]

def skipDocumentEnds : Nat → Parse Unit
  | 0 => return ()
  | fuel + 1 => do
    if (← peek).kind == .documentEnd then
      skip
      skipDocumentEnds fuel

/-- Whether a token starts a document with its indicator, or ends the stream. -/
def opensDocument : Token.Kind → Bool
  | .versionDirective _ _ => true
  | .tagDirective _ _ => true
  | .documentStart => true
  | .streamEnd => true
  | _ => false

def readDocumentStart (first : Bool) : Parse Event := do
  let bound := (← get).tokens.length
  if !first then skipDocumentEnds bound
  let t ← peek
  if first && !opensDocument t.kind then
    modify fun g => { g with handles := defaultHandles }
    push .documentEnd
    expect .blockNode
    return ⟨.documentStart, t.start⟩
  else if t.kind == .streamEnd then
    expect .nothing
    skip
    return ⟨.streamEnd, t.start⟩
  else
    let handles ← readDirectives bound none []
    modify fun g => { g with handles := handles ++ defaultHandles }
    if (← peek).kind != .documentStart then fail
    push .documentEnd
    expect .documentContent
    skip
    return ⟨.documentStart, t.start⟩

def readDocumentContent : Parse Event := do
  let t ← peek
  if opensDocument t.kind || t.kind == .documentEnd then
    pop
    return emptyScalar t.start
  else readNode true false

def readDocumentEnd : Parse Event := do
  let t ← peek
  if t.kind == .documentEnd then skip
  modify fun g => { g with handles := [] }
  expect .document
  return ⟨.documentEnd, t.start⟩

def endCollection (kind : Event.Kind) : Parse Event := do
  let t ← peek
  pop
  skip
  return ⟨kind, t.start⟩

def readBlockSequenceEntry : Parse Event := do
  let t ← peek
  match t.kind with
  | .blockEntry =>
    skip
    readNodeUnless [.blockEntry, .blockEnd] .blockSequenceEntry true false t.stop
  | .blockEnd => endCollection .sequenceEnd
  | _ => fail

def readIndentlessEntry : Parse Event := do
  let t ← peek
  if t.kind == .blockEntry then
    skip
    readNodeUnless [.blockEntry, .key, .value, .blockEnd] .indentlessEntry true false t.stop
  else
    pop
    return ⟨.sequenceEnd, t.start⟩

def readBlockMappingKey : Parse Event := do
  let t ← peek
  match t.kind with
  | .key =>
    skip
    readNodeUnless [.key, .value, .blockEnd] .blockMappingValue true true t.stop
  | .blockEnd => endCollection .mappingEnd
  | _ => fail

def readBlockMappingValue : Parse Event := do
  let t ← peek
  if t.kind == .value then
    skip
    readNodeUnless [.key, .value, .blockEnd] .blockMappingKey true true t.stop
  else
    expect .blockMappingKey
    return emptyScalar t.start

def readFlowSequenceEntry (first : Bool) : Parse Event := do
  if (← peek).kind == .flowSequenceEnd then endCollection .sequenceEnd
  else
    if !first then
      if (← peek).kind != .flowEntry then fail
      skip
    let t ← peek
    match t.kind with
    | .key =>
      expect .flowPairKey
      skip
      return ⟨.mappingStart none, t.start⟩
    | .flowSequenceEnd => endCollection .sequenceEnd
    | _ =>
      push .flowSequenceEntry
      readNode false false

/-- The key of a single pair. Where it is left out, the token in its place is taken too. -/
def readFlowPairKey : Parse Event := do
  let t ← peek
  if [.value, .flowEntry, .flowSequenceEnd].contains t.kind then
    skip
    expect .flowPairValue
    return emptyScalar t.stop
  else
    push .flowPairValue
    readNode false false

def readFlowPairValue : Parse Event := do
  if (← peek).kind == .value then
    let t ← skipPeek
    readNodeUnless [.flowEntry, .flowSequenceEnd] .flowPairEnd false false t.start
  else
    expect .flowPairEnd
    return emptyScalar (← peek).start

def readFlowPairEnd : Parse Event := do
  let t ← peek
  expect .flowSequenceEntry
  return ⟨.mappingEnd, t.start⟩

def readFlowMappingKey (first : Bool) : Parse Event := do
  if (← peek).kind == .flowMappingEnd then endCollection .mappingEnd
  else
    if !first then
      if (← peek).kind != .flowEntry then fail
      skip
    match (← peek).kind with
    | .key =>
      let t ← skipPeek
      readNodeUnless [.value, .flowEntry, .flowMappingEnd] .flowMappingValue false false t.start
    | .flowMappingEnd => endCollection .mappingEnd
    | _ =>
      push .flowMappingEmptyValue
      readNode false false

def readFlowMappingValue : Parse Event := do
  let t ← peek
  if t.kind == .value then
    let t ← skipPeek
    readNodeUnless [.flowEntry, .flowMappingEnd] .flowMappingKey false false t.start
  else
    expect .flowMappingKey
    return emptyScalar t.start

def readFlowMappingEmptyValue : Parse Event := do
  let t ← peek
  expect .flowMappingKey
  return emptyScalar t.start

/-- Reads the next event. -/
def readEvent : Parse Event := do
  match (← get).expected with
  | .streamStart =>
    let t ← peek
    skip
    expect .firstDocument
    return ⟨.streamStart, t.start⟩
  | .firstDocument => readDocumentStart true
  | .document => readDocumentStart false
  | .documentContent => readDocumentContent
  | .documentEnd => readDocumentEnd
  | .blockNode => readNode true false
  | .blockSequenceFirst =>
    skip
    readBlockSequenceEntry
  | .blockSequenceEntry => readBlockSequenceEntry
  | .indentlessEntry => readIndentlessEntry
  | .blockMappingFirst =>
    skip
    readBlockMappingKey
  | .blockMappingKey => readBlockMappingKey
  | .blockMappingValue => readBlockMappingValue
  | .flowSequenceFirst =>
    skip
    readFlowSequenceEntry true
  | .flowSequenceEntry => readFlowSequenceEntry false
  | .flowPairKey => readFlowPairKey
  | .flowPairValue => readFlowPairValue
  | .flowPairEnd => readFlowPairEnd
  | .flowMappingFirst =>
    skip
    readFlowMappingKey true
  | .flowMappingKey => readFlowMappingKey false
  | .flowMappingValue => readFlowMappingValue
  | .flowMappingEmptyValue => readFlowMappingEmptyValue
  | .nothing => fail

/-- Reads events up to the stream end or the first error. -/
def readEvents : Nat → Grammar → List Event
  | 0, _ => []
  | fuel + 1, g =>
    match readEvent g with
    | none => []
    | some (e, g) => e :: readEvents fuel g

end Parse

/-- The events of a document up to its end or its first error. The last one is the stream end only
if there is no error. Each token gives rise to a handful of events. -/
def Event.ofTokens (tokens : List Token) : List Event :=
  Parse.readEvents (8 * tokens.length + 8) { tokens }

/-- The events of the document that bytes encode. -/
def Event.ofBytes (bytes : List UInt8) : List Event :=
  Event.ofTokens (Token.ofSource (Source.ofBytes bytes))

end Autoscaler.Yaml
