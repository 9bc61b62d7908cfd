import Autoscaler.Binary64.Shortest
import Autoscaler.NodeGroup.Spec
import Autoscaler.Text.Quoted
import Autoscaler.Yaml.Value

/-!
# Node groups from a document

The configuration is a mapping with the one key `node_groups`, whose value lists the groups. Either
all of it is read or the first misfit is reported, with its path and place.
-/

namespace Autoscaler.NodeGroup

open Yaml

inductive Shape where
  | sequence
  | mapping
  | value (v : Value)

inductive Wanted where
  | document
  | groups
  | group
  | fieldName
  | text
  | integer
  | boolean
deriving DecidableEq, Repr

/-- Why a document does not fit. -/
inductive Misfit where
  | unknownField (key : String) (known : List String)
  | duplicateField (key : String)
  | missingField (key : String)
  | wrongType (found : Shape) (wanted : Wanted)
  /-- A core tag asks for a type that the text does not have. -/
  | wrongValue (text : String) (type : CoreType)

inductive Step where
  | field (key : String)
  | item (index : Nat)
  | hidden
deriving DecidableEq, Repr

inductive DecodeError where
  | malformed
  /-- An alias stands for nothing. -/
  | unknownAnchor (mark : Mark)
  | misfit (cause : Misfit) (path : List Step) (mark : Mark)
  | moreDocuments
  | unreadable (reason : String)

namespace Shape

def describe : Shape → String
  | sequence => "sequence"
  | mapping => "map"
  | value .null => "unit value"
  | value (.boolean b) => "boolean \x60" ++ (if b then "true" else "false") ++ "\x60"
  | value (.integer n) =>
    let text := "integer \x60" ++ Text.ofInt n ++ "\x60"
    if -0x8000000000000000 ≤ n ∧ n < 0x10000000000000000 then text
    else if 0 ≤ n then text ++ " as u128" else text ++ " as i128"
  | value (.float x) => "floating point \x60" ++ x.renderPointed ++ "\x60"
  | value (.text s) => "string " ++ Text.quoted s

end Shape

def Wanted.describe : Wanted → String
  | document => "struct NodeGroupDocument"
  | groups => "a sequence"
  | group => "struct NodeGroupSpec"
  | fieldName => "field identifier"
  | text => "a string"
  | integer => "i64"
  | boolean => "a boolean"

def describeType : CoreType → String
  | .null => "null"
  | .boolean => "a boolean"
  | .integer => "an integer"
  | .float => "a float"

def ticked (s : String) : String := "\x60" ++ s ++ "\x60"

def Misfit.message : Misfit → String
  | unknownField key known =>
    let names := ", ".intercalate (known.map ticked)
    "unknown field " ++ ticked key ++ ", expected " ++
      (if known.length = 1 then names else "one of " ++ names)
  | duplicateField key => "duplicate field " ++ ticked key
  | missingField key => "missing field " ++ ticked key
  | wrongType found wanted => "invalid type: " ++ found.describe ++ ", expected " ++ wanted.describe
  | wrongValue text type =>
    "invalid value: string " ++ Text.quoted text ++ ", expected " ++ describeType type

/-- A path as text, such as `node_groups[0].name`. -/
def renderPath : List Step → String
  | [] => ""
  | first :: rest => rest.foldl (fun s step => s ++ later step) (stepText first)
where
  stepText : Step → String
    | .field key => key
    | .item i => "[" ++ Text.ofNat i ++ "]"
    | .hidden => "?"
  later : Step → String
    | .item i => "[" ++ Text.ofNat i ++ "]"
    | step => "." ++ stepText step

/-- A place as text; the very start is not mentioned. -/
def renderMark (m : Mark) : String :=
  if m.line = 0 ∧ m.column = 0 then ""
  else " at line " ++ Text.ofNat (m.line + 1) ++ " column " ++ Text.ofNat (m.column + 1)

/-- Whether an error lies in the text of the document and not in what it says. -/
def DecodeError.isMalformed : DecodeError → Bool
  | malformed => true
  | _ => false

/-- What is wrong, without saying what was to be read. A malformed text is not described. -/
def DecodeError.detail : DecodeError → String
  | malformed => "malformed document"
  | unknownAnchor m => "unknown anchor" ++ renderMark m
  | misfit cause path m =>
    (if path.isEmpty then "" else renderPath path ++ ": ") ++ cause.message ++ renderMark m
  | moreDocuments => "deserializing from YAML containing more than one document is not supported"
  | unreadable reason => reason

def DecodeError.message (e : DecodeError) : String :=
  "Failed to decode node group config: " ++ e.detail

def groupsKey : String := "node_groups"

def faultError (d : Document) : DecodeError :=
  match d.fault with
  | some (.unknownAnchor m) => .unknownAnchor m
  | _ => .malformed

/-- The error for a node that is not what is wanted. -/
def mismatch (d : Document) (path : List Step) (wanted : Wanted) : Node → DecodeError
  | .sequence m _ => .misfit (.wrongType .sequence wanted) path m
  | .mapping m _ => .misfit (.wrongType .mapping wanted) path m
  | .scalar m s =>
    match Value.ofScalar s with
    | .ok v => .misfit (.wrongType (.value v) wanted) path m
    | .error type => .misfit (.wrongValue s.text type) path m
  | .alias _ _ => faultError d
  | .cut => faultError d

def readText (d : Document) (path : List Step) (n : Node) : Except DecodeError String :=
  match d.resolve n with
  | .scalar _ s => .ok s.text
  | n => .error (mismatch d path .text n)

def readInteger (d : Document) (path : List Step) (n : Node) : Except DecodeError Int64 :=
  match d.resolve n with
  | .scalar m s => s.int64?.elim (.error (mismatch d path .integer (.scalar m s))) .ok
  | n => .error (mismatch d path .integer n)

def readBoolean (d : Document) (path : List Step) (n : Node) : Except DecodeError Bool :=
  match d.resolve n with
  | .scalar m s => s.boolean?.elim (.error (mismatch d path .boolean (.scalar m s))) .ok
  | n => .error (mismatch d path .boolean n)

/-- Reads the name of a field, and gives the place where it stands. -/
def readKey (d : Document) (path : List Step) (n : Node) : Except DecodeError (String × Mark) :=
  match d.resolve n with
  | .scalar m s => .ok (s.text, m)
  | n => .error (mismatch d path .fieldName n)

def stepTo (key : Node) (name : String) : Step :=
  match key with
  | .alias _ _ => .hidden
  | _ => .field name

def readField (d : Document) (path : List Step) (spec : Spec) (n : Node) :
    Field → Except DecodeError Spec
  | .name => do return { spec with name := ← readText d path n }
  | .labelKey => do return { spec with labelKey := ← readText d path n }
  | .labelValue => do return { spec with labelValue := ← readText d path n }
  | .cloudProviderGroupName => do
    return { spec with cloudProviderGroupName := ← readText d path n }
  | .minNodes => do return { spec with minNodes := ← readInteger d path n }
  | .maxNodes => do return { spec with maxNodes := ← readInteger d path n }
  | .dryMode => do return { spec with dryMode := ← readBoolean d path n }
  | .taintUpperCapacityThresholdPercent => do
    return { spec with taintUpperCapacityThresholdPercent := ← readInteger d path n }
  | .taintLowerCapacityThresholdPercent => do
    return { spec with taintLowerCapacityThresholdPercent := ← readInteger d path n }
  | .scaleUpThresholdPercent => do
    return { spec with scaleUpThresholdPercent := ← readInteger d path n }
  | .slowNodeRemovalRate => do return { spec with slowNodeRemovalRate := ← readInteger d path n }
  | .fastNodeRemovalRate => do return { spec with fastNodeRemovalRate := ← readInteger d path n }
  | .softDeleteGracePeriod => do return { spec with softDeleteGracePeriod := ← readText d path n }
  | .hardDeleteGracePeriod => do return { spec with hardDeleteGracePeriod := ← readText d path n }
  | .scaleUpCoolDownPeriod => do return { spec with scaleUpCoolDownPeriod := ← readText d path n }

/-- Reads the entries of a group that starts at `start`, on from the fields already `seen`. -/
def readFields (d : Document) (path : List Step) (start : Mark) :
    Spec → List Field → List (Node × Node) → Except DecodeError Spec
  | spec, _, [] => .ok spec
  | spec, seen, (key, value) :: rest => do
    let (name, m) ← readKey d path key
    match Field.ofKey? name with
    | none => .error (.misfit (.unknownField name (Field.all.map Field.key)) path m)
    | some f =>
      if f ∈ seen then .error (.misfit (.duplicateField name) path start)
      else
        let spec ← readField d (path ++ [stepTo key name]) spec value f
        readFields d path start spec (f :: seen) rest

/-- Reads one group: a mapping, or a scalar without text in place of an empty one. -/
def readSpec (d : Document) (path : List Step) (n : Node) : Except DecodeError Spec :=
  match d.resolve n with
  | .mapping m entries => readFields d path m {} [] entries
  | .scalar m s => if s.isBlank then .ok {} else .error (mismatch d path .group (.scalar m s))
  | n => .error (mismatch d path .group n)

def readItems (d : Document) (path : List Step) : Nat → List Node → Except DecodeError (List Spec)
  | _, [] => .ok []
  | index, n :: rest => do
    let spec ← readSpec d (path ++ [.item index]) n
    return spec :: (← readItems d path (index + 1) rest)

/-- Reads the list of groups: a sequence, or a scalar without text in place of an empty one. -/
def readGroups (d : Document) (path : List Step) (n : Node) : Except DecodeError (List Spec) :=
  match d.resolve n with
  | .sequence _ items => readItems d path 0 items
  | .scalar m s => if s.isBlank then .ok [] else .error (mismatch d path .groups (.scalar m s))
  | n => .error (mismatch d path .groups n)

/-- Reads the entries of the configuration, whose list of groups may have been met before. -/
def readEntries (d : Document) (start : Mark) :
    Option (List Spec) → List (Node × Node) → Except DecodeError (List Spec)
  | none, [] => .error (.misfit (.missingField groupsKey) [] start)
  | some specs, [] => .ok specs
  | found, (key, value) :: rest => do
    let (name, m) ← readKey d [] key
    if name ≠ groupsKey then .error (.misfit (.unknownField name [groupsKey]) [] m)
    else if found.isSome then .error (.misfit (.duplicateField name) [] start)
    else
      let specs ← readGroups d [stepTo key name] value
      readEntries d start (some specs) rest

def readRoot (d : Document) : Except DecodeError (List Spec) :=
  match d.resolve d.root with
  | .mapping m entries => readEntries d m none entries
  | .scalar m s =>
    if s.isBlank then .error (.misfit (.missingField groupsKey) [] m)
    else .error (mismatch d [] .document (.scalar m s))
  | n => .error (mismatch d [] .document n)

/-- The node groups of a document. A misfit comes before a fault further on in the text, and both
before a second document. -/
def ofDocument (d : Document) : Except DecodeError (List Spec) := do
  let specs ← readRoot d
  if d.fault.isSome then .error (faultError d)
  else if d.continued then .error .moreDocuments
  else .ok specs

/-- The node groups of a text in bytes. -/
def decode (bytes : List UInt8) : Except DecodeError (List Spec) :=
  ofDocument (Document.ofBytes bytes)

end Autoscaler.NodeGroup
