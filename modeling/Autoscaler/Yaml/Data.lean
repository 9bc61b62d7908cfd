import Autoscaler.Yaml.Value

/-!
# Documents as plain data

A document without places and aliases: every scalar has its value, and every alias is replaced by
the node that it stands for. Nodes may be nested only so deep, and aliases may be followed only so
often, since a few of them can stand for very much.
-/

namespace Autoscaler.Yaml

inductive Data where
  | scalar (v : Value)
  | sequence (items : List Data)
  | mapping (entries : List (Data × Data))

namespace Data

/-- Whether two values are the same; a float that is not a number is the same as itself. -/
def sameValue : Value → Value → Bool
  | .null, .null => true
  | .boolean a, .boolean b => a == b
  | .integer a, .integer b => a == b
  | .float a, .float b => a == b
  | .text a, .text b => a == b
  | _, _ => false

mutual

def same : Data → Data → Bool
  | .scalar a, .scalar b => sameValue a b
  | .sequence a, .sequence b => sameItems a b
  | .mapping a, .mapping b => sameEntries a b
  | _, _ => false

def sameItems : List Data → List Data → Bool
  | [], [] => true
  | a :: as, b :: bs => same a b && sameItems as bs
  | _, _ => false

def sameEntries : List (Data × Data) → List (Data × Data) → Bool
  | [], [] => true
  | (k, v) :: as, (l, w) :: bs => same k l && same v w && sameEntries as bs
  | _, _ => false

end

def maxDepth : Nat := 128

abbrev Reading := StateT Nat Option

def fail {α : Type} : Reading α := fun _ => none

def follow (d : Document) (n : Node) : Reading Node := do
  match n with
  | .alias _ _ =>
    match ← get with
    | 0 => fail
    | left + 1 =>
      set left
      return d.resolve n
  | n => return n

mutual

/-- The data of a node in which collections are nested no deeper than `depth`. -/
def readNode (d : Document) (depth : Nat) (n : Node) : Reading Data := do
  match depth, ← follow d n with
  | _, .scalar _ s =>
    match Value.ofScalar s with
    | .ok v => return .scalar v
    | .error _ => fail
  | depth + 1, .sequence _ items => return .sequence (← readItems d depth items)
  | depth + 1, .mapping _ entries => return .mapping (← readEntries d depth [] entries)
  | _, _ => fail
termination_by (depth, 0)

def readItems (d : Document) (depth : Nat) : List Node → Reading (List Data)
  | [] => return []
  | n :: rest => do
    let item ← readNode d depth n
    return item :: (← readItems d depth rest)
termination_by items => (depth, items.length + 1)

/-- Reads entries on from those before, whose keys must not come again. -/
def readEntries (d : Document) (depth : Nat) (before : List (Data × Data)) :
    List (Node × Node) → Reading (List (Data × Data))
  | [] => return before.reverse
  | (k, v) :: rest => do
    let key ← readNode d depth k
    if before.any fun e => same e.1 key then fail
    let value ← readNode d depth v
    readEntries d depth ((key, value) :: before) rest
termination_by entries => (depth, entries.length + 1)

end

/-- The data of a document, unless the text is malformed or the document is too deep. -/
def ofDocument? (d : Document) : Option Data :=
  if d.fault.isSome then none
  else (readNode d maxDepth d.root d.maxFollowed).map Prod.fst

/-- The fields of a mapping whose keys are text; an empty value stands for an empty mapping. -/
def fields? : Data → Option (List (String × Data))
  | .scalar .null => some []
  | .mapping entries => entries.mapM fun (k, v) =>
    match k with
    | .scalar (.text s) => some (s, v)
    | _ => none
  | _ => none

def text? : Data → Option String
  | .scalar (.text s) => some s
  | _ => none

def flag? : Data → Option Bool
  | .scalar (.boolean b) => some b
  | _ => none

/-- The items of a sequence; an empty value stands for an empty sequence. -/
def items? : Data → Option (List Data)
  | .scalar .null => some []
  | .sequence items => some items
  | _ => none

/-- Reads a field that may be missing or empty. -/
def optional {α : Type} (read : Data → Option α) (fields : List (String × Data)) (key : String) :
    Option (Option α) :=
  match (fields.find? (·.1 == key)).map Prod.snd with
  | none => some none
  | some (.scalar .null) => some none
  | some value => (read value).map some

end Data
end Autoscaler.Yaml
