import Autoscaler.Yaml.Event

/-!
# Document trees

The tree of the first document of a stream, with the place of every node. A document that breaks
off has a tree all the same: the nodes that are missing are cut, and a reader that reaches a cut
node meets the fault of the document.
-/

namespace Autoscaler.Yaml

inductive Node where
  | scalar (mark : Mark) (scalar : Scalar)
  | alias (mark : Mark) (number : Nat)
  | sequence (mark : Mark) (items : List Node)
  | mapping (mark : Mark) (entries : List (Node × Node))
  | cut

inductive Fault where
  | malformed
  | unknownAnchor (mark : Mark)
deriving DecidableEq, Repr

structure Document where
  root : Node
  anchored : List (Nat × Node)
  fault : Option Fault
  /-- Whether anything but the end of the stream follows. -/
  continued : Bool
  /-- The number of events that make up the document. -/
  size : Nat

namespace Node

/-- A collection that is still open, with its nodes in reverse order. -/
inductive Frame where
  | sequence (mark : Mark) (items : List Node)
  | mapping (mark : Mark) (entries : List (Node × Node)) (key : Option Node)

/-- A tree while its events come in: the open collections, innermost first, and the whole node. -/
structure Builder where
  frames : List Frame := []
  whole : Option Node := none

/-- Adds a node to a collection. In a mapping keys and values alternate. -/
def Frame.add : Frame → Node → Frame
  | .sequence m items, n => .sequence m (n :: items)
  | .mapping m entries none, n => .mapping m entries (some n)
  | .mapping m entries (some k), n => .mapping m ((k, n) :: entries) none

/-- Adds a node to the innermost open collection. -/
def Builder.add (b : Builder) (n : Node) : Builder :=
  match b.frames with
  | [] => { b with whole := some n }
  | f :: outer => { b with frames := f.add n :: outer }

def Frame.close : Frame → Node
  | .sequence m items => .sequence m items.reverse
  | .mapping m entries _ => .mapping m entries.reverse

def Frame.breakOff : Frame → Node
  | .sequence m items => .sequence m (.cut :: items).reverse
  | .mapping m entries key => .mapping m ((key.getD .cut, .cut) :: entries).reverse

def breakOff : Node → List Frame → Node
  | n, [] => n
  | n, f :: outer => breakOff (f.add n).breakOff outer

/-- What the events of a document contribute to its tree. -/
inductive Part where
  | scalar (scalar : Scalar)
  | alias (number : Nat)
  | sequenceStart
  | mappingStart
  | collectionEnd

/-- Adds the next part of a document. What comes after the whole node is left alone. -/
def Builder.feed (b : Builder) (p : Part × Mark) : Builder :=
  if b.whole.isSome then b
  else match p.1 with
    | .scalar s => b.add (.scalar p.2 s)
    | .alias number => b.add (.alias p.2 number)
    | .sequenceStart => { b with frames := .sequence p.2 [] :: b.frames }
    | .mappingStart => { b with frames := .mapping p.2 [] none :: b.frames }
    | .collectionEnd =>
      match b.frames with
      | [] => b
      | f :: outer => { b with frames := outer }.add f.close

/-- The whole node; whatever is still open breaks off. -/
def Builder.finish (b : Builder) : Node := b.whole.getD (breakOff .cut b.frames)

def ofParts (parts : List (Part × Mark)) : Node := (parts.foldl Builder.feed {}).finish

end Node

namespace Document

/-- The anchors met so far. An anchor's number is the count of the different names before it, so
an anchor that takes a name again may share its number with a later one. -/
structure Anchors where
  numbers : List (String × Nat) := []
  /-- Where the node of each number starts, latest first. -/
  starts : List (Nat × Nat) := []

def Anchors.define (a : Anchors) (name : String) (position : Nat) : Anchors :=
  let number := a.numbers.length
  { numbers := (name, number) :: a.numbers.filter (·.1 != name)
    starts := (number, position) :: a.starts.filter (·.1 != number) }

/-- The events of a document while they are read. -/
structure Reading where
  anchors : Anchors := {}
  parts : List (Node.Part × Mark) := []
  count : Nat := 0

def Reading.define (r : Reading) (anchor : Option String) : Reading :=
  { r with anchors := anchor.elim r.anchors (r.anchors.define · r.count) }

def Reading.add (r : Reading) (p : Node.Part) (m : Mark) : Reading :=
  { r with parts := (p, m) :: r.parts, count := r.count + 1 }

def Reading.finish (r : Reading) (fault : Option Fault) (continued : Bool) : Document :=
  let parts := r.parts.reverse
  { root := Node.ofParts parts
    anchored := r.anchors.starts.map fun (number, position) =>
      (number, Node.ofParts (parts.drop position))
    fault, continued, size := r.count }

/-- Whether the events after a document are just the end of the stream. -/
def endsStream : List Event → Bool
  | e :: _ => e.kind == .streamEnd
  | [] => false

/-- Reads the events of the first document, and gives those after it. A stream without a document
stands for an empty scalar. -/
def read : Reading → List Event → Document × List Event
  | r, [] => (r.finish (some .malformed) false, [])
  | r, e :: rest =>
    match e.kind with
    | .streamStart => read r rest
    | .documentStart => read r rest
    | .documentEnd => (r.finish none (!endsStream rest), rest)
    | .streamEnd =>
      let r := if r.parts.isEmpty then r.add (.scalar ⟨"", .plain, none⟩) e.mark else r
      (r.finish none false, [])
    | .alias name =>
      match r.anchors.numbers.find? (·.1 == name) with
      | some (_, number) => read (r.add (.alias number) e.mark) rest
      | none => (r.finish (some (.unknownAnchor e.mark)) false, [])
    | .scalar anchor s =>
      read ((r.define anchor).add (.scalar s) e.mark) rest
    | .sequenceStart anchor =>
      read ((r.define anchor).add .sequenceStart e.mark) rest
    | .mappingStart anchor =>
      read ((r.define anchor).add .mappingStart e.mark) rest
    | .sequenceEnd => read (r.add .collectionEnd e.mark) rest
    | .mappingEnd => read (r.add .collectionEnd e.mark) rest

/-- The first document of a stream of events. -/
def ofEvents (events : List Event) : Document := (read {} events).1

/-- The documents of a stream of events; `fuel` bounds their number. -/
def listOfEvents : Nat → List Event → List Document
  | 0, _ => []
  | fuel + 1, events =>
    let (d, rest) := read {} events
    d :: if d.continued then listOfEvents fuel rest else []

/-- The first document of a text in bytes. -/
def ofBytes (bytes : List UInt8) : Document := ofEvents (Event.ofBytes bytes)

/-- All documents of a text in bytes. -/
def listOfBytes (bytes : List UInt8) : List Document :=
  let events := Event.ofBytes bytes
  listOfEvents (events.length + 1) events

/-- Aliases may be followed this often where a reader follows all of them. -/
def maxFollowed (d : Document) : Nat := 100 * d.size

/-- A node with an alias replaced by the node that it stands for. Anchored nodes are no aliases. -/
def resolve (d : Document) : Node → Node
  | .alias _ number => ((d.anchored.find? (·.1 == number)).map Prod.snd).getD .cut
  | n => n

end Document
end Autoscaler.Yaml
