import Autoscaler.Log

/-!
# Log filters

A filter lets events through by their origin and level. Of the rules that fit the origin the one
with the longest target decides, and the last of those with the same target.
-/

namespace Autoscaler.Log

/-- A rule: what origins start with, if it is not for all, and the highest level that passes. -/
structure Rule where
  target : Option String := none
  limit : Option Level
  /-- A rule for the inside of a span. Events here stand in no span. -/
  spanned : Bool := false
deriving DecidableEq, Repr

structure Filter where
  rules : List Rule
deriving DecidableEq, Repr

namespace Rule

/-- The level of a word or a number; `none` inside stands for nothing at all. -/
def readLimit? (s : String) : Option (Option Level) :=
  match (Text.readUnsigned 10 s.toList), s.toLower with
  | some 0, _ => some none
  | some 1, _ => some (some .error)
  | some 2, _ => some (some .warn)
  | some 3, _ => some (some .info)
  | some 4, _ => some (some .debug)
  | some 5, _ => some (some .trace)
  | _, "off" => some none
  | _, "error" => some (some .error)
  | _, "warn" => some (some .warn)
  | _, "info" => some (some .info)
  | _, "debug" => some (some .debug)
  | _, "trace" => some (some .trace)
  | _, _ => none

/-- The limit after an equals sign; a missing one lets everything through. -/
def readLimitAfter? (s : List Char) : Option (Option Level) :=
  match s with
  | [] => some (some .trace)
  | ['='] => some (some .trace)
  | '=' :: rest => readLimit? (String.ofList rest)
  | _ => none

def startsTarget (c : Char) : Bool :=
  c.isAlphanum || c == '-' || c == ':' || c == '_' || 127 < c.toNat

/-- Reads a rule: a level, a target, or both with an equals sign between them. A span may stand in
brackets after the target. -/
def read? (s : String) : Option Rule := do
  let cs := s.toList
  let first ← cs.head?
  let target := cs.takeWhile fun c => c != '=' && c != '['
  let named := if target.isEmpty then none else some (String.ofList target)
  match cs.dropWhile fun c => c != '=' && c != '[' with
  | '[' :: rest =>
    let after := rest.dropWhile (· != ']')
    if after.isEmpty then none
    else return { target := named, limit := ← readLimitAfter? (after.drop 1), spanned := true }
  | rest =>
    if !startsTarget first then none
    else match rest, readLimit? s with
      | [], some limit => return { limit }
      | rest, _ => return { target := named, limit := ← readLimitAfter? rest }

def covers (r : Rule) (o : Origin) : Bool :=
  !r.spanned && r.target.all fun t => o.target.startsWith t

def weight (r : Rule) : Nat := (r.target.map (·.utf8ByteSize + 1)).getD 0

end Rule

namespace Filter

/-- Lets all events through up to a level. -/
def upTo (l : Level) : Filter := ⟨[{ limit := some l }]⟩

/-- Reads rules with commas between them. No rules let errors through. -/
def read? (s : String) : Option Filter := do
  let rules ← ((s.splitOn ",").filter (!·.isEmpty)).mapM Rule.read?
  return if rules.isEmpty then upTo .error else ⟨rules⟩

def rule? (f : Filter) (o : Origin) : Option Rule :=
  (f.rules.filter (·.covers o)).foldl
    (fun best r => if best.all fun b => b.weight ≤ r.weight then some r else best) none

/-- Whether an event passes. -/
def passes (f : Filter) (e : Event) : Bool :=
  match (f.rule? e.origin).bind Rule.limit with
  | some limit => e.level.verbosity ≤ limit.verbosity
  | none => false

end Filter
end Autoscaler.Log
