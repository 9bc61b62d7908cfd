import Autoscaler.Yaml.Value
import Mathlib.Data.List.Forall2

/-!
# Documents as trees

A document without places, in which every alias is replaced by the node that it stands for, is a
tree. The same tree can be written in many ways: a node of a document stands for a tree if it
resolves to the head of the tree and its children stand for the parts.
-/

namespace Autoscaler.Yaml

inductive Tree where
  | scalar (s : Scalar)
  | sequence (items : List Tree)
  | mapping (entries : List (Tree × Tree))

namespace Tree

def text? : Tree → Option String
  | scalar s => some s.text
  | _ => none

/-- The entries of a mapping. A plain scalar without text stands for an empty one. -/
def entries? : Tree → Option (List (Tree × Tree))
  | scalar s => if s.isBlank then some [] else none
  | sequence _ => none
  | mapping entries => some entries

/-- The items of a sequence. A plain scalar without text stands for an empty one. -/
def items? : Tree → Option (List Tree)
  | scalar s => if s.isBlank then some [] else none
  | sequence items => some items
  | mapping _ => none

end Tree

/-- A node of a document stands for a tree. -/
inductive Stands (d : Document) : Node → Tree → Prop
  | scalar {n : Node} {m : Mark} {s : Scalar} (h : d.resolve n = .scalar m s) :
    Stands d n (.scalar s)
  | sequence {n : Node} {m : Mark} {items : List Node} {trees : List Tree}
    (h : d.resolve n = .sequence m items) (hitems : List.Forall₂ (Stands d) items trees) :
    Stands d n (.sequence trees)
  -- Keys and values stand in lists of their own: the relation can recur under `Forall₂` only bare.
  | mapping {n : Node} {m : Mark} {entries : List (Node × Node)} {trees : List (Tree × Tree)}
    (h : d.resolve n = .mapping m entries)
    (hkeys : List.Forall₂ (Stands d) (entries.map Prod.fst) (trees.map Prod.fst))
    (hvalues : List.Forall₂ (Stands d) (entries.map Prod.snd) (trees.map Prod.snd)) :
    Stands d n (.mapping trees)

/-- A document is whole and the only one of its stream, and it stands for a tree. -/
structure Document.Holds (d : Document) (t : Tree) : Prop where
  whole : d.fault = none
  single : d.continued = false
  root : Stands d d.root t

/-- The key and the value of an entry stand for those of a tree. -/
def StandsEntry (d : Document) (e : Node × Node) (t : Tree × Tree) : Prop :=
  Stands d e.1 t.1 ∧ Stands d e.2 t.2

section Inversion

variable {d : Document} {n : Node}

lemma standsEntries_iff {entries : List (Node × Node)} {trees : List (Tree × Tree)} :
    List.Forall₂ (StandsEntry d) entries trees ↔
      List.Forall₂ (Stands d) (entries.map Prod.fst) (trees.map Prod.fst) ∧
      List.Forall₂ (Stands d) (entries.map Prod.snd) (trees.map Prod.snd) := by
  induction entries generalizing trees with
  | nil => cases trees <;> simp
  | cons e rest ih =>
    cases trees with
    | nil => simp
    | cons t trees =>
      simp only [List.map_cons, List.forall₂_cons, ih, StandsEntry]
      tauto

lemma stands_scalar_iff {s : Scalar} :
    Stands d n (.scalar s) ↔ ∃ m, d.resolve n = .scalar m s :=
  ⟨fun | .scalar h => ⟨_, h⟩, fun ⟨_, h⟩ => .scalar h⟩

lemma stands_sequence_iff {trees : List Tree} :
    Stands d n (.sequence trees) ↔
      ∃ m items, d.resolve n = .sequence m items ∧ List.Forall₂ (Stands d) items trees :=
  ⟨fun | .sequence h hitems => ⟨_, _, h, hitems⟩, fun ⟨_, _, h, hitems⟩ => .sequence h hitems⟩

lemma stands_mapping_iff {trees : List (Tree × Tree)} :
    Stands d n (.mapping trees) ↔
      ∃ m entries, d.resolve n = .mapping m entries ∧
        List.Forall₂ (StandsEntry d) entries trees := by
  constructor
  · rintro (_ | _ | ⟨h, hkeys, hvalues⟩)
    exact ⟨_, _, h, standsEntries_iff.mpr ⟨hkeys, hvalues⟩⟩
  · rintro ⟨m, entries, h, hentries⟩
    obtain ⟨hkeys, hvalues⟩ := standsEntries_iff.mp hentries
    exact .mapping h hkeys hvalues

end Inversion

/-! ### Deciding what a node stands for -/

namespace Document

mutual

/-- Whether a node stands for a tree, by recursion on the tree. -/
def fits (d : Document) (n : Node) : Tree → Bool
  | .scalar s =>
    match d.resolve n with
    | .scalar _ found => found == s
    | _ => false
  | .sequence trees =>
    match d.resolve n with
    | .sequence _ items => d.fitsAll items trees
    | _ => false
  | .mapping trees =>
    match d.resolve n with
    | .mapping _ entries => d.fitsEntries entries trees
    | _ => false
termination_by structural t => t

def fitsAll (d : Document) : List Node → List Tree → Bool
  | [], [] => true
  | n :: items, t :: trees => d.fits n t && d.fitsAll items trees
  | _, _ => false
termination_by structural _ trees => trees

def fitsEntries (d : Document) : List (Node × Node) → List (Tree × Tree) → Bool
  | [], [] => true
  | e :: entries, t :: trees => d.fitsEntry e t && d.fitsEntries entries trees
  | _, _ => false
termination_by structural _ trees => trees

def fitsEntry (d : Document) : Node × Node → Tree × Tree → Bool
  | e, (key, value) => d.fits e.1 key && d.fits e.2 value
termination_by structural _ t => t

end

mutual

theorem fits_iff (d : Document) (n : Node) : (t : Tree) → (d.fits n t ↔ Stands d n t)
  | .scalar s => by
    rw [stands_scalar_iff]
    cases hresolve : d.resolve n <;> simp [fits, hresolve]
  | .sequence trees => by
    rw [stands_sequence_iff]
    cases hresolve : d.resolve n <;> simp [fits, hresolve, d.fitsAll_iff _ trees]
  | .mapping trees => by
    rw [stands_mapping_iff]
    cases hresolve : d.resolve n <;> simp [fits, hresolve, d.fitsEntries_iff _ trees]

theorem fitsAll_iff (d : Document) : (items : List Node) → (trees : List Tree) →
    (d.fitsAll items trees ↔ List.Forall₂ (Stands d) items trees)
  | [], [] => by simp [fitsAll]
  | [], _ :: _ => by simp [fitsAll]
  | _ :: _, [] => by simp [fitsAll]
  | n :: items, t :: trees => by
    simp only [fitsAll, Bool.and_eq_true, List.forall₂_cons, d.fits_iff n t,
      d.fitsAll_iff items trees]

theorem fitsEntries_iff (d : Document) :
    (entries : List (Node × Node)) → (trees : List (Tree × Tree)) →
      (d.fitsEntries entries trees ↔ List.Forall₂ (StandsEntry d) entries trees)
  | [], [] => by simp [fitsEntries]
  | [], _ :: _ => by simp [fitsEntries]
  | _ :: _, [] => by simp [fitsEntries]
  | e :: entries, (key, value) :: trees => by
    simp only [fitsEntries, fitsEntry, Bool.and_eq_true, List.forall₂_cons, StandsEntry,
      d.fits_iff e.1 key, d.fits_iff e.2 value, d.fitsEntries_iff entries trees]

end

instance decidableStands (d : Document) (n : Node) (t : Tree) : Decidable (Stands d n t) :=
  decidable_of_iff (d.fits n t) (d.fits_iff n t)

instance decidableHolds (d : Document) (t : Tree) : Decidable (d.Holds t) :=
  decidable_of_iff (d.fault = none ∧ d.continued = false ∧ Stands d d.root t)
    ⟨fun ⟨hwhole, hsingle, hroot⟩ => ⟨hwhole, hsingle, hroot⟩,
      fun ⟨hwhole, hsingle, hroot⟩ => ⟨hwhole, hsingle, hroot⟩⟩

end Document
end Autoscaler.Yaml
