import Autoscaler.NodeGroup.Decode
import Mathlib.Data.List.Nodup

/-!
# The fields of a node group

A field holds text, a whole number or a flag. Getting and setting one field at a time obeys the laws
of a record, and a group is determined by its fields. So what is proved of fields in general holds
of each of the fifteen.
-/

namespace Autoscaler.NodeGroup

inductive Kind where
  | text
  | integer
  | flag
deriving DecidableEq

namespace Kind

abbrev Value : Kind → Type
  | text => String
  | integer => Int64
  | flag => Bool

/-- What a field that is left out holds. -/
def default : (k : Kind) → k.Value
  | text => ""
  | integer => 0
  | flag => false

end Kind

def Field.kind : Field → Kind
  | name => .text
  | labelKey => .text
  | labelValue => .text
  | cloudProviderGroupName => .text
  | minNodes => .integer
  | maxNodes => .integer
  | dryMode => .flag
  | taintUpperCapacityThresholdPercent => .integer
  | taintLowerCapacityThresholdPercent => .integer
  | scaleUpThresholdPercent => .integer
  | slowNodeRemovalRate => .integer
  | fastNodeRemovalRate => .integer
  | softDeleteGracePeriod => .text
  | hardDeleteGracePeriod => .text
  | scaleUpCoolDownPeriod => .text

namespace Spec

def get (s : Spec) : (f : Field) → f.kind.Value
  | .name => s.name
  | .labelKey => s.labelKey
  | .labelValue => s.labelValue
  | .cloudProviderGroupName => s.cloudProviderGroupName
  | .minNodes => s.minNodes
  | .maxNodes => s.maxNodes
  | .dryMode => s.dryMode
  | .taintUpperCapacityThresholdPercent => s.taintUpperCapacityThresholdPercent
  | .taintLowerCapacityThresholdPercent => s.taintLowerCapacityThresholdPercent
  | .scaleUpThresholdPercent => s.scaleUpThresholdPercent
  | .slowNodeRemovalRate => s.slowNodeRemovalRate
  | .fastNodeRemovalRate => s.fastNodeRemovalRate
  | .softDeleteGracePeriod => s.softDeleteGracePeriod
  | .hardDeleteGracePeriod => s.hardDeleteGracePeriod
  | .scaleUpCoolDownPeriod => s.scaleUpCoolDownPeriod

def set (s : Spec) : (f : Field) → f.kind.Value → Spec
  | .name, v => { s with name := v }
  | .labelKey, v => { s with labelKey := v }
  | .labelValue, v => { s with labelValue := v }
  | .cloudProviderGroupName, v => { s with cloudProviderGroupName := v }
  | .minNodes, v => { s with minNodes := v }
  | .maxNodes, v => { s with maxNodes := v }
  | .dryMode, v => { s with dryMode := v }
  | .taintUpperCapacityThresholdPercent, v =>
    { s with taintUpperCapacityThresholdPercent := v }
  | .taintLowerCapacityThresholdPercent, v =>
    { s with taintLowerCapacityThresholdPercent := v }
  | .scaleUpThresholdPercent, v => { s with scaleUpThresholdPercent := v }
  | .slowNodeRemovalRate, v => { s with slowNodeRemovalRate := v }
  | .fastNodeRemovalRate, v => { s with fastNodeRemovalRate := v }
  | .softDeleteGracePeriod, v => { s with softDeleteGracePeriod := v }
  | .hardDeleteGracePeriod, v => { s with hardDeleteGracePeriod := v }
  | .scaleUpCoolDownPeriod, v => { s with scaleUpCoolDownPeriod := v }

variable {s t : Spec} {f g : Field}

@[simp] lemma get_set_self (v : f.kind.Value) : (s.set f v).get f = v := by
  cases f <;> rfl

lemma get_set_ne (h : g ≠ f) (v : f.kind.Value) : (s.set f v).get g = s.get g := by
  cases f <;> cases g <;> first | rfl | exact absurd rfl h

lemma ext_get (h : ∀ f, s.get f = t.get f) : s = t := by
  cases s
  cases t
  simp only [mk.injEq]
  exact ⟨h .name, h .labelKey, h .labelValue, h .cloudProviderGroupName, h .minNodes, h .maxNodes,
    h .dryMode, h .taintUpperCapacityThresholdPercent, h .taintLowerCapacityThresholdPercent,
    h .scaleUpThresholdPercent, h .slowNodeRemovalRate, h .fastNodeRemovalRate,
    h .softDeleteGracePeriod, h .hardDeleteGracePeriod, h .scaleUpCoolDownPeriod⟩

lemma get_empty (f : Field) : ({} : Spec).get f = f.kind.default := by
  cases f <;> rfl

/-- A field with a value for it. -/
abbrev Entry := (f : Field) × f.kind.Value

def setAll (s : Spec) (entries : List Entry) : Spec :=
  entries.foldl (fun s e => s.set e.1 e.2) s

lemma get_setAll_of_notMem {entries : List Entry} (h : f ∉ entries.map Sigma.fst) :
    (s.setAll entries).get f = s.get f := by
  induction entries generalizing s with
  | nil => rfl
  | cons e rest ih =>
    rw [List.map_cons, List.mem_cons, not_or] at h
    have hrest := ih (s := s.set e.1 e.2) h.2
    rw [get_set_ne h.1] at hrest
    exact hrest

/-- If no field comes twice, each holds what it was set to. -/
lemma get_setAll_of_mem {entries : List Entry} (hnodup : (entries.map Sigma.fst).Nodup)
    {v : f.kind.Value} (h : ⟨f, v⟩ ∈ entries) : (s.setAll entries).get f = v := by
  induction entries generalizing s with
  | nil => cases h
  | cons e rest ih =>
    obtain ⟨hnot, hrest⟩ := List.nodup_cons.mp hnodup
    rcases List.mem_cons.mp h with rfl | hmem
    · have hget := get_setAll_of_notMem (s := s.set f v) hnot
      rw [get_set_self] at hget
      exact hget
    · exact ih hrest hmem

end Spec

namespace Field

lemma key_injective : Function.Injective key := by
  intro f g h
  have hnodup : (all.map key).Nodup := by decide
  exact List.inj_on_of_nodup_map hnodup (mem_all f) (mem_all g) h

lemma ofKey?_eq_some {text : String} {f : Field} : ofKey? text = some f ↔ f.key = text := by
  constructor
  · intro h
    simpa using List.find?_some h
  · rintro rfl
    cases f <;> rfl

end Field
end Autoscaler.NodeGroup
