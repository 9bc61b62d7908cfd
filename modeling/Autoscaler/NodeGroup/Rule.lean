import Autoscaler.Duration
import Autoscaler.NodeGroup.Spec

/-!
# Rules for node groups

The rules that a node group has to keep, in a fixed order. Each is checked on its own, so a group
is reported with all rules that it violates.
-/

namespace Autoscaler.NodeGroup

inductive Violation where
  | emptyField (field : Field)
  | notPositive (field : Field) (value : Int64)
  | negativeMinNodes (value : Int64)
  | maxBelowMin (min max : Int64)
  | percentOutOfRange (field : Field) (value : Int64)
  | taintThresholdOrder (lower upper : Int64)
  | scaleUpThresholdOrder (upper scaleUp : Int64)
  | removalRateOrder (slow fast : Int64)
  | invalidDuration (field : Field) (value : String)
  | gracePeriodOrder (soft hard : String)
  | duplicateName (name : String) (firstIndex : Nat)
deriving DecidableEq, Repr

namespace Violation

def int (n : Int64) : String := Text.ofInt n.toInt

def message : Violation → String
  | emptyField f => f.key ++ " cannot be empty"
  | notPositive f v => f.key ++ " must be larger than 0, got " ++ int v
  | negativeMinNodes v => "min_nodes must be >= 0, got " ++ int v
  | maxBelowMin min max =>
    "max_nodes (" ++ int max ++ ") must not be smaller than min_nodes (" ++ int min ++ ")"
  | percentOutOfRange f v => f.key ++ " must be between 1 and 100, got " ++ int v
  | taintThresholdOrder lower upper =>
    "taint_lower_capacity_threshold_percent (" ++ int lower ++
      ") must be lower than taint_upper_capacity_threshold_percent (" ++ int upper ++ ")"
  | scaleUpThresholdOrder upper scaleUp =>
    "scale_up_threshold_percent (" ++ int scaleUp ++
      ") must be higher than taint_upper_capacity_threshold_percent (" ++ int upper ++ ")"
  | removalRateOrder slow fast =>
    "slow_node_removal_rate (" ++ int slow ++ ") must not exceed fast_node_removal_rate (" ++
      int fast ++ ")"
  | invalidDuration f v =>
    f.key ++ " invalid duration '" ++ v ++
      "': expected a positive duration such as '30s', '1m30s' or '1h'"
  | gracePeriodOrder soft hard =>
    "soft_delete_grace_period (" ++ soft ++ ") must be less than hard_delete_grace_period (" ++
      hard ++ ")"
  | duplicateName name first =>
    "name '" ++ name ++ "' is already used by node group #" ++ Text.ofNat first

end Violation

/-- A rule gives the violation of a group that does not keep it. -/
abbrev Rule := Spec → Option Violation

namespace Rule

/-- A field of text must not be empty. -/
def nonEmpty (field : Field) (text : Spec → String) : Rule := fun s =>
  if (text s).isEmpty then some (.emptyField field) else none

/-- A field must be above zero. -/
def positive (field : Field) (value : Spec → Int64) : Rule := fun s =>
  if 0 < value s then none else some (.notPositive field (value s))

/-- A field must be a percentage. -/
def percent (field : Field) (value : Spec → Int64) : Rule := fun s =>
  if 1 ≤ value s ∧ value s ≤ 100 then none else some (.percentOutOfRange field (value s))

def minNodes : Rule := fun s => if 0 ≤ s.minNodes then none else some (.negativeMinNodes s.minNodes)

def bounds : Rule := fun s =>
  if s.minNodes ≤ s.maxNodes then none else some (.maxBelowMin s.minNodes s.maxNodes)

def taintThresholds : Rule := fun s =>
  let lower := s.taintLowerCapacityThresholdPercent
  let upper := s.taintUpperCapacityThresholdPercent
  if lower < upper then none else some (.taintThresholdOrder lower upper)

def scaleUpThreshold : Rule := fun s =>
  let upper := s.taintUpperCapacityThresholdPercent
  let scaleUp := s.scaleUpThresholdPercent
  if upper < scaleUp then none else some (.scaleUpThresholdOrder upper scaleUp)

def removalRates : Rule := fun s =>
  if s.slowNodeRemovalRate ≤ s.fastNodeRemovalRate then none
  else some (.removalRateOrder s.slowNodeRemovalRate s.fastNodeRemovalRate)

/-- A field must be a duration. An empty one is only reported as empty. -/
def period (field : Field) (text : Spec → String) : Rule := fun s =>
  if (text s).isEmpty then some (.emptyField field)
  else if (Duration.parse? (text s)).isSome then none
  else some (.invalidDuration field (text s))

/-- The soft grace period ends before the hard one. Nothing is said unless both are durations. -/
def gracePeriods : Rule := fun s =>
  match Duration.parse? s.softDeleteGracePeriod, Duration.parse? s.hardDeleteGracePeriod with
  | some soft, some hard =>
    if soft.nanos < hard.nanos then none
    else some (.gracePeriodOrder s.softDeleteGracePeriod s.hardDeleteGracePeriod)
  | _, _ => none

/-- All rules for a single group, in the order of reports. -/
def all : List Rule := [
  nonEmpty .name Spec.name,
  nonEmpty .labelKey Spec.labelKey,
  nonEmpty .labelValue Spec.labelValue,
  nonEmpty .cloudProviderGroupName Spec.cloudProviderGroupName,
  minNodes,
  positive .maxNodes Spec.maxNodes,
  bounds,
  percent .taintUpperCapacityThresholdPercent Spec.taintUpperCapacityThresholdPercent,
  percent .taintLowerCapacityThresholdPercent Spec.taintLowerCapacityThresholdPercent,
  percent .scaleUpThresholdPercent Spec.scaleUpThresholdPercent,
  taintThresholds,
  scaleUpThreshold,
  positive .slowNodeRemovalRate Spec.slowNodeRemovalRate,
  removalRates,
  period .softDeleteGracePeriod Spec.softDeleteGracePeriod,
  period .hardDeleteGracePeriod Spec.hardDeleteGracePeriod,
  period .scaleUpCoolDownPeriod Spec.scaleUpCoolDownPeriod,
  gracePeriods]

end Rule

def Spec.violations (s : Spec) : List Violation := Rule.all.filterMap (· s)

end Autoscaler.NodeGroup
