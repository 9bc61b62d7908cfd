/-!
# Node groups

A pool of nodes that is scaled as one, as the configuration describes it.
-/

namespace Autoscaler.NodeGroup

/-- One node group. What the configuration leaves out is empty, zero or false. -/
structure Spec where
  name : String := ""
  labelKey : String := ""
  labelValue : String := ""
  cloudProviderGroupName : String := ""
  minNodes : Int64 := 0
  maxNodes : Int64 := 0
  dryMode : Bool := false
  taintUpperCapacityThresholdPercent : Int64 := 0
  taintLowerCapacityThresholdPercent : Int64 := 0
  scaleUpThresholdPercent : Int64 := 0
  slowNodeRemovalRate : Int64 := 0
  fastNodeRemovalRate : Int64 := 0
  softDeleteGracePeriod : String := ""
  hardDeleteGracePeriod : String := ""
  scaleUpCoolDownPeriod : String := ""
deriving DecidableEq, Repr

inductive Field where
  | name
  | labelKey
  | labelValue
  | cloudProviderGroupName
  | minNodes
  | maxNodes
  | dryMode
  | taintUpperCapacityThresholdPercent
  | taintLowerCapacityThresholdPercent
  | scaleUpThresholdPercent
  | slowNodeRemovalRate
  | fastNodeRemovalRate
  | softDeleteGracePeriod
  | hardDeleteGracePeriod
  | scaleUpCoolDownPeriod
deriving DecidableEq, Repr

namespace Field

def key : Field → String
  | name => "name"
  | labelKey => "label_key"
  | labelValue => "label_value"
  | cloudProviderGroupName => "cloud_provider_group_name"
  | minNodes => "min_nodes"
  | maxNodes => "max_nodes"
  | dryMode => "dry_mode"
  | taintUpperCapacityThresholdPercent => "taint_upper_capacity_threshold_percent"
  | taintLowerCapacityThresholdPercent => "taint_lower_capacity_threshold_percent"
  | scaleUpThresholdPercent => "scale_up_threshold_percent"
  | slowNodeRemovalRate => "slow_node_removal_rate"
  | fastNodeRemovalRate => "fast_node_removal_rate"
  | softDeleteGracePeriod => "soft_delete_grace_period"
  | hardDeleteGracePeriod => "hard_delete_grace_period"
  | scaleUpCoolDownPeriod => "scale_up_cool_down_period"

/-- All fields, in the order of the configuration. -/
def all : List Field :=
  [name, labelKey, labelValue, cloudProviderGroupName, minNodes, maxNodes, dryMode,
    taintUpperCapacityThresholdPercent, taintLowerCapacityThresholdPercent,
    scaleUpThresholdPercent, slowNodeRemovalRate, fastNodeRemovalRate, softDeleteGracePeriod,
    hardDeleteGracePeriod, scaleUpCoolDownPeriod]

theorem mem_all (f : Field) : f ∈ all := by cases f <;> decide

def ofKey? (s : String) : Option Field := all.find? (·.key == s)

end Field

namespace Spec

/-- Whether decisions for the group are computed only and not applied: the group or the whole
process may ask for it. -/
def effectiveDryMode (spec : Spec) (globalDryMode : Bool) : Bool := spec.dryMode || globalDryMode

def labelSelector (spec : Spec) : String := spec.labelKey ++ "=" ++ spec.labelValue

end Spec
end Autoscaler.NodeGroup
