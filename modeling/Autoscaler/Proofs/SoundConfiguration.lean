import Autoscaler.Daemon.Launch
import Autoscaler.Proofs.MetricsLaws
import Autoscaler.Proofs.StartupGate

/-!
# What the control loop may rely on

A group that keeps all rules is sound: it is named and labelled, its numbers are in range and in
order, and its periods are durations. A startup that succeeds hands on an interval that is not zero,
groups that are all sound, and names that tell their metrics apart.
-/

namespace Autoscaler.NodeGroup

/-- What holds of a group that may be scaled. -/
structure Spec.Sound (s : Spec) : Prop where
  named : s.name ≠ ""
  labelled : s.labelKey ≠ "" ∧ s.labelValue ≠ ""
  backed : s.cloudProviderGroupName ≠ ""
  bounded : 0 ≤ s.minNodes ∧ s.minNodes ≤ s.maxNodes ∧ 1 ≤ s.maxNodes
  thresholds : 1 ≤ s.taintLowerCapacityThresholdPercent ∧
    s.taintLowerCapacityThresholdPercent < s.taintUpperCapacityThresholdPercent ∧
    s.taintUpperCapacityThresholdPercent < s.scaleUpThresholdPercent ∧
    s.scaleUpThresholdPercent ≤ 100
  rates : 1 ≤ s.slowNodeRemovalRate ∧ s.slowNodeRemovalRate ≤ s.fastNodeRemovalRate
  periods : ∃ soft hard coolDown, Duration.parse? s.softDeleteGracePeriod = some soft ∧
    Duration.parse? s.hardDeleteGracePeriod = some hard ∧
    Duration.parse? s.scaleUpCoolDownPeriod = some coolDown ∧ soft.nanos < hard.nanos

namespace Rule

variable {field : Field} {text : Spec → String} {value : Spec → Int64} {s : Spec}

lemma nonEmpty_eq_none : nonEmpty field text s = none ↔ text s ≠ "" := by
  simp [nonEmpty]

lemma positive_eq_none : positive field value s = none ↔ 0 < value s := by
  simp [positive]

lemma percent_eq_none : percent field value s = none ↔ 1 ≤ value s ∧ value s ≤ 100 := by
  simp [percent]

lemma minNodes_eq_none : minNodes s = none ↔ 0 ≤ s.minNodes := by
  simp [minNodes]

lemma bounds_eq_none : bounds s = none ↔ s.minNodes ≤ s.maxNodes := by
  simp [bounds]

lemma taintThresholds_eq_none : taintThresholds s = none ↔
    s.taintLowerCapacityThresholdPercent < s.taintUpperCapacityThresholdPercent := by
  simp [taintThresholds]

lemma scaleUpThreshold_eq_none : scaleUpThreshold s = none ↔
    s.taintUpperCapacityThresholdPercent < s.scaleUpThresholdPercent := by
  simp [scaleUpThreshold]

lemma removalRates_eq_none :
    removalRates s = none ↔ s.slowNodeRemovalRate ≤ s.fastNodeRemovalRate := by
  simp [removalRates]

/-- The empty text is no duration, so that it needs no rule of its own here. -/
lemma parse?_empty : Duration.parse? "" = none := by
  decide

lemma period_eq_none : period field text s = none ↔ ∃ d, Duration.parse? (text s) = some d := by
  unfold period
  by_cases hempty : text s = ""
  · simp [hempty, parse?_empty]
  · cases Duration.parse? (text s) <;> simp [hempty]

lemma gracePeriods_eq_none {soft hard : Duration}
    (hsoft : Duration.parse? s.softDeleteGracePeriod = some soft)
    (hhard : Duration.parse? s.hardDeleteGracePeriod = some hard) :
    gracePeriods s = none ↔ soft.nanos < hard.nanos := by
  simp [gracePeriods, hsoft, hhard]

end Rule

namespace Spec

variable {s : Spec}

lemma one_le_iff_pos (n : Int64) : 1 ≤ n ↔ 0 < n := by
  have hzero : (0 : Int64).toInt = 0 := rfl
  have hone : (1 : Int64).toInt = 1 := rfl
  rw [Int64.le_iff_toInt_le, Int64.lt_iff_toInt_lt, hzero, hone]
  omega

lemma violations_eq_nil_iff_forall : s.violations = [] ↔ ∀ rule ∈ Rule.all, rule s = none := by
  simp [violations, List.filterMap_eq_nil_iff]

/-- A group whose thresholds are in order needs only the outer two to be percentages. -/
lemma thresholds_iff {lower upper scaleUp : Int64} :
    ((1 ≤ upper ∧ upper ≤ 100) ∧ (1 ≤ lower ∧ lower ≤ 100) ∧ (1 ≤ scaleUp ∧ scaleUp ≤ 100) ∧
      lower < upper ∧ upper < scaleUp) ↔
    1 ≤ lower ∧ lower < upper ∧ upper < scaleUp ∧ scaleUp ≤ 100 := by
  simp only [Int64.le_iff_toInt_le, Int64.lt_iff_toInt_lt]
  omega

/-- The rules ask for soundness and for nothing else. -/
theorem violations_eq_nil_iff : s.violations = [] ↔ s.Sound := by
  rw [violations_eq_nil_iff_forall]
  simp only [Rule.all, List.forall_mem_cons, Rule.nonEmpty_eq_none,
    Rule.positive_eq_none, Rule.percent_eq_none, Rule.minNodes_eq_none, Rule.bounds_eq_none,
    Rule.taintThresholds_eq_none, Rule.scaleUpThreshold_eq_none, Rule.removalRates_eq_none,
    Rule.period_eq_none]
  constructor
  · rintro ⟨hname, hkey, hvalue, hcloud, hmin, hmax, hbounds, hupper, hlower, hscale, htaint, hup,
      hslow, hrates, ⟨soft, hsoft⟩, ⟨hard, hhard⟩, ⟨cool, hcool⟩, hgrace, -⟩
    rw [Rule.gracePeriods_eq_none hsoft hhard] at hgrace
    have hthresholds := thresholds_iff.mp ⟨hupper, hlower, hscale, htaint, hup⟩
    exact ⟨hname, ⟨hkey, hvalue⟩, hcloud, ⟨hmin, hbounds, (one_le_iff_pos _).mpr hmax⟩, hthresholds,
      ⟨(one_le_iff_pos _).mpr hslow, hrates⟩, soft, hard, cool, hsoft, hhard, hcool, hgrace⟩
  · rintro ⟨hname, ⟨hkey, hvalue⟩, hcloud, ⟨hmin, hbounds, hmax⟩, hthresholds, ⟨hslow, hrates⟩,
      soft, hard, cool, hsoft, hhard, hcool, hgrace⟩
    obtain ⟨hupper, hlower, hscale, htaint, hup⟩ := thresholds_iff.mpr hthresholds
    exact ⟨hname, hkey, hvalue, hcloud, hmin, (one_le_iff_pos _).mp hmax, hbounds, hupper, hlower,
      hscale, htaint, hup, (one_le_iff_pos _).mp hslow, hrates, ⟨soft, hsoft⟩, ⟨hard, hhard⟩,
      ⟨cool, hcool⟩, (Rule.gracePeriods_eq_none hsoft hhard).mpr hgrace, by simp⟩

end Spec
end Autoscaler.NodeGroup

namespace Autoscaler.Settings

/-- Options make sense if their level, address and interval do. The rest is taken over. -/
lemma ofOptions_eq_ok {o : Options} {s : Settings} :
    ofOptions o = .ok s ↔ LogLevel.ofNumber? o.logLevel = some s.logLevel ∧
      Net.SocketAddress.parse o.address = .ok s.address ∧
      Duration.parse? o.scanInterval = some s.scanInterval ∧
      s.kubeconfig = o.kubeconfig ∧ s.nodeGroupsPath = o.nodeGroups ∧ s.dryMode = o.dryMode := by
  constructor
  · intro h
    unfold ofOptions at h
    split at h
    next => cases h
    next level hlevel =>
      split at h
      next => cases h
      next address haddress =>
        split at h
        next => cases h
        next interval hinterval =>
          cases h
          exact ⟨hlevel, haddress, hinterval, rfl, rfl, rfl⟩
  · rintro ⟨hlevel, haddress, hinterval, hkubeconfig, hpath, hdry⟩
    simp only [ofOptions, hlevel, haddress, hinterval, ← hkubeconfig, ← hpath, ← hdry]

end Autoscaler.Settings

namespace Autoscaler.Daemon

/-- A launch succeeds if the options make sense and the startup does. -/
lemma launch_eq_ok {w : World} {o : Options} {s : Settings} {opts : ControlLoop.RunOptions} :
    (launch w o).outcome = .ok (s, opts) ↔ Settings.ofOptions o = .ok s ∧
      (Startup.prepare w.resolve w.openPath s).outcome = .ok opts := by
  unfold launch
  cases Settings.ofOptions o with
  | error reason => simp
  | ok given =>
    simp only [launchWith, Except.ok.injEq]
    constructor
    · intro h
      cases hp : (Startup.prepare w.resolve w.openPath given).outcome with
      | error e =>
        rw [hp] at h
        cases h
      | ok run =>
        rw [hp] at h
        cases h
        exact ⟨rfl, hp⟩
    · rintro ⟨rfl, hp⟩
      rw [hp]
      rfl

end Autoscaler.Daemon

namespace Autoscaler.Startup

variable {o : Options} {s : Settings} {opts : ControlLoop.RunOptions}
  {resolve : CredentialMode → Credentials.Resolution}
  {openPath : String → Except Files.Fault Files.File}

def onePool : NodeGroup.Spec where
  name := "a"
  labelKey := "k"
  labelValue := "v"
  cloudProviderGroupName := "c"
  maxNodes := 1
  taintUpperCapacityThresholdPercent := 2
  taintLowerCapacityThresholdPercent := 1
  scaleUpThresholdPercent := 3
  slowNodeRemovalRate := 1
  fastNodeRemovalRate := 1
  softDeleteGracePeriod := "1s"
  hardDeleteGracePeriod := "1m"
  scaleUpCoolDownPeriod := "1s"

end Autoscaler.Startup
