import Autoscaler.Proofs.LoopStop
import Autoscaler.Proofs.MetricsLaws

/-!
# What a run of the control loop measures

The metrics count the passes that are completed and the scans that fail, and show for each group
what the latest scan that has succeeded found. Only the groups of the options have series. Groups
whose names have one key between them share their series.
-/

namespace Autoscaler.ControlLoop

/-- How many of some scans of groups with a name have failed. -/
def failedScans (name : String) (scans : List (NodeGroup.Spec × Outcome)) : Nat :=
  scans.countP fun scan => scan.1.name == name && !scan.2.isOk

/-- Of some scans of groups with a name, the latest that has succeeded is that of a group, and it
found a snapshot. -/
def LatestSuccess (name : String) (scans : List (NodeGroup.Spec × Outcome)) (group : NodeGroup.Spec)
    (snapshot : Cluster.Snapshot) : Prop :=
  ∃ older newer, scans = older ++ (group, .ok snapshot) :: newer ∧ group.name = name ∧
    ∀ scan ∈ newer, scan.1.name = name → scan.2.isOk = false

/-- What scans in order measure. -/
def scanRecords (opts : RunOptions) (scans : List (NodeGroup.Spec × Outcome)) :
    List Metrics.Record :=
  scans.map fun scan => outcomeRecord opts.dryMode scan.1 scan.2

namespace Transition

/-- How long the pass has lasted that a transition completes. -/
def seconds? (t : Transition) : Option Binary64 :=
  match t.before.phase, t.after.phase with
  | .ticked, .waiting => some (State.seconds (t.after.now - t.before.now))
  | .scanning p, .waiting => some (State.seconds (t.after.now - p.begun))
  | _, _ => none

/-- What a transition measures: a scan that ends, and then a pass that is completed. -/
def records (opts : RunOptions) (t : Transition) : List Metrics.Record :=
  scanRecords opts t.scan?.toList ++ (t.seconds?.map Metrics.Record.cycle).toList

end Transition

def measured (opts : RunOptions) (tr : List Transition) : List Metrics.Record :=
  tr.flatMap (Transition.records opts)

variable {opts : RunOptions} {s s' : State} {l : Label} {ls : List Label}

lemma metrics_of_step (h : Step opts s l s') :
    s'.metrics = s.metrics.addAll (Transition.records opts ⟨s, l, s'⟩) := by
  cases h with
  | elapse | close | closeAgain | abandon | quit =>
    cases hp : s.phase <;>
      simp [Transition.records, Transition.scan?, Transition.seconds?, scanRecords, hp,
        Metrics.addAll]
  | tick hp | beginPass _ _ hp | beginEmpty hp | nextScan _ _ _ _ hp | lastScan _ _ hp =>
    simp [Transition.records, Transition.scan?, Transition.seconds?, scanRecords, hp,
      Metrics.addAll, State.endPass, State.takeOutcome]

lemma measured_concat (opts : RunOptions) (tr : List Transition) (t : Transition) :
    measured opts (tr ++ [t]) = measured opts tr ++ t.records opts := by
  simp [measured]

lemma metrics_of_run {s₀ : State} (h : s₀.run opts ls = some s) :
    s.metrics = s₀.metrics.addAll (measured opts (s₀.trace opts ls)) := by
  refine run_induction (P := fun tr s => s.metrics = s₀.metrics.addAll (measured opts tr)) rfl ?_ h
  intro tr l m m' hm hstep
  rw [metrics_of_step hstep, hm, measured_concat, Metrics.addAll, Metrics.addAll, Metrics.addAll,
    List.foldl_append]

/-! ### Measurements and what they measure -/

lemma length_seconds? (t : Transition) :
    t.seconds?.toList.length = t.completion?.toList.length := by
  unfold Transition.seconds? Transition.completion?
  cases t.before.phase <;> cases t.after.phase <;> rfl

variable {name : String} (opts : RunOptions)

lemma failures_scanRecords (scans : List (NodeGroup.Spec × Outcome)) :
    Metrics.failures name (scanRecords opts scans) = failedScans name scans := by
  rw [Metrics.failures, scanRecords, List.count, List.countP_map, failedScans]
  refine List.countP_congr ?_
  rintro ⟨group, outcome⟩ -
  cases outcome <;> simp [outcomeRecord, Except.isOk, Except.toBool]

lemma cycleTimes_scanRecords (scans : List (NodeGroup.Spec × Outcome)) :
    Metrics.cycleTimes (scanRecords opts scans) = [] := by
  rw [Metrics.cycleTimes, List.filterMap_eq_nil_iff]
  simp only [scanRecords, List.mem_map]
  rintro _ ⟨⟨group, outcome⟩, -, rfl⟩
  cases outcome <;> rfl

lemma scanRecords_append (scans more : List (NodeGroup.Spec × Outcome)) :
    scanRecords opts (scans ++ more) = scanRecords opts scans ++ scanRecords opts more :=
  List.map_append

lemma length_cycleTimes_measured (tr : List Transition) :
    (Metrics.cycleTimes (measured opts tr)).length = (completions tr).length := by
  induction tr using List.reverseRecOn with
  | nil => rfl
  | append_singleton tr t ih =>
    have hcycles : Metrics.cycleTimes (t.records opts) = t.seconds?.toList := by
      rw [Transition.records, Metrics.cycleTimes_append, cycleTimes_scanRecords, List.nil_append]
      cases t.seconds? <;> rfl
    rw [measured_concat, Metrics.cycleTimes_append, completions_concat, List.length_append,
      List.length_append, ih, hcycles, length_seconds?]

lemma groups_scanRecords (scans : List (NodeGroup.Spec × Outcome)) :
    Metrics.groups (scanRecords opts scans) = scans.map fun scan => scan.1.name := by
  rw [Metrics.groups, scanRecords, List.filterMap_map, ← List.filterMap_eq_map]
  congr 1
  funext scan
  obtain ⟨group, outcome⟩ := scan
  cases outcome <;> rfl

lemma ofGroups_scanRecords (scans : List (NodeGroup.Spec × Outcome)) :
    Metrics.ofGroups (scanRecords opts scans) = scanRecords opts scans := by
  rw [Metrics.ofGroups, List.filter_eq_self]
  simp only [scanRecords, List.mem_map]
  rintro _ ⟨⟨group, outcome⟩, -, rfl⟩
  cases outcome <;> rfl

/-- Of the groups a run measures what the scans that end find. -/
lemma ofGroups_measured (tr : List Transition) :
    Metrics.ofGroups (measured opts tr) = scanRecords opts (endedScans tr) := by
  induction tr using List.reverseRecOn with
  | nil => rfl
  | append_singleton tr t ih =>
    have hcycles : Metrics.ofGroups (t.seconds?.map Metrics.Record.cycle).toList = [] := by
      cases t.seconds? <;> rfl
    rw [measured_concat, Metrics.ofGroups_append, Transition.records, Metrics.ofGroups_append, ih,
      ofGroups_scanRecords, hcycles, List.append_nil, endedScans_concat, scanRecords_append]

lemma failures_measured (tr : List Transition) :
    Metrics.failures name (measured opts tr) = failedScans name (endedScans tr) := by
  rw [← Metrics.failures_ofGroups, ofGroups_measured, failures_scanRecords]

lemma latest?_measured (tr : List Transition) :
    Metrics.latest? name (measured opts tr) =
      Metrics.latest? name (scanRecords opts (endedScans tr)) := by
  rw [← Metrics.latest?_ofGroups, ofGroups_measured]

lemma groups_measured (tr : List Transition) :
    Metrics.groups (measured opts tr) = (endedScans tr).map fun scan => scan.1.name := by
  rw [← Metrics.groups_ofGroups, ofGroups_measured, groups_scanRecords]

lemma latest?_scanRecords_concat (scans : List (NodeGroup.Spec × Outcome))
    (scan : NodeGroup.Spec × Outcome) :
    Metrics.latest? name (scanRecords opts (scans ++ [scan])) =
      ((outcomeRecord opts.dryMode scan.1 scan.2).state? name).or
        (Metrics.latest? name (scanRecords opts scans)) := by
  rw [scanRecords_append, Metrics.latest?_append]
  exact congrArg (Option.or · _) Metrics.latest?_singleton

/-- The latest state that scans have measured is that of the latest scan that has succeeded. -/
lemma latest?_scanRecords (name : String) (scans : List (NodeGroup.Spec × Outcome)) :
    ((∀ scan ∈ scans, scan.1.name = name → scan.2.isOk = false) ∧
      Metrics.latest? name (scanRecords opts scans) = none) ∨
    ∃ group snapshot, LatestSuccess name scans group snapshot ∧
      Metrics.latest? name (scanRecords opts scans) =
        some ⟨snapshot, group.dryMode || opts.dryMode⟩ := by
  induction scans using List.reverseRecOn with
  | nil => exact .inl ⟨by simp, rfl⟩
  | append_singleton scans scan ih =>
    rw [latest?_scanRecords_concat]
    by_cases hsuccess : scan.1.name = name ∧ scan.2.isOk = true
    · obtain ⟨group, outcome⟩ := scan
      obtain ⟨rfl, hok⟩ := hsuccess
      cases outcome with
      | error e => cases hok
      | ok snapshot =>
        refine .inr ⟨group, snapshot, ⟨scans, [], rfl, rfl, by simp⟩, ?_⟩
        simp [outcomeRecord, Metrics.Record.state?, NodeGroup.Spec.effectiveDryMode]
    · have hfailed : scan.1.name = name → scan.2.isOk = false := by simpa using hsuccess
      have hquiet : (outcomeRecord opts.dryMode scan.1 scan.2).state? name = none := by
        obtain ⟨group, outcome⟩ := scan
        cases outcome with
        | error e => rfl
        | ok snapshot => exact if_neg fun heq => by cases hfailed heq
      rw [hquiet, Option.none_or]
      rcases ih with ⟨hnone, hlatest⟩ |
        ⟨group, snapshot, ⟨older, newer, rfl, hname, hnewer⟩, hlatest⟩
      · refine .inl ⟨?_, hlatest⟩
        exact List.forall_mem_append.mpr ⟨hnone, List.forall_mem_singleton.mpr hfailed⟩
      · refine .inr ⟨group, snapshot, ⟨older, newer ++ [scan], by simp, hname, ?_⟩, hlatest⟩
        exact List.forall_mem_append.mpr ⟨hnewer, List.forall_mem_singleton.mpr hfailed⟩

/-! ### Only the groups of the options -/

/-- The scans of a run are those of groups of the options. -/
structure WithinGroups (opts : RunOptions) (tr : List Transition) (s : State) : Prop where
  ended : ∀ scan ∈ endedScans tr, scan.1 ∈ opts.nodeGroups
  going : ∀ p, s.phase = .scanning p → ∀ group ∈ p.group :: p.rest, group ∈ opts.nodeGroups

variable {opts}

lemma WithinGroups.step {tr : List Transition} (hs : WithinGroups opts tr s)
    (h : Step opts s l s') : WithinGroups opts (tr ++ [⟨s, l, s'⟩]) s' := by
  refine ⟨?_, ?_⟩
  · rw [endedScans_concat]
    refine List.forall_mem_append.mpr ⟨hs.ended, ?_⟩
    intro scan hscan
    rw [Option.mem_toList] at hscan
    unfold Transition.scan? at hscan
    split at hscan
    next p outcome hp _ =>
      cases hscan
      exact hs.going p hp p.group List.mem_cons_self
    next => cases hscan
  · intro p' hp'
    cases h with
    | elapse | close | closeAgain | abandon => exact hs.going p' hp'
    | beginPass group rest hp hg =>
      cases hp'
      simp [hg]
    | nextScan p o group rest hp hg =>
      cases hp'
      have hgoing := hs.going p hp
      rw [hg] at hgoing
      exact (List.forall_mem_cons.mp hgoing).2
    | tick | beginEmpty | lastScan | quit => cases hp'

variable {immediately : Bool} {signal : StopSignal} {timer : Timer}

lemma withinGroups_of_run (h : (State.start opts immediately signal timer).run opts ls = some s) :
    WithinGroups opts ((State.start opts immediately signal timer).trace opts ls) s := by
  refine run_induction (P := WithinGroups opts) ⟨by simp [endedScans], ?_⟩
    (fun _ _ _ _ hs => hs.step) h
  intro p hp
  simp [State.start] at hp

lemma gauges_of_error {e : Cluster.ScanError} (h : Step opts s (.scanned (.error e)) s') :
    s'.metrics.SameGauges s.metrics := by
  cases h <;> exact ⟨rfl, rfl, rfl, rfl, rfl⟩

/-- No other group of the options has the key of a name. -/
def OwnKey (opts : RunOptions) (name : String) : Prop :=
  ∀ group ∈ opts.nodeGroups, Series.key group.name = Series.key name → group.name = name

instance (opts : RunOptions) (name : String) : Decidable (OwnKey opts name) :=
  inferInstanceAs (Decidable (∀ group ∈ opts.nodeGroups, Series.key group.name = Series.key name →
    group.name = name))

/-- What a run has measured are groups of the options. -/
lemma WithinGroups.mem_of_measured {tr : List Transition} (hs : WithinGroups opts tr s)
    (hname : name ∈ Metrics.groups (measured opts tr)) :
    ∃ group ∈ opts.nodeGroups, group.name = name := by
  rw [groups_measured] at hname
  obtain ⟨scan, hscan, rfl⟩ := List.mem_map.mp hname
  exact ⟨scan.1, hs.ended scan hscan, rfl⟩

lemma WithinGroups.alone {tr : List Transition} (hs : WithinGroups opts tr s)
    (hname : OwnKey opts name) : Metrics.Alone name (measured opts tr) := by
  intro other hother hkey
  obtain ⟨group, hgroup, rfl⟩ := hs.mem_of_measured hother
  exact hname group hgroup hkey

/-- Every run, of any groups and scans, at every point. The cycles that are counted and the
durations that are observed are as many as the passes that are completed. A group whose key no other
has, has a count of failures from its first failure on, which is how many of its scans have failed.
Its five gauges are absent until one of its scans has succeeded, and then they all show what the
latest of those found. A scan that fails leaves the gauges as they are, and only groups of the
options have series. -/
theorem metrics_accounting (h : (State.start opts immediately signal timer).run opts ls = some s) :
    let tr := (State.start opts immediately signal timer).trace opts ls
    (s.metrics.cycles = (completions tr).length ∧
      s.metrics.durations.count = (completions tr).length) ∧
    (∀ name, OwnKey opts name → s.metrics.errors.get? name =
      if failedScans name (endedScans tr) = 0 then none
      else some (failedScans name (endedScans tr))) ∧
    (∀ name, OwnKey opts name →
      ((∀ scan ∈ endedScans tr, scan.1.name = name → scan.2.isOk = false) ∧
        s.metrics.GaugesShow name none) ∨
      ∃ group snapshot, LatestSuccess name (endedScans tr) group snapshot ∧
        s.metrics.GaugesShow name (some ⟨snapshot, group.dryMode || opts.dryMode⟩)) ∧
    (∀ e s', s.step opts (.scanned (.error e)) = some s' →
      s'.metrics.SameGauges s.metrics) ∧
    ∀ name ∈ s.metrics.names, name ∈ opts.nodeGroups.map (·.name) := by
  intro tr
  have hreflects : Metrics.Reflects (measured opts tr) s.metrics := by
    rw [metrics_of_run h]
    exact Metrics.reflects_addAll _
  have hgroups := withinGroups_of_run h
  refine ⟨⟨?_, ?_⟩, ?_, ?_, ?_, ?_⟩
  · rw [hreflects.cycles, length_cycleTimes_measured]
  · rw [hreflects.durations, Metrics.count_foldl_observe, length_cycleTimes_measured]
    exact Nat.zero_add _
  · intro name hname
    rw [hreflects.errors.get?_eq name (hgroups.alone hname), Metrics.failures?, failures_measured]
  · intro name hname
    have hgauges := hreflects.gaugesShow (hgroups.alone hname)
    rw [latest?_measured] at hgauges
    rcases latest?_scanRecords opts name (endedScans tr) with
      ⟨hfailed, hnone⟩ | ⟨group, snapshot, hlatest, hsome⟩
    · exact .inl ⟨hfailed, hnone ▸ hgauges⟩
    · exact .inr ⟨group, snapshot, hlatest, hsome ▸ hgauges⟩
  · intro e s' hstep
    exact gauges_of_error (step_of_eq_some hstep)
  · intro name hname
    obtain ⟨group, hgroup, rfl⟩ := hgroups.mem_of_measured (hreflects.mem_groups hname)
    exact List.mem_map_of_mem hgroup

/-- A first pass finds three nodes in the first group, whose scan fails in the second. -/
def stalePool : List Label :=
  [.tick, .begin, .scanned (.ok { nodes := 3 }), .scanned (.ok {}), .elapse 60000000000, .tick,
    .begin, .scanned (.error (.other "timeout"))]

/-- The gauges of the first group still show the three nodes. -/
theorem metrics_accounting_stalePool :
    ∃ s, (State.start twoPools true {}).run twoPools stalePool = some s ∧
      s.metrics.cycles = 1 ∧ s.metrics.errors.get? "pool-a" = some 1 ∧
      s.metrics.nodes.get? "pool-a" = some 3 := by
  have hrun : (State.start twoPools true {}).run twoPools stalePool =
    some (((State.start twoPools true {}).run twoPools stalePool).get rfl) := rfl
  obtain ⟨⟨hcycles, -⟩, herrors, hgauges, -, -⟩ := metrics_accounting hrun
  have hkey : OwnKey twoPools "pool-a" := by decide
  refine ⟨_, hrun, hcycles, herrors "pool-a" hkey, ?_⟩
  rcases hgauges "pool-a" hkey with ⟨hfailed, -⟩ |
    ⟨group, snapshot, ⟨older, newer, hscans, hname, -⟩, hshow⟩
  · cases hfailed ({ name := "pool-a" }, .ok { nodes := 3 }) List.mem_cons_self rfl
  · have hended : endedScans ((State.start twoPools true {}).trace twoPools stalePool) =
      [({ name := "pool-a" }, .ok { nodes := 3 }), ({ name := "pool-b" }, .ok {}),
        ({ name := "pool-a" }, .error (.other "timeout"))] := rfl
    rw [hended] at hscans
    -- the latest success is neither the scan of the other group nor the one that fails
    rcases older with _ | ⟨_, _ | ⟨_, _ | ⟨_, _⟩⟩⟩
    · cases hscans
      exact hshow.nodes
    · cases hscans
      exact absurd hname (by decide)
    · cases hscans
    · simp at hscans

/-- Two groups whose names have the same key. -/
def collidingPools : RunOptions where
  scanInterval := twoPools.scanInterval
  nodeGroups := [{ name := "7mohtcOFVz" }, { name := "c1E51sSEyx" }]
  dryMode := false

/-- A first pass in which both scans fail. -/
def bothFail : List Label :=
  [.tick, .begin, .scanned (.error (.other "timeout")), .scanned (.error (.other "timeout"))]

/-- The failure of the second group is counted as one of the first. -/
theorem failure_counted_elsewhere :
    ∃ s, (State.start collidingPools true {}).run collidingPools bothFail = some s ∧
      failedScans "c1E51sSEyx" (endedScans ((State.start collidingPools true {}).trace
        collidingPools bothFail)) = 1 ∧
      s.metrics.errors.get? "c1E51sSEyx" = none ∧ s.metrics.errors.get? "7mohtcOFVz" = some 2 :=
  ⟨_, rfl, by decide, by decide, by decide⟩

end Autoscaler.ControlLoop
