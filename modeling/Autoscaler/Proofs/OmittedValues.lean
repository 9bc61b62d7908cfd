import Autoscaler.Proofs.Decoding
import Autoscaler.Proofs.SoundConfiguration

/-!
# Values that are left out

The reader puts a default in the place of a value that is left out. Apart from the least number of
nodes and the dry mode, no sound group holds the default of a field, so such a value is noticed
before the process runs.
-/

namespace Autoscaler.NodeGroup

open Yaml

/-- A group has no key for a field, or one with an empty value. -/
def Omits (t : Tree) (f : Field) : Prop :=
  (∀ entries, t.entries? = some entries → ∀ e ∈ entries, e.1.text? ≠ some f.key) ∨
    ∃ s, Assigns t f s ∧ s.text = ""

section Defaults

variable {t : Tree} {f : Field} {spec : Spec}

lemma Kind.eq_default_of_gives {k : Kind} {s : Scalar} {v : k.Value} (hs : s.text = "")
    (hv : k.Gives s v) : v = k.default := by
  cases k with
  | text => exact hv.symm.trans hs
  | integer =>
    have hnone : s.integer? = none := by
      unfold Scalar.integer?
      rw [hs]
      split <;> rfl
    exact absurd (hnone.symm.trans hv) (by simp)
  | flag =>
    have hnone : s.boolean? = none := by
      unfold Scalar.boolean?
      rw [hs]
      split <;> rfl
    exact absurd (hnone.symm.trans hv) (by simp)

lemma get_eq_default (homit : Omits t f) (htells : GroupTells t spec) :
    spec.get f = f.kind.default := by
  obtain ⟨entries, hentries, hfields⟩ := htells
  obtain ⟨hpresent, habsent⟩ := hfields f
  rcases homit with hnone | ⟨s, ⟨entries', hentries', e, he, hkey, hvalue⟩, hempty⟩
  · exact habsent (hnone entries hentries)
  · obtain rfl : entries = entries' := Option.some_inj.mp (hentries.symm.trans hentries')
    obtain ⟨-, s', hs', hgives⟩ := hpresent e he hkey
    obtain rfl : s' = s := Tree.scalar.inj (hs'.symm.trans hvalue)
    exact Kind.eq_default_of_gives hempty hgives

lemma ne_zero_of_one_le {n : Int64} (h : 1 ≤ n) : n ≠ 0 := by
  rintro rfl
  exact absurd h (by decide)

lemma ne_empty_of_parse? {text : String} {d : Duration} (h : Duration.parse? text = some d) :
    text ≠ "" := by
  rintro rfl
  rw [Rule.parse?_empty] at h
  cases h

/-- In a sound group only two fields may hold their defaults. -/
lemma Spec.Sound.get_ne_default (h : spec.Sound) (hmin : f ≠ .minNodes) (hdry : f ≠ .dryMode) :
    spec.get f ≠ f.kind.default := by
  obtain ⟨soft, hard, coolDown, hsoft, hhard, hcoolDown, -⟩ := h.periods
  obtain ⟨⟨hupper, -⟩, ⟨hlower, -⟩, ⟨hscaleUp, -⟩, -⟩ := Spec.thresholds_iff.mpr h.thresholds
  cases f with
  | name => exact h.named
  | labelKey => exact h.labelled.1
  | labelValue => exact h.labelled.2
  | cloudProviderGroupName => exact h.backed
  | minNodes => exact absurd rfl hmin
  | maxNodes => exact ne_zero_of_one_le h.bounded.2.2
  | dryMode => exact absurd rfl hdry
  | taintUpperCapacityThresholdPercent => exact ne_zero_of_one_le hupper
  | taintLowerCapacityThresholdPercent => exact ne_zero_of_one_le hlower
  | scaleUpThresholdPercent => exact ne_zero_of_one_le hscaleUp
  | slowNodeRemovalRate => exact ne_zero_of_one_le h.rates.1
  | fastNodeRemovalRate => exact ne_zero_of_one_le (Int64.le_trans h.rates.1 h.rates.2)
  | softDeleteGracePeriod => exact ne_empty_of_parse? hsoft
  | hardDeleteGracePeriod => exact ne_empty_of_parse? hhard
  | scaleUpCoolDownPeriod => exact ne_empty_of_parse? hcoolDown

lemma mem_violations {v : Violation} (rule : Rule) (hrule : rule ∈ Rule.all)
    (hv : rule spec = some v) : v ∈ spec.violations :=
  List.mem_filterMap.mpr ⟨rule, hrule, hv⟩

/-- No rule asks for a fast removal rate by itself. Without one, either the slow rate is not above
zero or it exceeds the fast one. -/
lemma removal_violation (h : spec.fastNodeRemovalRate = 0) :
    .notPositive .slowNodeRemovalRate spec.slowNodeRemovalRate ∈ spec.violations ∨
      .removalRateOrder spec.slowNodeRemovalRate 0 ∈ spec.violations := by
  by_cases hslow : 0 < spec.slowNodeRemovalRate
  · right
    refine mem_violations Rule.removalRates (by simp [Rule.all]) ?_
    have horder : ¬spec.slowNodeRemovalRate ≤ 0 := Int64.not_le.mpr hslow
    simp [Rule.removalRates, h, horder]
  · left
    refine mem_violations (Rule.positive .slowNodeRemovalRate Spec.slowNodeRemovalRate)
      (by simp [Rule.all]) ?_
    simp [Rule.positive, hslow]

end Defaults

/-- The groups that come of a document are those of its tree, position by position. -/
lemma groupTells_of_ofDocument {d : Document} {t item : Tree} {i : Nat} {specs : List Spec}
    (ht : Stands d d.root t) (hitem : HasGroup t i item) (hok : ofDocument d = .ok specs) :
    ∃ spec, specs[i]? = some spec ∧ GroupTells item spec := by
  obtain ⟨items, hlists, -, htells⟩ := (readRoot_eq_ok ht).mp (readRoot_of_ofDocument hok)
  have hitems := getElem?_of_hasGroup hlists hitem
  exact exists_getElem? htells hitems

/-- A group that leaves out a value is not sound, whatever else it holds. -/
lemma exists_failure {bytes : List UInt8} {t item : Tree} {i : Nat} {f : Field}
    {specs : List Spec} (ht : Stands (Document.ofBytes bytes) (Document.ofBytes bytes).root t)
    (hitem : HasGroup t i item) (homit : Omits item f) (hmin : f ≠ .minNodes)
    (hdry : f ≠ .dryMode) (hok : decode bytes = .ok specs) :
    ∃ failure ∈ (Report.ofSpecs specs).failures, failure.index = i ∧
      (f = .fastNodeRemovalRate → ∃ slow,
        .notPositive .slowNodeRemovalRate slow ∈ failure.violations ∨
        .removalRateOrder slow 0 ∈ failure.violations) := by
  obtain ⟨spec, hspec, htells⟩ := groupTells_of_ofDocument ht hitem hok
  have hdefault := get_eq_default homit htells
  have hviolations : spec.violations ≠ [] := by
    intro hnone
    exact (Spec.violations_eq_nil_iff.mp hnone).get_ne_default hmin hdry hdefault
  have hne : Proofs.violationsAt specs i spec ≠ [] :=
    (Proofs.violationsAt_ne_nil specs i spec).mpr (.inl hviolations)
  have hsub : spec.violations ⊆ Proofs.violationsAt specs i spec :=
    List.subset_append_left _ _
  refine ⟨⟨i, spec.name, Proofs.violationsAt specs i spec⟩,
    Proofs.mem_failures.mpr ⟨spec, hspec, rfl, rfl, hne⟩, rfl, ?_⟩
  rintro rfl
  refine ⟨spec.slowNodeRemovalRate, ?_⟩
  exact (removal_violation hdefault).imp (fun h => hsub h) fun h => hsub h

end Autoscaler.NodeGroup

namespace Autoscaler.Daemon

open NodeGroup Yaml

/-- The process runs only if the file that its options name is read and all of its groups pass. -/
lemma exists_specs_of_launch {w : World} {o : Options} {file : Files.File} {bytes : List UInt8}
    {s : Settings} {opts : ControlLoop.RunOptions} (hopen : w.openPath o.nodeGroups = .ok file)
    (hread : file.read = .ok bytes) (h : (launch w o).outcome = .ok (s, opts)) :
    ∃ specs, decode bytes = .ok specs ∧ (Report.ofSpecs specs).isOk := by
  obtain ⟨hs, hp⟩ := launch_eq_ok.mp h
  obtain ⟨-, -, -, -, hpath, -⟩ := Settings.ofOptions_eq_ok.mp hs
  obtain ⟨-, specs, hloaded, hpass, -⟩ := Proofs.prepare_ok_iff.mp hp
  refine ⟨specs, ?_, hpass⟩
  simp only [Proofs.loaded, Startup.decodeFile, hpath, hopen, hread] at hloaded
  cases hdecode : decode bytes with
  | error e =>
    rw [hdecode] at hloaded
    cases hloaded
  | ok specs' =>
    rw [hdecode] at hloaded
    cases hloaded
    rfl

/-- A value that is left out never reaches the control loop. If a group of a document leaves out a
value other than the least number of nodes and the dry mode, then either the document is not read,
or the report blames this very group: for the fast removal rate by a rule on the slow one. A
process that is given the document does not run. -/
theorem omitted_value_detected {bytes : List UInt8} {t item : Tree} {i : Nat} {f : Field}
    (ht : Stands (Document.ofBytes bytes) (Document.ofBytes bytes).root t)
    (hitem : HasGroup t i item) (homit : Omits item f) (hmin : f ≠ .minNodes)
    (hdry : f ≠ .dryMode) :
    ((∃ e, decode bytes = .error e) ∨
      ∃ specs, decode bytes = .ok specs ∧
        ∃ failure ∈ (Report.ofSpecs specs).failures, failure.index = i ∧
          failure.violations ≠ [] ∧
          (f = .fastNodeRemovalRate → ∃ slow,
            .notPositive .slowNodeRemovalRate slow ∈ failure.violations ∨
            .removalRateOrder slow 0 ∈ failure.violations)) ∧
    ∀ (w : World) (o : Options) file, w.openPath o.nodeGroups = .ok file →
      file.read = .ok bytes → ∃ e, (launch w o).outcome = .error e := by
  constructor
  · cases hdecode : decode bytes with
    | error e => exact .inl ⟨e, rfl⟩
    | ok specs =>
      obtain ⟨failure, hmem, hindex, hrates⟩ :=
        exists_failure ht hitem homit hmin hdry hdecode
      obtain ⟨-, -, -, -, hne⟩ := Proofs.mem_failures.mp hmem
      exact .inr ⟨specs, rfl, failure, hmem, hindex, hne, hrates⟩
  · intro w o file hopen hread
    cases hlaunch : (launch w o).outcome with
    | error e => exact ⟨e, rfl⟩
    | ok run =>
      obtain ⟨s, opts⟩ := run
      obtain ⟨specs, hdecode, hpass⟩ := exists_specs_of_launch hopen hread hlaunch
      obtain ⟨failure, hmem, -⟩ := exists_failure ht hitem homit hmin hdry hdecode
      rw [Report.isOk, List.isEmpty_iff] at hpass
      rw [hpass] at hmem
      cases hmem

/-- A world in which credentials are found and every path leads to the same two groups. -/
def twinsWorld : World where
  resolve _ := { outcome := .ok (), log := [] }
  openPath _ := .ok (.regular twinsText)

/-- The second group is the first one again, and neither has a fast removal rate. -/
theorem omitted_value_detected_twins :
    Stands (Document.ofBytes twinsText) (Document.ofBytes twinsText).root twinsTree ∧
      HasGroup twinsTree 1 twinTree ∧ Omits twinTree .fastNodeRemovalRate ∧
      ∃ e, (launch twinsWorld { nodeGroups := "groups.yaml" }).outcome = .error e := by
  have hstands : Stands (Document.ofBytes twinsText) (Document.ofBytes twinsText).root
      twinsTree := by
    decide +kernel
  have hgroup : HasGroup twinsTree 1 twinTree :=
    ⟨_, _, _, rfl, List.mem_singleton_self _, rfl, rfl, rfl⟩
  have homit : Omits twinTree .fastNodeRemovalRate := by
    refine .inl fun entries hentries => ?_
    obtain rfl := Option.some_inj.mp hentries
    decide
  obtain ⟨-, hlaunch⟩ := omitted_value_detected hstands hgroup homit (by decide) (by decide)
  exact ⟨hstands, hgroup, homit, hlaunch twinsWorld _ _ rfl rfl⟩

end Autoscaler.Daemon
