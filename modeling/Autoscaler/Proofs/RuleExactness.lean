import Autoscaler.NodeGroup.Rule
import Autoscaler.Proofs.GroupFields
import Mathlib.Data.List.Perm.Basic

/-!
# Exactness of the rules for a single group

What a group can violate is told by its fields alone. The violations that are found in a group are
all of these and no others, in the order of the rules and one of each rule at most. Whether one is
found depends on the fields that its rule is about and on nothing else, in particular not on the
outcome of another rule.
-/

namespace Autoscaler.NodeGroup

namespace Field

def nonEmptyTexts : List Field := [.name, .labelKey, .labelValue, .cloudProviderGroupName]

def positives : List Field := [.maxNodes, .slowNodeRemovalRate]

def percents : List Field :=
  [.taintUpperCapacityThresholdPercent, .taintLowerCapacityThresholdPercent,
    .scaleUpThresholdPercent]

def periods : List Field := [.softDeleteGracePeriod, .hardDeleteGracePeriod, .scaleUpCoolDownPeriod]

end Field

namespace Spec

/-- What a field of text holds. -/
def text? (s : Spec) (f : Field) : Option String :=
  match f.kind, s.get f with
  | .text, t => some t
  | _, _ => none

/-- What a field of a whole number holds. -/
def integer? (s : Spec) (f : Field) : Option Int64 :=
  match f.kind, s.get f with
  | .integer, n => some n
  | _, _ => none

/-- When a violation is one of a group. The numbers are compared as integers, and the periods as
spans of time. -/
def Breaks (s : Spec) : Violation → Prop
  | .emptyField f => f ∈ Field.nonEmptyTexts ++ Field.periods ∧ s.text? f = some ""
  | .notPositive f n => f ∈ Field.positives ∧ s.integer? f = some n ∧ n.toInt ≤ 0
  | .negativeMinNodes n => n = s.minNodes ∧ n.toInt < 0
  | .maxBelowMin min max => min = s.minNodes ∧ max = s.maxNodes ∧ max.toInt < min.toInt
  | .percentOutOfRange f n => f ∈ Field.percents ∧ s.integer? f = some n ∧
      (n.toInt < 1 ∨ 100 < n.toInt)
  | .taintThresholdOrder lower upper => lower = s.taintLowerCapacityThresholdPercent ∧
      upper = s.taintUpperCapacityThresholdPercent ∧ upper.toInt ≤ lower.toInt
  | .scaleUpThresholdOrder upper scaleUp => upper = s.taintUpperCapacityThresholdPercent ∧
      scaleUp = s.scaleUpThresholdPercent ∧ scaleUp.toInt ≤ upper.toInt
  | .removalRateOrder slow fast => slow = s.slowNodeRemovalRate ∧ fast = s.fastNodeRemovalRate ∧
      fast.toInt < slow.toInt
  | .invalidDuration f t => f ∈ Field.periods ∧ s.text? f = some t ∧ t ≠ "" ∧
      Duration.parse? t = none
  | .gracePeriodOrder soft hard => soft = s.softDeleteGracePeriod ∧ hard = s.hardDeleteGracePeriod ∧
      ∃ before after, Duration.parse? soft = some before ∧ Duration.parse? hard = some after ∧
        after.nanos ≤ before.nanos
  | .duplicateName _ _ => False

end Spec

/-- What a rule is about. -/
inductive Concern where
  | text (field : Field)
  | minimum
  | positivity (field : Field)
  | bounds
  | percentage (field : Field)
  | taintOrder
  | scaleUpOrder
  | rateOrder
  | graceOrder
  | uniqueness
deriving DecidableEq

namespace Concern

/-- The concerns in the order of reports. -/
def all : List Concern :=
  Field.nonEmptyTexts.map text ++ [minimum, positivity .maxNodes, bounds] ++
    Field.percents.map percentage ++
    [taintOrder, scaleUpOrder, positivity .slowNodeRemovalRate, rateOrder] ++
    Field.periods.map text ++ [graceOrder]

/-- The fields that a rule looks at. -/
def fields : Concern → List Field
  | text f => [f]
  | minimum => [.minNodes]
  | positivity f => [f]
  | bounds => [.minNodes, .maxNodes]
  | percentage f => [f]
  | taintOrder => [.taintLowerCapacityThresholdPercent, .taintUpperCapacityThresholdPercent]
  | scaleUpOrder => [.taintUpperCapacityThresholdPercent, .scaleUpThresholdPercent]
  | rateOrder => [.slowNodeRemovalRate, .fastNodeRemovalRate]
  | graceOrder => [.softDeleteGracePeriod, .hardDeleteGracePeriod]
  | uniqueness => [.name]

lemma nodup_all : all.Nodup := by
  decide

end Concern

/-- The concern of the rule that a violation is of. An empty period and one that cannot be read
violate one and the same rule. -/
def Violation.concern : Violation → Concern
  | emptyField f => .text f
  | notPositive f _ => .positivity f
  | negativeMinNodes _ => .minimum
  | maxBelowMin _ _ => .bounds
  | percentOutOfRange f _ => .percentage f
  | taintThresholdOrder _ _ => .taintOrder
  | scaleUpThresholdOrder _ _ => .scaleUpOrder
  | removalRateOrder _ _ => .rateOrder
  | invalidDuration f _ => .text f
  | gracePeriodOrder _ _ => .graceOrder
  | duplicateName _ _ => .uniqueness

/-! ### Each rule and its concern -/

lemma Field.notMem_periods {f : Field} (h : f ∈ nonEmptyTexts) : f ∉ periods := by
  revert f
  decide

namespace Rule

/-- A rule finds what breaks its concern, and nothing else. -/
def Judges (rule : Rule) (c : Concern) : Prop :=
  ∀ s v, rule s = some v ↔ s.Breaks v ∧ v.concern = c

/-- A rule that finds one thing wrong with a group or nothing. -/
lemma judges_of {rule : Rule} {c : Concern} {keeps : Spec → Prop} [DecidablePred keeps]
    {violation : Spec → Violation}
    (hrule : ∀ s, rule s = if keeps s then none else some (violation s))
    (hbreaks : ∀ s v, s.Breaks v ∧ v.concern = c ↔ ¬keeps s ∧ violation s = v) : Judges rule c := by
  intro s v
  rw [hrule, hbreaks, Option.ite_none_left_eq_some, Option.some.injEq]

variable {f : Field} {text : Spec → String} {value : Spec → Int64}

lemma judges_nonEmpty (hf : f ∈ Field.nonEmptyTexts) (htext : ∀ s, s.text? f = some (text s)) :
    Judges (nonEmpty f text) (.text f) := by
  have hperiod : f ∉ Field.periods := Field.notMem_periods hf
  have hfield : f ∈ Field.nonEmptyTexts ++ Field.periods := List.mem_append_left _ hf
  intro s v
  simp only [nonEmpty, String.isEmpty_iff]
  cases v with
  | emptyField g =>
    simp only [Spec.Breaks, Violation.concern, Concern.text.injEq]
    grind
  | invalidDuration g t =>
    simp only [Spec.Breaks, Violation.concern, Concern.text.injEq]
    grind
  | _ => simp [Violation.concern]

lemma judges_period (hf : f ∈ Field.periods) (htext : ∀ s, s.text? f = some (text s)) :
    Judges (period f text) (.text f) := by
  have hfield : f ∈ Field.nonEmptyTexts ++ Field.periods := List.mem_append_right _ hf
  intro s v
  simp only [period, String.isEmpty_iff, Option.isSome_iff_ne_none]
  cases v with
  | emptyField g =>
    simp only [Spec.Breaks, Violation.concern, Concern.text.injEq]
    grind
  | invalidDuration g t =>
    simp only [Spec.Breaks, Violation.concern, Concern.text.injEq]
    grind
  | _ =>
    simp only [Violation.concern]
    grind

lemma judges_positive (hf : f ∈ Field.positives) (hvalue : ∀ s, s.integer? f = some (value s)) :
    Judges (positive f value) (.positivity f) := by
  refine judges_of (fun _ => rfl) fun s v => ?_
  have hzero : (0 : Int64).toInt = 0 := rfl
  cases v with
  | notPositive g n =>
    simp only [Spec.Breaks, Violation.concern, Int64.lt_iff_toInt_lt, hzero]
    grind
  | _ => simp [Violation.concern]

lemma judges_percent (hf : f ∈ Field.percents) (hvalue : ∀ s, s.integer? f = some (value s)) :
    Judges (percent f value) (.percentage f) := by
  refine judges_of (fun _ => rfl) fun s v => ?_
  have hone : (1 : Int64).toInt = 1 := rfl
  have hhundred : (100 : Int64).toInt = 100 := rfl
  cases v with
  | percentOutOfRange g n =>
    simp only [Spec.Breaks, Violation.concern, Int64.le_iff_toInt_le, hone, hhundred]
    grind
  | _ => simp [Violation.concern]

lemma judges_minNodes : Judges minNodes .minimum := by
  refine judges_of (fun _ => rfl) fun s v => ?_
  have hzero : (0 : Int64).toInt = 0 := rfl
  cases v with
  | negativeMinNodes n =>
    simp only [Spec.Breaks, Violation.concern, Int64.le_iff_toInt_le, hzero]
    grind
  | _ => simp [Violation.concern]

lemma judges_bounds : Judges bounds .bounds := by
  refine judges_of (fun _ => rfl) fun s v => ?_
  cases v with
  | maxBelowMin min max =>
    simp only [Spec.Breaks, Violation.concern, Int64.le_iff_toInt_le]
    grind
  | _ => simp [Violation.concern]

lemma judges_taintThresholds : Judges taintThresholds .taintOrder := by
  refine judges_of (fun _ => rfl) fun s v => ?_
  cases v with
  | taintThresholdOrder lower upper =>
    simp only [Spec.Breaks, Violation.concern, Int64.lt_iff_toInt_lt]
    grind
  | _ => simp [Violation.concern]

lemma judges_scaleUpThreshold : Judges scaleUpThreshold .scaleUpOrder := by
  refine judges_of (fun _ => rfl) fun s v => ?_
  cases v with
  | scaleUpThresholdOrder upper scaleUp =>
    simp only [Spec.Breaks, Violation.concern, Int64.lt_iff_toInt_lt]
    grind
  | _ => simp [Violation.concern]

lemma judges_removalRates : Judges removalRates .rateOrder := by
  refine judges_of (fun _ => rfl) fun s v => ?_
  cases v with
  | removalRateOrder slow fast =>
    simp only [Spec.Breaks, Violation.concern, Int64.le_iff_toInt_le]
    grind
  | _ => simp [Violation.concern]

/-- The only rule that looks at what others find: it needs two periods. -/
lemma judges_gracePeriods : Judges gracePeriods .graceOrder := by
  intro s v
  unfold gracePeriods
  cases v with
  | gracePeriodOrder soft hard =>
    simp only [Spec.Breaks, Violation.concern]
    grind
  | _ =>
    simp only [Violation.concern]
    grind

lemma judges_all : List.Forall₂ Judges all Concern.all :=
  .cons (judges_nonEmpty (by decide) fun _ => rfl) <|
  .cons (judges_nonEmpty (by decide) fun _ => rfl) <|
  .cons (judges_nonEmpty (by decide) fun _ => rfl) <|
  .cons (judges_nonEmpty (by decide) fun _ => rfl) <|
  .cons judges_minNodes <|
  .cons (judges_positive (by decide) fun _ => rfl) <|
  .cons judges_bounds <|
  .cons (judges_percent (by decide) fun _ => rfl) <|
  .cons (judges_percent (by decide) fun _ => rfl) <|
  .cons (judges_percent (by decide) fun _ => rfl) <|
  .cons judges_taintThresholds <|
  .cons judges_scaleUpThreshold <|
  .cons (judges_positive (by decide) fun _ => rfl) <|
  .cons judges_removalRates <|
  .cons (judges_period (by decide) fun _ => rfl) <|
  .cons (judges_period (by decide) fun _ => rfl) <|
  .cons (judges_period (by decide) fun _ => rfl) <|
  .cons judges_gracePeriods .nil

variable {s : Spec} {rules : List Rule} {concerns : List Concern}

lemma mem_filterMap_iff (h : List.Forall₂ Judges rules concerns) {v : Violation} :
    v ∈ rules.filterMap (· s) ↔ s.Breaks v ∧ v.concern ∈ concerns := by
  induction h with
  | nil => simp
  | cons hjudges _ ih =>
    rw [List.mem_filterMap] at ih ⊢
    rw [List.exists_mem_cons_iff, hjudges, ih, List.mem_cons, ← and_or_left]

/-- Rules that are asked in order report in order, and each once. -/
lemma concerns_sublist (h : List.Forall₂ Judges rules concerns) :
    ((rules.filterMap (· s)).map Violation.concern).Sublist concerns := by
  induction h with
  | nil => exact .slnil
  | @cons rule c rules concerns hjudges _ ih =>
    cases hrule : rule s with
    | none =>
      simp only [List.filterMap_cons, hrule]
      exact ih.cons c
    | some v =>
      obtain ⟨-, rfl⟩ := (hjudges s v).mp hrule
      simp only [List.filterMap_cons, hrule, List.map_cons]
      exact ih.cons_cons _

end Rule

/-! ### The violations of a group -/

namespace Spec

variable {s t : Spec} {v : Violation}

lemma text_mem_concerns {f : Field} (h : f ∈ Field.nonEmptyTexts ++ Field.periods) :
    .text f ∈ Concern.all := by
  revert f
  decide

/-- Whatever is wrong with a group, there is a rule for it. -/
lemma Breaks.concern_mem (h : s.Breaks v) : v.concern ∈ Concern.all := by
  cases v with
  | emptyField f => exact text_mem_concerns h.1
  | invalidDuration f t => exact text_mem_concerns (List.mem_append_right _ h.1)
  | notPositive f n => exact (by decide : ∀ f ∈ Field.positives, .positivity f ∈ Concern.all) f h.1
  | percentOutOfRange f n =>
    exact (by decide : ∀ f ∈ Field.percents, .percentage f ∈ Concern.all) f h.1
  | duplicateName name first => exact h.elim
  | _ =>
    rw [Violation.concern]
    decide

lemma mem_violations_iff : v ∈ s.violations ↔ s.Breaks v := by
  rw [violations, Rule.mem_filterMap_iff Rule.judges_all]
  exact ⟨And.left, fun h => ⟨h, h.concern_mem⟩⟩

/-- A list of what is wrong is determined by its members and their order. -/
lemma eq_violations {l : List Violation} (hmem : ∀ v, v ∈ l ↔ s.Breaks v)
    (horder : (l.map Violation.concern).Sublist Concern.all) : l = s.violations := by
  have hsublist : (s.violations.map Violation.concern).Sublist Concern.all :=
    Rule.concerns_sublist Rule.judges_all
  have hnodup := Concern.nodup_all.sublist hsublist
  have hperm : (l.map Violation.concern).Perm (s.violations.map Violation.concern) := by
    rw [List.perm_ext_iff_of_nodup (Concern.nodup_all.sublist horder) hnodup]
    simp only [List.mem_map, hmem, mem_violations_iff, implies_true]
  -- The same concerns in one and the same order, so that members with one concern stand face to face.
  have hconcerns := (Concern.nodup_all.perm_iff_eq_of_sublist horder hsublist).mp hperm
  have hlength : l.length = s.violations.length := by simpa using congrArg List.length hconcerns
  refine List.ext_getElem hlength fun i hi hi' => ?_
  refine List.inj_on_of_nodup_map hnodup ?_ (List.getElem_mem hi') ?_
  · rw [mem_violations_iff, ← hmem]
    exact List.getElem_mem hi
  · have hget : (l.map Violation.concern)[i]? = (s.violations.map Violation.concern)[i]? := by
      rw [hconcerns]
    simpa [hi, hi'] using hget

lemma text?_congr {f : Field} (h : s.get f = t.get f) : s.text? f = t.text? f := by
  unfold text?
  rw [h]

lemma integer?_congr {f : Field} (h : s.get f = t.get f) : s.integer? f = t.integer? f := by
  unfold integer?
  rw [h]

lemma get_pair {f g : Field} (h : ∀ x ∈ [f, g], s.get x = t.get x) :
    s.get f = t.get f ∧ s.get g = t.get g := by
  simpa using h

/-- A group that agrees with another one on the fields of a rule breaks it in the same way. -/
lemma breaks_congr (h : ∀ f ∈ v.concern.fields, s.get f = t.get f) : s.Breaks v ↔ t.Breaks v := by
  cases v with
  | emptyField f => rw [Breaks, Breaks, text?_congr (h f (List.mem_singleton_self f))]
  | notPositive f n => rw [Breaks, Breaks, integer?_congr (h f (List.mem_singleton_self f))]
  | negativeMinNodes n =>
    have hmin : s.minNodes = t.minNodes := h .minNodes (List.mem_singleton_self _)
    rw [Breaks, Breaks, hmin]
  | maxBelowMin min max =>
    obtain ⟨hmin, hmax⟩ : s.minNodes = t.minNodes ∧ s.maxNodes = t.maxNodes := get_pair h
    rw [Breaks, Breaks, hmin, hmax]
  | percentOutOfRange f n => rw [Breaks, Breaks, integer?_congr (h f (List.mem_singleton_self f))]
  | taintThresholdOrder lower upper =>
    obtain ⟨hlower, hupper⟩ :
        s.taintLowerCapacityThresholdPercent = t.taintLowerCapacityThresholdPercent ∧
          s.taintUpperCapacityThresholdPercent = t.taintUpperCapacityThresholdPercent := get_pair h
    rw [Breaks, Breaks, hlower, hupper]
  | scaleUpThresholdOrder upper scaleUp =>
    obtain ⟨hupper, hscaleUp⟩ :
        s.taintUpperCapacityThresholdPercent = t.taintUpperCapacityThresholdPercent ∧
          s.scaleUpThresholdPercent = t.scaleUpThresholdPercent := get_pair h
    rw [Breaks, Breaks, hupper, hscaleUp]
  | removalRateOrder slow fast =>
    obtain ⟨hslow, hfast⟩ : s.slowNodeRemovalRate = t.slowNodeRemovalRate ∧
        s.fastNodeRemovalRate = t.fastNodeRemovalRate := get_pair h
    rw [Breaks, Breaks, hslow, hfast]
  | invalidDuration f text => rw [Breaks, Breaks, text?_congr (h f (List.mem_singleton_self f))]
  | gracePeriodOrder soft hard =>
    obtain ⟨hsoft, hhard⟩ : s.softDeleteGracePeriod = t.softDeleteGracePeriod ∧
        s.hardDeleteGracePeriod = t.hardDeleteGracePeriod := get_pair h
    rw [Breaks, Breaks, hsoft, hhard]
  | duplicateName name first => rfl

/-- The violations that are found in any group. They are the only list that has as its members all
that is wrong with the group and nothing else, with the group's own values, and that keeps the order
of the rules with one violation of each at most. Which violations of a rule are found is decided by
the fields of that rule: groups that agree on these have the same ones, whatever other rules they
break. -/
theorem violations_exact (s : Spec) :
    (∀ l : List Violation, l = s.violations ↔
      (∀ v, v ∈ l ↔ s.Breaks v) ∧ (l.map Violation.concern).Sublist Concern.all) ∧
    ∀ (t : Spec) (v : Violation), (∀ f ∈ v.concern.fields, s.get f = t.get f) →
      (v ∈ s.violations ↔ v ∈ t.violations) := by
  refine ⟨fun l => ⟨?_, fun h => eq_violations h.1 h.2⟩, fun t v h => ?_⟩
  · rintro rfl
    exact ⟨fun _ => mem_violations_iff, Rule.concerns_sublist Rule.judges_all⟩
  · rw [mem_violations_iff, mem_violations_iff, breaks_congr h]

/-- The order of two periods is reported of a group without a name as of one with a name. -/
theorem violations_exact_unnamed :
    (∀ f ∈ (Violation.gracePeriodOrder "1h" "60m").concern.fields,
      ({ softDeleteGracePeriod := "1h", hardDeleteGracePeriod := "60m" } : Spec).get f =
        ({ name := "a", softDeleteGracePeriod := "1h", hardDeleteGracePeriod := "60m" } :
          Spec).get f) ∧
    Violation.gracePeriodOrder "1h" "60m" ∈
      ({ softDeleteGracePeriod := "1h", hardDeleteGracePeriod := "60m" } : Spec).violations ∧
    Violation.gracePeriodOrder "1h" "60m" ∈
      ({ name := "a", softDeleteGracePeriod := "1h", hardDeleteGracePeriod := "60m" } :
        Spec).violations := by
  have hagree : ∀ f ∈ (Violation.gracePeriodOrder "1h" "60m").concern.fields,
      ({ softDeleteGracePeriod := "1h", hardDeleteGracePeriod := "60m" } : Spec).get f =
        ({ name := "a", softDeleteGracePeriod := "1h", hardDeleteGracePeriod := "60m" } :
          Spec).get f :=
    List.forall_mem_cons.mpr ⟨rfl, List.forall_mem_singleton.mpr rfl⟩
  have hunnamed : Violation.gracePeriodOrder "1h" "60m" ∈
      ({ softDeleteGracePeriod := "1h", hardDeleteGracePeriod := "60m" } : Spec).violations := by
    decide +kernel
  exact ⟨hagree, hunnamed, ((violations_exact _).2 _ _ hagree).mp hunnamed⟩

end Spec
end Autoscaler.NodeGroup
