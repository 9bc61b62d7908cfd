import Autoscaler.NodeGroup.Report
import Mathlib.Algebra.Ring.Nat
import Mathlib.Data.Finset.Card
import Mathlib.Data.List.Basic

/-!
# Exactness of reports

The pass over the node groups carries a register of names. After any number of groups it holds
exactly the first position of each name that is not empty, so each verdict is the one that a
comparison with all earlier groups gives. The entries of a report, their number and the log follow.
-/

namespace Autoscaler.Proofs
open NodeGroup

/-- The group at `first` has a name, and no group before it has. -/
def FirstNamed (specs : List Spec) (name : String) (first : Nat) : Prop :=
  (∃ t, specs[first]? = some t ∧ t.name = name) ∧
    ∀ j < first, ∀ t, specs[j]? = some t → t.name ≠ name

/-- The group at a position has the name of an earlier one. -/
def NameRepeated (specs : List Spec) (index : Nat) (s : Spec) : Prop :=
  s.name ≠ "" ∧ ∃ j < index, ∃ t, specs[j]? = some t ∧ t.name = s.name

/-- The names that are not empty, in order and with repetitions. -/
def givenNames (specs : List Spec) : List String := (specs.map Spec.name).filter (· ≠ "")

/-- The position where a name stands first. The empty name stands nowhere. -/
def firstPosition (specs : List Spec) (name : String) : Option Nat :=
  if name = "" then none else specs.findIdx? (·.name = name)

/-- What is wrong with a group's name after the groups before it. -/
def nameClash (earlier : List Spec) (s : Spec) : List Violation :=
  ((firstPosition earlier s.name).map (Violation.duplicateName s.name)).toList

/-- What is wrong with the group at a position, told without a register. -/
def violationsAt (specs : List Spec) (index : Nat) (s : Spec) : List Violation :=
  s.violations ++ nameClash (specs.take index) s

lemma firstPosition_eq_some {specs : List Spec} {name : String} {first : Nat} :
    firstPosition specs name = some first ↔ name ≠ "" ∧ FirstNamed specs name first := by
  unfold firstPosition FirstNamed
  by_cases hn : name = ""
  · simp [hn]
  · simp only [hn, if_false, List.findIdx?_eq_some_iff_getElem, decide_eq_true_eq, ne_eq,
      not_false_eq_true, true_and]
    constructor
    · rintro ⟨hlt, hname, hbefore⟩
      refine ⟨⟨specs[first], List.getElem?_eq_getElem hlt, hname⟩, ?_⟩
      intro j hj t ht
      have hb := hbefore j hj
      rw [List.getElem?_eq_getElem (by omega), Option.some.injEq] at ht
      rwa [ht] at hb
    · rintro ⟨⟨t, ht, hname⟩, hbefore⟩
      obtain ⟨hlt, rfl⟩ := List.getElem?_eq_some_iff.mp ht
      refine ⟨hlt, hname, ?_⟩
      intro j hj
      exact hbefore j hj _ (List.getElem?_eq_getElem (by omega))

lemma firstPosition_eq_none {specs : List Spec} {name : String} :
    firstPosition specs name = none ↔ name = "" ∨ ∀ t ∈ specs, t.name ≠ name := by
  unfold firstPosition
  by_cases hn : name = "" <;> simp [hn, List.findIdx?_eq_none_iff]

/-- A register holds the first positions of the names of some groups. -/
def Tracks (r : Register) (earlier : List Spec) : Prop :=
  ∀ name, r.lookup name = firstPosition earlier name

lemma firstPosition_append (earlier : List Spec) (s : Spec) (name : String) :
    firstPosition (earlier ++ [s]) name = (firstPosition earlier name).or
      (if name ≠ "" ∧ s.name = name then some earlier.length else none) := by
  unfold firstPosition
  by_cases hn : name = ""
  · simp [hn]
  · by_cases hs : s.name = name <;> simp [hn, hs, List.findIdx?_append]

lemma enter_clash {r : Register} {earlier : List Spec} (h : Tracks r earlier) (index : Nat)
    (s : Spec) : (r.enter index s).2 = nameClash earlier s := by
  have hs := h s.name
  unfold Register.enter nameClash
  rw [hs]
  by_cases hn : s.name = ""
  · simp [hn, firstPosition]
  · cases firstPosition earlier s.name <;> simp [hn]

lemma tracks_enter {r : Register} {earlier : List Spec} (h : Tracks r earlier) (s : Spec) :
    Tracks (r.enter earlier.length s).1 (earlier ++ [s]) := by
  intro name
  have hs := h s.name
  rw [firstPosition_append, ← h name]
  unfold Register.enter
  by_cases hn : s.name = ""
  · simp [hn]
  · cases hl : r.lookup s.name with
    | some first =>
      by_cases hname : s.name = name
      · subst hname
        simp [hn, hl]
      · simp [hn, hname]
    | none =>
      by_cases hname : s.name = name
      · subst hname
        simp [hn, hl]
      · have hb : (name == s.name) = false := by simpa using Ne.symm hname
        simp [hn, hname, List.lookup_cons, hb]

/-- The pass with a register that is true of the groups before it. -/
theorem judge_eq {r : Register} {earlier : List Spec} (h : Tracks r earlier) (specs : List Spec) :
    judge r earlier.length specs = (specs.zipIdx earlier.length).map fun (s, i) =>
      ⟨i, s, violationsAt (earlier ++ specs) i s⟩ := by
  induction specs generalizing r earlier with
  | nil => rfl
  | cons s rest ih =>
    have hrest := ih (tracks_enter h s)
    rw [List.length_append, List.length_singleton, List.append_assoc] at hrest
    simp only [judge, List.zipIdx_cons, List.map_cons]
    rw [hrest, enter_clash h]
    simp [violationsAt]

theorem verdicts_eq (specs : List Spec) :
    verdicts specs = specs.zipIdx.map fun (s, i) => ⟨i, s, violationsAt specs i s⟩ := by
  have h : Tracks [] [] := by
    intro name
    simp [firstPosition]
  exact judge_eq h specs

lemma failure?_eq_some {v : Verdict} {f : Failure} :
    v.failure? = some f ↔ v.violations ≠ [] ∧ f = ⟨v.index, v.spec.name, v.violations⟩ := by
  unfold Verdict.failure?
  by_cases hv : v.violations = []
  · simp [hv]
  · simp only [hv, List.isEmpty_iff, if_false, Option.some.injEq, ne_eq, not_false_eq_true, true_and]
    exact eq_comm

/-- The entries of a report, told without a register. -/
lemma mem_failures {specs : List Spec} {f : Failure} :
    f ∈ (Report.ofSpecs specs).failures ↔ ∃ s, specs[f.index]? = some s ∧ f.name = s.name ∧
      f.violations = violationsAt specs f.index s ∧ f.violations ≠ [] := by
  simp only [Report.ofSpecs, verdicts_eq, List.mem_filterMap, List.mem_map, Prod.exists,
    List.mem_zipIdx_iff_getElem?, failure?_eq_some]
  constructor
  · rintro ⟨v, ⟨s, i, hs, rfl⟩, hv, rfl⟩
    exact ⟨s, hs, rfl, rfl, hv⟩
  · rintro ⟨s, hs, hname, hviolations, hne⟩
    rw [hviolations] at hne
    refine ⟨_, ⟨s, f.index, hs, rfl⟩, hne, ?_⟩
    rw [← hname, ← hviolations]

lemma pairwise_index (specs : List Spec) :
    ((Report.ofSpecs specs).failures.map (·.index)).Pairwise (· < ·) := by
  have hverdicts : (verdicts specs).Pairwise fun a b => a.index < b.index := by
    rw [verdicts_eq, List.pairwise_map, List.pairwise_iff_getElem]
    intro i j hi hj hij
    simpa using hij
  rw [List.pairwise_map]
  refine hverdicts.filterMap _ ?_
  intro a b hab f hf g hg
  obtain ⟨-, rfl⟩ := failure?_eq_some.mp hf
  obtain ⟨-, rfl⟩ := failure?_eq_some.mp hg
  exact hab

lemma violationsAt_cases (specs : List Spec) (index : Nat) (s : Spec) :
    (¬NameRepeated specs index s ∧ violationsAt specs index s = s.violations) ∨
    ∃ first < index, s.name ≠ "" ∧ FirstNamed specs s.name first ∧
      violationsAt specs index s = s.violations ++ [.duplicateName s.name first] := by
  have htake : ∀ j < index, (specs.take index)[j]? = specs[j]? := by
    intro j hj
    simp [hj]
  cases hp : firstPosition (specs.take index) s.name with
  | none =>
    refine .inl ⟨?_, by simp [violationsAt, nameClash, hp]⟩
    rintro ⟨hn, j, hj, t, ht, hname⟩
    rcases firstPosition_eq_none.mp hp with h | h
    · exact hn h
    · rw [← htake j hj] at ht
      exact h t (List.mem_of_getElem? ht) hname
  | some first =>
    obtain ⟨hn, ⟨t, ht, hname⟩, hbefore⟩ := firstPosition_eq_some.mp hp
    have hlt : first < index := by
      have h := (List.getElem?_eq_some_iff.mp ht).1
      rw [List.length_take] at h
      omega
    refine .inr ⟨first, hlt, hn, ⟨⟨t, by rwa [htake first hlt] at ht, hname⟩, ?_⟩,
      by simp [violationsAt, nameClash, hp]⟩
    intro j hj u hu
    exact hbefore j hj u (by rwa [htake j (by omega)])

lemma violationsAt_ne_nil (specs : List Spec) (index : Nat) (s : Spec) :
    violationsAt specs index s ≠ [] ↔ s.violations ≠ [] ∨ NameRepeated specs index s := by
  rcases violationsAt_cases specs index s with ⟨hn, h⟩ | ⟨first, hlt, hn, ⟨⟨t, ht, hname⟩, -⟩, h⟩
  · simp [h, hn]
  · have hr : NameRepeated specs index s := ⟨hn, first, hlt, t, ht, hname⟩
    simp [h, hr]

/-- Groups after a position do not matter to the verdict there. -/
lemma violationsAt_append (specs : List Spec) (t : Spec) {index : Nat} (h : index < specs.length)
    (s : Spec) : violationsAt (specs ++ [t]) index s = violationsAt specs index s := by
  unfold violationsAt
  rw [List.take_append_of_le_length (by omega)]

lemma verdicts_append (specs : List Spec) (t : Spec) :
    verdicts (specs ++ [t]) = verdicts specs ++
      [⟨specs.length, t, t.violations ++ nameClash specs t⟩] := by
  rw [verdicts_eq, verdicts_eq, List.zipIdx_append, List.map_append]
  congr 1
  · apply List.map_congr_left
    rintro ⟨s, i⟩ hs
    have hi := (List.getElem?_eq_some_iff.mp (List.mem_zipIdx_iff_getElem?.mp hs)).1
    simp [violationsAt_append specs t hi s]
  · simp [violationsAt]

/-- The number of violations counts those of the groups that pass as well: they have none. -/
lemma errorCount_eq (specs : List Spec) : (Report.ofSpecs specs).errorCount =
    ((verdicts specs).map (·.violations.length)).sum := by
  unfold Report.errorCount Report.ofSpecs
  rw [List.length_flatMap]
  induction verdicts specs with
  | nil => rfl
  | cons v rest ih =>
    by_cases hv : v.violations = [] <;> simpa [Verdict.failure?, hv] using ih

lemma givenNames_append (specs : List Spec) (t : Spec) : givenNames (specs ++ [t]) =
    givenNames specs ++ if t.name = "" then [] else [t.name] := by
  by_cases hn : t.name = "" <;> simp [givenNames, hn]

lemma mem_givenNames {specs : List Spec} {name : String} :
    name ∈ givenNames specs ↔ name ≠ "" ∧ ∃ t ∈ specs, t.name = name := by
  simp [givenNames, and_comm]

/-- A name that is given again is one more clash, and any other one more distinct name. -/
lemma nameClash_length (specs : List Spec) (t : Spec) :
    (nameClash specs t).length + (givenNames (specs ++ [t])).toFinset.card + (givenNames specs).length =
      (givenNames specs).toFinset.card + (givenNames (specs ++ [t])).length := by
  rw [givenNames_append]
  by_cases hn : t.name = ""
  · simp [hn, nameClash, firstPosition]
  · simp only [hn, if_false, List.toFinset_append, List.toFinset_cons, List.toFinset_nil,
      List.length_append, List.length_singleton]
    cases hp : firstPosition specs t.name with
    | none =>
      have hfresh : t.name ∉ (givenNames specs).toFinset := by
        rw [List.mem_toFinset, mem_givenNames]
        rintro ⟨-, u, hu, hname⟩
        rcases firstPosition_eq_none.mp hp with h | h
        · exact hn h
        · exact h u hu hname
      have hcard := Finset.card_insert_of_notMem hfresh
      rw [Finset.insert_eq] at hcard
      simp only [nameClash, hp, Option.map_none, Option.toList_none, List.length_nil]
      simp only [insert_empty_eq, Finset.union_comm]
      omega
    | some first =>
      obtain ⟨-, ⟨u, hu, hname⟩, -⟩ := firstPosition_eq_some.mp hp
      have hmem : t.name ∈ (givenNames specs).toFinset := by
        rw [List.mem_toFinset, mem_givenNames]
        exact ⟨hn, u, List.mem_of_getElem? hu, hname⟩
      have hunion : (givenNames specs).toFinset ∪ {t.name} = (givenNames specs).toFinset := by
        simpa using hmem
      simp only [nameClash, hp, Option.map_some, Option.toList_some, List.length_singleton,
        insert_empty_eq, hunion]
      omega

/-- Each violation is one of a group alone or a name given again. -/
theorem errorCount_add_card (specs : List Spec) :
    (Report.ofSpecs specs).errorCount + (givenNames specs).toFinset.card =
      (specs.map (·.violations.length)).sum + (givenNames specs).length := by
  rw [errorCount_eq]
  induction specs using List.reverseRecOn with
  | nil => rfl
  | append_singleton specs t ih =>
    have hclash := nameClash_length specs t
    rw [verdicts_append]
    simp only [List.map_append, List.map_cons, List.map_nil, List.sum_append, List.sum_singleton,
      List.length_append]
    omega

lemma name_ne_empty {s : Spec} (h : s.violations = []) : s.name ≠ "" := by
  intro hn
  have hmem : Violation.emptyField .name ∈ s.violations := by
    unfold Spec.violations
    rw [List.mem_filterMap]
    exact ⟨Rule.nonEmpty .name Spec.name, by simp [Rule.all], by simp [Rule.nonEmpty, hn]⟩
  rw [h] at hmem
  exact List.not_mem_nil hmem

lemma isOk_iff_forall (specs : List Spec) : (Report.ofSpecs specs).isOk ↔
    ∀ i s, specs[i]? = some s → s.violations = [] ∧ ¬NameRepeated specs i s := by
  unfold Report.isOk
  rw [List.isEmpty_iff, List.eq_nil_iff_forall_not_mem]
  constructor
  · intro h i s hs
    by_contra hbad
    have hne : violationsAt specs i s ≠ [] := by
      rw [violationsAt_ne_nil]
      tauto
    exact h ⟨i, s.name, violationsAt specs i s⟩ (mem_failures.mpr ⟨s, hs, rfl, rfl, hne⟩)
  · intro h f hf
    obtain ⟨s, hs, -, hviolations, hne⟩ := mem_failures.mp hf
    rw [hviolations, violationsAt_ne_nil] at hne
    have hs := h f.index s hs
    tauto

/-- All is well if each group passes alone and no two have one name. -/
theorem isOk_iff (specs : List Spec) : (Report.ofSpecs specs).isOk ↔
    (∀ s ∈ specs, s.violations = []) ∧ (specs.map Spec.name).Nodup := by
  rw [isOk_iff_forall]
  constructor
  · intro h
    refine ⟨?_, ?_⟩
    · intro s hs
      obtain ⟨i, hi⟩ := List.mem_iff_getElem?.mp hs
      exact (h i s hi).1
    · rw [List.Nodup, List.pairwise_map, List.pairwise_iff_getElem]
      intro j i hj hi hji heq
      have hgood := h i specs[i] (List.getElem?_eq_getElem hi)
      exact hgood.2 ⟨name_ne_empty hgood.1, j, hji, specs[j], List.getElem?_eq_getElem hj, heq⟩
  · rintro ⟨halone, hnodup⟩ i s hs
    refine ⟨halone s (List.mem_of_getElem? hs), ?_⟩
    rintro ⟨-, j, hji, t, ht, hname⟩
    rw [List.Nodup, List.pairwise_map, List.pairwise_iff_getElem] at hnodup
    obtain ⟨hi, rfl⟩ := List.getElem?_eq_some_iff.mp hs
    obtain ⟨hj, rfl⟩ := List.getElem?_eq_some_iff.mp ht
    exact hnodup j i hj hi hji hname

/-- The entry of a report on the group at a position. -/
lemma find?_failures {specs : List Spec} {i : Nat} {s : Spec} (hs : specs[i]? = some s) :
    (Report.ofSpecs specs).failures.find? (·.index = i) =
      Verdict.failure? ⟨i, s, violationsAt specs i s⟩ := by
  cases hf : (Report.ofSpecs specs).failures.find? (·.index = i) with
  | none =>
    cases hv : Verdict.failure? ⟨i, s, violationsAt specs i s⟩ with
    | none => rfl
    | some f =>
      obtain ⟨hne, rfl⟩ := failure?_eq_some.mp hv
      have hmem : ⟨i, s.name, violationsAt specs i s⟩ ∈ (Report.ofSpecs specs).failures :=
        mem_failures.mpr ⟨s, hs, rfl, rfl, hne⟩
      simpa using List.find?_eq_none.mp hf _ hmem
  | some f =>
    have hi : f.index = i := by simpa using List.find?_some hf
    obtain ⟨t, ht, hname, hviolations, hne⟩ := mem_failures.mp (List.mem_of_find?_eq_some hf)
    rw [hi] at ht hviolations
    obtain rfl : t = s := by simpa [ht] using hs
    symm
    rw [failure?_eq_some]
    dsimp only
    rw [← hviolations, ← hname, ← hi]
    exact ⟨hne, rfl⟩

/-- What is logged about a group: one line that it passes if the report has no entry on it, and
otherwise one that it fails and one for each error of the entry. -/
def entryLog (index : Nat) (s : Spec) : Option Failure → List Log.Event
  | none =>
    [⟨.info, .validation, "Validating options: [PASS]", [("nodegroup", .shown s.name)]⟩]
  | some f =>
    ⟨.error, .validation, "Validating options: [FAIL]",
      [("nodegroup", .shown s.name), ("index", .number index)]⟩ ::
    f.violations.map fun v => ⟨.error, .validation, "failed check",
      [("nodegroup", .shown s.name), ("error", .shown v.message)]⟩

theorem log_eq (specs : List Spec) : Report.log specs = specs.zipIdx.flatMap fun (s, i) =>
    entryLog i s ((Report.ofSpecs specs).failures.find? (·.index = i)) := by
  unfold Report.log
  rw [verdicts_eq, List.flatMap_map]
  apply List.flatMap_congr
  rintro ⟨s, i⟩ hmem
  dsimp only
  rw [find?_failures (List.mem_zipIdx_iff_getElem?.mp hmem)]
  by_cases hv : violationsAt specs i s = [] <;>
    simp [Report.verdictLog, Report.passEvent, Report.failEvent, Report.violationEvent,
      Verdict.failure?, entryLog, hv]

/-- The report on any list of groups. Its entries are the groups that fail alone or have the name
of an earlier group, in order, and the latter are referred to the first group of that name. Its
count, its verdict and the log say the same. -/
theorem report_exact (specs : List Spec) :
    ((Report.ofSpecs specs).failures.map (·.index)).Pairwise (· < ·) ∧
    (∀ i, i ∈ (Report.ofSpecs specs).failures.map (·.index) ↔
      ∃ s, specs[i]? = some s ∧ (s.violations ≠ [] ∨ NameRepeated specs i s)) ∧
    (∀ f ∈ (Report.ofSpecs specs).failures, ∃ s, specs[f.index]? = some s ∧ f.name = s.name ∧
      (¬NameRepeated specs f.index s ∧ f.violations = s.violations ∨
        NameRepeated specs f.index s ∧ ∃ first, FirstNamed specs s.name first ∧
          f.violations = s.violations ++ [.duplicateName s.name first])) ∧
    (Report.ofSpecs specs).errorCount + (givenNames specs).toFinset.card =
      (specs.map (·.violations.length)).sum + (givenNames specs).length ∧
    ((Report.ofSpecs specs).isOk ↔
      (∀ s ∈ specs, s.violations = []) ∧ (specs.map Spec.name).Nodup) ∧
    Report.log specs = specs.zipIdx.flatMap fun (s, i) =>
      entryLog i s ((Report.ofSpecs specs).failures.find? (·.index = i)) := by
  refine ⟨pairwise_index specs, ?_, ?_, errorCount_add_card specs, isOk_iff specs, log_eq specs⟩
  · intro i
    rw [List.mem_map]
    constructor
    · rintro ⟨f, hf, rfl⟩
      obtain ⟨s, hs, -, hviolations, hne⟩ := mem_failures.mp hf
      rw [hviolations, violationsAt_ne_nil] at hne
      exact ⟨s, hs, hne⟩
    · rintro ⟨s, hs, hbad⟩
      have hne := (violationsAt_ne_nil specs i s).mpr hbad
      exact ⟨⟨i, s.name, violationsAt specs i s⟩, mem_failures.mpr ⟨s, hs, rfl, rfl, hne⟩, rfl⟩
  · intro f hf
    obtain ⟨s, hs, hname, hviolations, -⟩ := mem_failures.mp hf
    refine ⟨s, hs, hname, ?_⟩
    rw [hviolations]
    rcases violationsAt_cases specs f.index s with h | ⟨first, hlt, hn, hfirst, h⟩
    · exact .inl h
    · obtain ⟨t, ht, htn⟩ := hfirst.1
      exact .inr ⟨⟨hn, first, hlt, t, ht, htn⟩, first, hfirst, h⟩

end Autoscaler.Proofs
