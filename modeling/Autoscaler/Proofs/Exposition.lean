import Autoscaler.Metrics.Exposition
import Autoscaler.Proofs.MetricsLaws

/-!
# What the text of the metrics depends on

Where the groups have different keys, the text is a function of the times of the cycles in their
order, of the number of failures of each group and of the latest state of each group, whatever the
order of the measurements and of the entries in their store. The lines that show a group depend on its
own failures and state alone. Groups with one key share their entries, and which of them comes first
shows in the text.
-/

namespace Autoscaler

namespace Series

variable {α : Type} {s kept : Series α} {name : String}

/-- The entries in the order of their names. -/
def inOrder (s : Series α) : Series α := s.mergeSort fun a b => decide (a.1 ≤ b.1)

/-- Entries that are held in any order come to the same series once they are put in order. -/
lemma Sorted.inOrder_of_perm (hs : s.Sorted) (hkept : kept.Perm s) : kept.inOrder = s := by
  have hperm : kept.inOrder.Perm s := (List.mergeSort_perm _ _).trans hkept
  have hsorted : kept.inOrder.Pairwise fun a b => a.1 ≤ b.1 := by
    have htrans : ∀ a b c : String × α, decide (a.1 ≤ b.1) = true → decide (b.1 ≤ c.1) = true →
        decide (a.1 ≤ c.1) = true := by
      intro a b c hab hbc
      rw [decide_eq_true_eq] at hab hbc ⊢
      exact hab.trans hbc
    have htotal : ∀ a b : String × α, (decide (a.1 ≤ b.1) || decide (b.1 ≤ a.1)) = true := by
      intro a b
      simpa using le_total a.1 b.1
    simpa [inOrder] using List.pairwise_mergeSort htrans htotal kept
  have hunique : ∀ a b, a ∈ kept.inOrder → b ∈ s → a.1 ≤ b.1 → b.1 ≤ a.1 → a = b := by
    rintro ⟨a, x⟩ ⟨b, y⟩ ha hb hab hba
    obtain rfl : a = b := le_antisymm hab hba
    have hx := hs.mem_iff.mp (hperm.subset ha)
    have hy := hs.mem_iff.mp hb
    rw [hx, Option.some.injEq] at hy
    rw [hy]
  exact hperm.eq_of_pairwise hunique hsorted (hs.imp fun h => h.1.le)

lemma Sorted.filter_name (hs : s.Sorted) :
    s.filter (fun p => p.1 = name) = ((s.get? name).map fun value => (name, value)).toList := by
  induction s with
  | nil => rfl
  | cons p rest ih =>
    have hrest := ih (List.pairwise_cons.mp hs).2
    rw [get?_cons]
    by_cases hname : p.1 = name
    · subst hname
      rw [hs.get?_rest] at hrest
      simp [hrest]
    · simp [hname, hrest]

end Series

namespace Metrics

variable {records records' : List Record} {r r' : Record} {m m' kept : Metrics}
  {group other : String}

/-- Sequences of measurements with the same cycle times in order, and for each group the same number
of failures and the same latest state. -/
structure SameHistory (records records' : List Record) : Prop where
  cycleTimes : cycleTimes records = cycleTimes records'
  failures : ∀ group, failures group records = failures group records'
  latest : ∀ group, latest? group records = latest? group records'

/-- The groups that have been measured have different keys. -/
def Apart (records : List Record) : Prop := ∀ name ∈ groups records, Alone name records

instance (records : List Record) : Decidable (Apart records) :=
  inferInstanceAs (Decidable (∀ name ∈ groups records, Alone name records))

/-- A group that has been measured has failed or has been seen. -/
lemma mem_groups_iff :
    group ∈ groups records ↔ failures group records ≠ 0 ∨ latest? group records ≠ none := by
  simp only [groups, List.mem_filterMap, failures, latest?, ← Nat.pos_iff_ne_zero,
    List.count_pos_iff, ← Option.isSome_iff_ne_none, List.findSome?_isSome_iff, List.mem_reverse]
  constructor
  · rintro ⟨r, hr, hgroup⟩
    cases r with
    | cycle => cases hgroup
    | failure name =>
      cases hgroup
      exact .inl hr
    | state name seen =>
      cases hgroup
      exact .inr ⟨_, hr, by simp [Record.state?]⟩
  · rintro (hr | ⟨r, hr, hseen⟩)
    · exact ⟨_, hr, rfl⟩
    · cases r with
      | cycle | failure => cases hseen
      | state name seen =>
        refine ⟨_, hr, ?_⟩
        by_contra hne
        have hother : (Record.state name seen).state? group = none :=
          if_neg fun heq => hne (congrArg some heq)
        rw [hother] at hseen
        cases hseen

lemma SameHistory.mem_groups (h : SameHistory records records') :
    group ∈ groups records ↔ group ∈ groups records' := by
  rw [mem_groups_iff, mem_groups_iff, h.failures, h.latest]

lemma Shows.get?_eq_none {α : Type} {value? : String → List Record → Option α} {s : Series α}
    (h : Shows value? records s) (hgroup : group ∉ groups records) : s.get? group = none :=
  Series.get?_eq_none_iff.mpr fun p hp heq => hgroup (heq ▸ h.measured p hp)

lemma Shows.ext {α : Type} {value? : String → List Record → Option α} {s t : Series α}
    (hs : Shows value? records s) (ht : Shows value? records' t) (hapart : Apart records)
    (hsame : SameHistory records records')
    (hvalue : ∀ group, value? group records = value? group records') : s = t := by
  refine hs.sorted.ext ht.sorted ?_
  intro group
  by_cases hgroup : group ∈ groups records
  · have halone := hapart group hgroup
    have halone' : Alone group records' := fun other hother => halone other (hsame.mem_groups.mpr hother)
    rw [hs.get?_eq group halone, ht.get?_eq group halone', hvalue]
  · rw [hs.get?_eq_none hgroup, ht.get?_eq_none fun h => hgroup (hsame.mem_groups.mpr h)]

/-- Metrics are determined by the history, where the groups have different keys. -/
lemma Reflects.ext (h : Reflects records m) (h' : Reflects records' m') (hapart : Apart records)
    (hsame : SameHistory records records') : m = m' := by
  have hcycles : m.cycles = m'.cycles := by rw [h.cycles, h'.cycles, hsame.cycleTimes]
  have hdurations : m.durations = m'.durations := by
    rw [h.durations, h'.durations, hsame.cycleTimes]
  have hfailures : ∀ group, failures? group records = failures? group records' := by
    intro group
    rw [failures?, failures?, hsame.failures]
  have hgauged {α : Type} (value : GroupState → α) :
      ∀ group, gauged? value group records = gauged? value group records' := by
    intro group
    rw [gauged?, gauged?, hsame.latest]
  have herrors := h.errors.ext h'.errors hapart hsame hfailures
  have hnodes := h.nodes.ext h'.nodes hapart hsame (hgauged _)
  have hpods := h.pods.ext h'.pods hapart hsame (hgauged _)
  have hcpu := h.cpuPercent.ext h'.cpuPercent hapart hsame (hgauged _)
  have hmemory := h.memoryPercent.ext h'.memoryPercent hapart hsame (hgauged _)
  have hdry := h.dryMode.ext h'.dryMode hapart hsame (hgauged _)
  cases m
  cases m'
  simp_all

/-- Measurements of groups with different keys can be made in either order. -/
lemma Reflects.add_comm (h : Reflects records m) (hne : r.key? ≠ r'.key?) :
    (m.add r).add r' = (m.add r').add r := by
  cases r with
  | cycle =>
    cases r' with
    | cycle => exact absurd rfl hne
    | failure | state => rfl
  | failure group =>
    cases r' with
    | cycle | state => rfl
    | failure other =>
      have hkey : Series.key group ≠ Series.key other := fun heq => hne (congrArg some heq)
      simp only [Metrics.add, h.errors.sorted.alter_comm hkey]
  | state group seen =>
    cases r' with
    | cycle | failure => rfl
    | state other seen' =>
      have hkey : Series.key group ≠ Series.key other := fun heq => hne (congrArg some heq)
      simp only [Metrics.add, Series.put, h.nodes.sorted.alter_comm hkey, h.pods.sorted.alter_comm hkey,
        h.cpuPercent.sorted.alter_comm hkey, h.memoryPercent.sorted.alter_comm hkey,
        h.dryMode.sorted.alter_comm hkey]

/-- A store with the same entries, held in any order. -/
structure Holds (kept m : Metrics) : Prop where
  cycles : kept.cycles = m.cycles
  durations : kept.durations = m.durations
  errors : kept.errors.Perm m.errors
  nodes : kept.nodes.Perm m.nodes
  pods : kept.pods.Perm m.pods
  cpuPercent : kept.cpuPercent.Perm m.cpuPercent
  memoryPercent : kept.memoryPercent.Perm m.memoryPercent
  dryMode : kept.dryMode.Perm m.dryMode

/-- The metrics with the entries of each series in the order of their names. -/
def inOrder (m : Metrics) : Metrics where
  cycles := m.cycles
  durations := m.durations
  errors := m.errors.inOrder
  nodes := m.nodes.inOrder
  pods := m.pods.inOrder
  cpuPercent := m.cpuPercent.inOrder
  memoryPercent := m.memoryPercent.inOrder
  dryMode := m.dryMode.inOrder

lemma Reflects.inOrder_eq (h : Reflects records m) (hkept : kept.Holds m) : kept.inOrder = m := by
  unfold inOrder
  rw [hkept.cycles, hkept.durations, h.errors.sorted.inOrder_of_perm hkept.errors,
    h.nodes.sorted.inOrder_of_perm hkept.nodes, h.pods.sorted.inOrder_of_perm hkept.pods,
    h.cpuPercent.sorted.inOrder_of_perm hkept.cpuPercent,
    h.memoryPercent.sorted.inOrder_of_perm hkept.memoryPercent,
    h.dryMode.sorted.inOrder_of_perm hkept.dryMode]

/-- What follows the name of the metric in a line. -/
def afterName (line : List Char) : List Char := line.dropWhile fun c => c != ' ' && c != '\x7b'

/-- Whether a line shows a value of a group: the labels after the name of the metric are those of the
group. -/
def tellsOf (group line : String) : Bool :=
  (renderLabels [("nodegroup", group)] ++ " ").toList.isPrefixOf (afterName line.toList)

lemma escapeLabelChar_cases (c : Char) :
    (∃ e, escapeLabelChar c = ['\\', e] ∧
      (c = '\\' ∧ e = '\\' ∨ c = '"' ∧ e = '"' ∨ c = '\n' ∧ e = 'n')) ∨
      escapeLabelChar c = [c] ∧ c ≠ '\\' ∧ c ≠ '"' := by
  unfold escapeLabelChar
  split
  next => exact .inl ⟨_, rfl, by simp⟩
  next => exact .inl ⟨_, rfl, by simp⟩
  next => exact .inl ⟨_, rfl, by simp⟩
  next hbackslash hquote _ => exact .inr ⟨rfl, hbackslash, hquote⟩

/-- An escaped text ends at the first quote that follows it, so it is read back in one way. -/
lemma eq_of_closed_after_escape {a b x y : List Char}
    (h : a.flatMap escapeLabelChar ++ '"' :: x <+: b.flatMap escapeLabelChar ++ '"' :: y) :
    a = b := by
  induction a generalizing b with
  | nil =>
    cases b with
    | nil => rfl
    | cons d b =>
      rcases escapeLabelChar_cases d with ⟨e, hd, -⟩ | ⟨hd, -, hquote⟩
      · simp [hd] at h
      · simp [hd, hquote.symm] at h
  | cons c a ih =>
    cases b with
    | nil =>
      rcases escapeLabelChar_cases c with ⟨e, hc, -⟩ | ⟨hc, -, hquote⟩
      · simp [hc] at h
      · simp [hc, hquote] at h
    | cons d b =>
      rcases escapeLabelChar_cases c with ⟨e, hc, he⟩ | ⟨hc, hbackslash, -⟩ <;>
        rcases escapeLabelChar_cases d with ⟨e', hd, he'⟩ | ⟨hd, hbackslash', -⟩ <;>
        simp only [List.flatMap_cons, hc, hd, List.cons_append, List.nil_append,
          List.cons_prefix_cons] at h
      · have htail := ih h.2.2
        grind
      · exact absurd h.1.symm hbackslash'
      · exact absurd h.1 hbackslash
      · rw [h.1, ih h.2]

/-- A name of a metric holds nothing that ends it. -/
def isMetricName (name : String) : Bool := name.toList.all fun c => c != ' ' && c != '\x7b'

lemma afterName_append {name : String} (hname : isMetricName name = true) (rest : List Char) :
    afterName (name.toList ++ rest) = afterName rest :=
  List.dropWhile_append_of_pos (List.all_eq_true.mp hname)

lemma tellsOf_line {family : String} {s : Sample}
    (hname : isMetricName (family ++ s.ending) = true) :
    tellsOf group (s.line family) = (renderLabels [("nodegroup", group)] ++ " ").toList.isPrefixOf
      (afterName (renderLabels s.labels ++ " " ++ s.value.render).toList) := by
  have hline : (s.line family).toList =
      (family ++ s.ending).toList ++ (renderLabels s.labels ++ " " ++ s.value.render).toList := by
    simp [Sample.line]
  rw [tellsOf, hline, afterName_append hname]

lemma renderLabels_toList (name value : String) : (renderLabels [(name, value)]).toList =
    '\x7b' :: (name.toList ++ '=' :: '"' :: (value.toList.flatMap escapeLabelChar ++ ['"', '\x7d'])) := by
  simp [renderLabels, escapeLabel]

def groupSample (group : String) (value : Binary64) : Sample where
  labels := [("nodegroup", group)]
  value

lemma tellsOf_groupSample {family : String} (hname : isMetricName family = true) (value : Binary64) :
    tellsOf group ((groupSample other value).line family) = decide (other = group) := by
  have hfamily : isMetricName (family ++ (groupSample other value).ending) = true := by
    simpa [groupSample] using hname
  rw [tellsOf_line hfamily, Bool.eq_iff_iff, List.isPrefixOf_iff_prefix, decide_eq_true_eq]
  simp only [groupSample, String.toList_append, renderLabels_toList, afterName, List.cons_append,
    List.append_assoc, List.dropWhile_cons]
  simp only [bne_self_eq_false, Bool.and_false, Bool.false_eq_true, if_false, List.cons_prefix_cons,
    List.prefix_append_right_inj, true_and]
  constructor
  · intro h
    exact String.toList_injective (eq_of_closed_after_escape h).symm
  · rintro rfl
    simp

lemma tellsOf_unlabelled {family : String} {s : Sample}
    (hname : isMetricName (family ++ s.ending) = true) (hlabels : s.labels = []) :
    tellsOf group (s.line family) = false := by
  have htext : (renderLabels s.labels ++ " " ++ s.value.render).toList =
      ' ' :: s.value.render.toList := by simp [hlabels, renderLabels]
  rw [tellsOf_line hname, htext]
  simp [renderLabels_toList, afterName, List.isPrefixOf]

lemma tellsOf_bucket {family bound : String} {s : Sample}
    (hname : isMetricName (family ++ s.ending) = true) (hlabels : s.labels = [("le", bound)]) :
    tellsOf group (s.line family) = false := by
  rw [tellsOf_line hname]
  simp [hlabels, renderLabels_toList, afterName, List.isPrefixOf]

lemma tellsOf_comment {line : String} {rest : List Char} (h : line.toList = '#' :: ' ' :: rest) :
    tellsOf group line = false := by
  simp [tellsOf, h, renderLabels_toList, afterName, List.isPrefixOf]

lemma filter_lines (f : Family) : f.lines.filter (tellsOf group) =
    (f.samples.map (Sample.line f.name)).filter (tellsOf group) := by
  have hhelp : tellsOf group ("# HELP " ++ f.name ++ " " ++ f.help) = false :=
    tellsOf_comment (by simp; rfl)
  have htype : tellsOf group ("# TYPE " ++ f.name ++ " " ++ f.kind.name) = false :=
    tellsOf_comment (by simp; rfl)
  unfold Family.lines
  split
  next hempty => simp [List.isEmpty_iff.mp hempty]
  next => rw [List.filter_cons_of_neg (by simp [hhelp]), List.filter_cons_of_neg (by simp [htype])]

/-- Of the samples for the entries of a series, the lines of a group are those of its entry. -/
lemma filter_seriesLines {α : Type} {family : String} {s : Series α} (value : α → Binary64)
    (hname : isMetricName family = true) (hs : s.Sorted) :
    ((s.map fun p => groupSample p.1 (value p.2)).map (Sample.line family)).filter (tellsOf group) =
      ((s.get? group).map fun x => (groupSample group (value x)).line family).toList := by
  have htells : (fun p : String × α => tellsOf group ((groupSample p.1 (value p.2)).line family)) =
      fun p => decide (p.1 = group) := by
    funext p
    exact tellsOf_groupSample hname (value p.2)
  rw [List.map_map, List.filter_map]
  simp only [Function.comp_def, htells, hs.filter_name]
  cases s.get? group <;> rfl

/-- Of a gauge, the lines of a group are those of its entry. -/
lemma filter_gauge {α : Type} {s : Series α} {name : String} (hs : s.Sorted) (help : String)
    (value : α → Binary64) (hname : isMetricName name = true) :
    (gauge name help value s).lines.filter (tellsOf group) =
      ((s.get? group).map fun x => (groupSample group (value x)).line name).toList := by
  rw [Metrics.filter_lines]
  exact filter_seriesLines value hname hs

lemma tellsOf_histogram {h : Histogram} {s : Sample} (hs : s ∈ h.samples) :
    tellsOf group (s.line "nodescaler_scan_duration_seconds") = false := by
  have hbucket : isMetricName ("nodescaler_scan_duration_seconds" ++ "_bucket") = true := by decide
  have hsum : isMetricName ("nodescaler_scan_duration_seconds" ++ "_sum") = true := by decide
  have hcount : isMetricName ("nodescaler_scan_duration_seconds" ++ "_count") = true := by decide
  unfold Histogram.samples at hs
  rcases List.mem_append.mp hs with hrange | hrest
  · rw [← List.map_uncurry_zip_eq_zipWith] at hrange
    obtain ⟨p, -, rfl⟩ := List.mem_map.mp hrange
    exact tellsOf_bucket hbucket rfl
  · simp only [List.mem_cons, List.not_mem_nil, or_false] at hrest
    rcases hrest with rfl | rfl | rfl
    · exact tellsOf_bucket hbucket rfl
    · exact tellsOf_unlabelled hsum rfl
    · exact tellsOf_unlabelled hcount rfl

/-- The lines for the entries of a group. -/
def entryLines (m : Metrics) (group : String) : List String :=
  let line (family : String) (value : Binary64) := (groupSample group value).line family
  ((m.cpuPercent.get? group).map (line "nodescaler_node_group_cpu_request_percent")).toList ++
  ((m.dryMode.get? group).map fun n => line "nodescaler_node_group_dry_mode" (wordValue n)).toList ++
  ((m.memoryPercent.get? group).map
    (line "nodescaler_node_group_memory_request_percent")).toList ++
  ((m.nodes.get? group).map fun n => line "nodescaler_node_group_nodes" (wordValue n)).toList ++
  ((m.pods.get? group).map fun n => line "nodescaler_node_group_pods" (wordValue n)).toList ++
  ((m.errors.get? group).map fun n => line "nodescaler_scan_errors_total" (.ofNat n)).toList

/-- The lines that show a group are those for its entries. -/
lemma Reflects.filter_lines (h : Reflects records m) (group : String) :
    m.lines.filter (tellsOf group) = m.entryLines group := by
  have hcycles : tellsOf group
      (({ value := .ofNat m.cycles } : Sample).line "nodescaler_scan_cycles_total") = false := by
    have hname : isMetricName ("nodescaler_scan_cycles_total" ++ "") = true := by decide
    exact tellsOf_unlabelled hname rfl
  have hdurations : (m.durations.samples.map
      (Sample.line "nodescaler_scan_duration_seconds")).filter (tellsOf group) = [] := by
    rw [List.filter_eq_nil_iff]
    intro line hline
    obtain ⟨s, hs, rfl⟩ := List.mem_map.mp hline
    simp [tellsOf_histogram hs]
  have herrors : ((m.errors.map fun p => groupSample p.1 (.ofNat p.2)).map
      (Sample.line "nodescaler_scan_errors_total")).filter (tellsOf group) =
        ((m.errors.get? group).map fun n =>
          (groupSample group (.ofNat n)).line "nodescaler_scan_errors_total").toList :=
    filter_seriesLines Binary64.ofNat (by decide) h.errors.sorted
  rw [lines, List.filter_flatMap]
  unfold families
  simp only [List.flatMap_cons, List.flatMap_nil]
  rw [filter_gauge h.cpuPercent.sorted _ _ (by decide),
    filter_gauge h.dryMode.sorted _ _ (by decide),
    filter_gauge h.memoryPercent.sorted _ _ (by decide),
    filter_gauge h.nodes.sorted _ _ (by decide), filter_gauge h.pods.sorted _ _ (by decide)]
  simp only [Metrics.filter_lines, hdurations, List.map_cons, List.map_nil]
  rw [List.filter_cons_of_neg (by simp [hcycles])]
  unfold groupSample at herrors
  rw [herrors]
  simp [entryLines, groupSample]

lemma SameAt.entryLines_eq (h : m.SameAt m' group) : m.entryLines group = m'.entryLines group := by
  unfold entryLines
  rw [h.errors, h.nodes, h.pods, h.cpuPercent, h.memoryPercent, h.dryMode]

/-- The lines that show a group: the gauges of its latest state, and its failures. -/
def groupLines (group : String) (failures : Nat) (latest : Option GroupState) : List String :=
  let line (family : String) (value : Binary64) := (groupSample group value).line family
  let percent (part whole : Int64) : Binary64 :=
    if whole ≤ 0 then .ofNat 0
    else Binary64.ofInt part.toInt / Binary64.ofInt whole.toInt * .ofNat 100
  (latest.map fun state => [
    line "nodescaler_node_group_cpu_request_percent"
      (percent state.snapshot.cpuRequestedMillis state.snapshot.cpuAllocatableMillis),
    line "nodescaler_node_group_dry_mode" (wordValue (if state.dryMode then 1 else 0)),
    line "nodescaler_node_group_memory_request_percent"
      (percent state.snapshot.memoryRequestedBytes state.snapshot.memoryAllocatableBytes),
    line "nodescaler_node_group_nodes" (wordValue state.snapshot.nodes.toInt64),
    line "nodescaler_node_group_pods" (wordValue state.snapshot.pods.toInt64)]).getD [] ++
  if failures = 0 then [] else [line "nodescaler_scan_errors_total" (.ofNat failures)]

lemma Reflects.entryLines_eq (h : Reflects records m) (halone : Alone group records) :
    m.entryLines group = groupLines group (failures group records) (latest? group records) := by
  obtain ⟨hnodes, hpods, hcpu, hmemory, hdry⟩ := h.gaugesShow halone
  unfold entryLines groupLines
  rw [hnodes, hpods, hcpu, hmemory, hdry, h.errors.get?_eq group halone, failures?]
  cases latest? group records <;> by_cases hfailures : failures group records = 0 <;>
    simp [hfailures]

/-- The text of the metrics after any measurements. It is the same for any two sequences with the
same history, where the groups have different keys, and for a store that holds its entries in any
order and puts them in order for the text. Measurements of groups with different keys can be swapped.
The lines that show a group are those of its own failures and latest state, where no other group has
its key, and no measurement of a group with another key changes them. -/
theorem exposition_of_history :
    (∀ records records', Apart records → SameHistory records records' →
      (({} : Metrics).addAll records).render = (({} : Metrics).addAll records').render) ∧
    (∀ records kept, Holds kept (({} : Metrics).addAll records) →
      kept.inOrder.render = (({} : Metrics).addAll records).render) ∧
    (∀ before r r' after, r.key? ≠ r'.key? →
      (({} : Metrics).addAll (before ++ r :: r' :: after)).render =
        (({} : Metrics).addAll (before ++ r' :: r :: after)).render) ∧
    (∀ records group, Alone group records →
      (({} : Metrics).addAll records).lines.filter (tellsOf group) =
        groupLines group (failures group records) (latest? group records)) ∧
    (∀ records r group, r.key? ≠ some (Series.key group) →
      (({} : Metrics).addAll (records ++ [r])).lines.filter (tellsOf group) =
        (({} : Metrics).addAll records).lines.filter (tellsOf group)) := by
  refine ⟨?_, ?_, ?_, ?_, ?_⟩
  · intro records records' hapart hsame
    rw [(reflects_addAll records).ext (reflects_addAll records') hapart hsame]
  · intro records kept hkept
    rw [(reflects_addAll records).inOrder_eq hkept]
  · intro before r r' after hne
    have hcomm := (reflects_addAll before).add_comm hne
    simp only [addAll, List.foldl_append, List.foldl_cons] at hcomm ⊢
    rw [hcomm]
  · intro records group halone
    have hreflects := reflects_addAll records
    rw [hreflects.filter_lines, hreflects.entryLines_eq halone]
  · intro records r group hr
    rw [(reflects_addAll (records ++ [r])).filter_lines, (reflects_addAll records).filter_lines]
    apply SameAt.entryLines_eq
    rw [addAll, List.foldl_append]
    exact sameAt_add hr

lemma sameHistory_swap (a b : String) :
    SameHistory [.failure a, .failure b] [.failure b, .failure a] := by
  refine ⟨rfl, ?_, fun _ => rfl⟩
  intro group
  exact (List.Perm.swap _ _ _).count_eq _

/-- Two groups with different keys fail in either order, and each has its own line. -/
theorem exposition_of_history_twoPools :
    let m := ({} : Metrics).addAll [.failure "pool-a", .failure "pool-b"]
    let swapped := ({} : Metrics).addAll [.failure "pool-b", .failure "pool-a"]
    m.render = swapped.render ∧ m.lines.filter (tellsOf "pool-b") =
      ["nodescaler_scan_errors_total\x7bnodegroup=\"pool-b\"\x7d 1"] := by
  intro m swapped
  obtain ⟨hhistory, -, -, hlines, -⟩ := exposition_of_history
  refine ⟨hhistory _ _ (by decide) (sameHistory_swap _ _), ?_⟩
  rw [hlines _ _ (by decide)]
  decide

/-- Two groups with one key between them fail in either order: the one that fails first has the line
for both. -/
theorem first_of_one_key_shows :
    let records : List Record := [.failure "7mohtcOFVz", .failure "c1E51sSEyx"]
    let swapped : List Record := [.failure "c1E51sSEyx", .failure "7mohtcOFVz"]
    SameHistory records swapped ∧
      (({} : Metrics).addAll records).render ≠ (({} : Metrics).addAll swapped).render := by
  intro records swapped
  refine ⟨sameHistory_swap _ _, ?_⟩
  decide +kernel

end Metrics
end Autoscaler
