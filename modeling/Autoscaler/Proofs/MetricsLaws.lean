import Autoscaler.Proofs.SeriesLaws
import Mathlib.Data.List.Induction

/-!
# What the metrics say of the measurements

After any measurements the counter of cycles is their number, and the histogram holds their times.
Where no other group has the key of a name, the counter of its failures is their number, and each of
its gauges shows its latest state.
-/

namespace Autoscaler.Metrics

/-- The group that a measurement is about. -/
def Record.group? : Record → Option String
  | .cycle _ => none
  | .failure group => some group
  | .state group _ => some group

def Record.key? (r : Record) : Option UInt64 := r.group?.map Series.key

/-- What a measurement says of the state of a group. -/
def Record.state? (name : String) : Record → Option GroupState
  | .state group seen => if group = name then some seen else none
  | _ => none

def Record.seconds? : Record → Option Binary64
  | .cycle seconds => some seconds
  | _ => none

def latest? (name : String) (records : List Record) : Option GroupState :=
  records.reverse.findSome? (Record.state? name)

def cycleTimes (records : List Record) : List Binary64 := records.filterMap Record.seconds?

def failures (name : String) (records : List Record) : Nat := records.count (.failure name)

variable {records more : List Record} {r : Record} {m : Metrics} {name : String}

lemma latest?_append : latest? name (records ++ more) =
    (latest? name more).or (latest? name records) := by
  simp [latest?]

lemma cycleTimes_append :
    cycleTimes (records ++ more) = cycleTimes records ++ cycleTimes more := by
  simp [cycleTimes]

lemma failures_append :
    failures name (records ++ more) = failures name records + failures name more := by
  simp [failures]

@[simp] lemma latest?_singleton : latest? name [r] = r.state? name := by
  simp [latest?]

@[simp] lemma cycleTimes_singleton : cycleTimes [r] = r.seconds?.toList := by
  cases r <;> rfl

@[simp] lemma failures_singleton : failures name [r] = if r = .failure name then 1 else 0 := by
  simp [failures, List.count_singleton]

lemma failures_append_of_ne (h : r ≠ .failure name) :
    failures name (records ++ [r]) = failures name records := by
  rw [failures_append, failures_singleton, if_neg h, Nat.add_zero]

lemma latest?_append_of_none (h : r.state? name = none) :
    latest? name (records ++ [r]) = latest? name records := by
  rw [latest?_append, latest?_singleton, h, Option.none_or]

/-- The groups that measurements are about. -/
def groups (records : List Record) : List String := records.filterMap Record.group?

lemma groups_append : groups (records ++ more) = groups records ++ groups more :=
  List.filterMap_append

/-- The measurements that are about groups, which leave out the cycles. -/
def ofGroups (records : List Record) : List Record := records.filter fun r => r.group?.isSome

lemma ofGroups_append :
    ofGroups (records ++ more) = ofGroups records ++ ofGroups more :=
  List.filter_append ..

lemma failures_ofGroups : failures name (ofGroups records) = failures name records :=
  List.count_filter rfl

lemma latest?_ofGroups : latest? name (ofGroups records) = latest? name records := by
  induction records using List.reverseRecOn with
  | nil => rfl
  | append_singleton records r ih =>
    have hr : latest? name (ofGroups [r]) = latest? name [r] := by
      cases r <;> rfl
    rw [ofGroups_append, latest?_append, latest?_append, ih, hr]

lemma groups_ofGroups : groups (ofGroups records) = groups records := by
  rw [groups, ofGroups, List.filterMap_filter]
  refine List.filterMap_congr ?_
  intro r _
  cases r <;> rfl

/-- No other group that has been measured has the key of a name. -/
def Alone (name : String) (records : List Record) : Prop :=
  ∀ other ∈ groups records, Series.key other = Series.key name → other = name

instance (name : String) (records : List Record) : Decidable (Alone name records) :=
  inferInstanceAs (Decidable (∀ other ∈ groups records, Series.key other = Series.key name →
    other = name))

lemma Alone.of_append (h : Alone name (records ++ more)) : Alone name records := by
  intro other hother
  exact h other (groups_append ▸ List.mem_append_left _ hother)

/-- A series shows what there is to show of each group. -/
structure Shows {α : Type} (value? : String → List Record → Option α) (records : List Record)
    (s : Series α) : Prop where
  sorted : s.Sorted
  measured : ∀ p ∈ s, p.1 ∈ groups records
  get?_eq : ∀ name, Alone name records → s.get? name = value? name records

section Shows

variable {α : Type} {value? : String → List Record → Option α} {s : Series α} {group : String}
  {f : Option α → α}

lemma shows_nil (h : ∀ name, value? name [] = none) : Shows value? [] [] := by
  refine ⟨List.Pairwise.nil, by simp, ?_⟩
  intro name _
  exact (h name).symm

/-- A measurement of a group that its entry takes up. -/
lemma Shows.alter (h : Shows value? records s) (hr : r.group? = some group)
    (hself : value? group (records ++ [r]) = some (f (value? group records)))
    (hother : ∀ name, name ≠ group → value? name (records ++ [r]) = value? name records) :
    Shows value? (records ++ [r]) (s.alter group f) := by
  have hgroups : groups (records ++ [r]) = groups records ++ [group] := by
    simp [groups, hr]
  refine ⟨h.sorted.alter, ?_, ?_⟩
  · intro p hp
    rw [hgroups, List.mem_append, List.mem_singleton]
    rcases Series.fst_of_mem_alter hp with heq | ⟨q, hq, heq⟩
    · exact .inr heq
    · exact .inl (heq ▸ h.measured q hq)
  · intro name halone
    have hbefore := halone.of_append
    by_cases heq : name = group
    · subst heq
      have hname : ∀ p ∈ s, Series.key p.1 = Series.key name → p.1 = name :=
        fun p hp => hbefore p.1 (h.measured p hp)
      rw [h.sorted.get?_alter_self hname, h.get?_eq name hbefore, hself]
    · have hkey : Series.key name ≠ Series.key group := by
        intro hkey
        exact heq (halone group (by simp [hgroups]) hkey.symm).symm
      rw [Series.get?_alter_ne hkey, h.get?_eq name hbefore, hother name heq]

lemma Shows.skip (h : Shows value? records s)
    (hr : ∀ name, value? name (records ++ [r]) = value? name records) :
    Shows value? (records ++ [r]) s := by
  refine ⟨h.sorted, ?_, ?_⟩
  · intro p hp
    rw [groups_append]
    exact List.mem_append_left _ (h.measured p hp)
  · intro name halone
    rw [h.get?_eq name halone.of_append, hr]

end Shows

/-- How often a group has failed, from the first time on. -/
def failures? (name : String) (records : List Record) : Option Nat :=
  if failures name records = 0 then none else some (failures name records)

/-- A value of the latest state of a group. -/
def gauged? {α : Type} (value : GroupState → α) (name : String) (records : List Record) : Option α :=
  (latest? name records).map value

lemma Shows.fail {s : Series Nat} (h : Shows failures? records s) (group : String) :
    Shows failures? (records ++ [.failure group]) (s.alter group fun n => n.getD 0 + 1) := by
  refine h.alter rfl ?_ ?_
  · rw [failures?, failures_append, failures_singleton, if_pos rfl, if_neg (Nat.succ_ne_zero _),
      failures?]
    split <;> simp_all
  · intro name hne
    have hskip : Record.failure group ≠ .failure name := by simpa using hne.symm
    rw [failures?, failures_append_of_ne hskip, failures?]

lemma Shows.put {α : Type} {value : GroupState → α} {s : Series α}
    (h : Shows (gauged? value) records s) (group : String) (state : GroupState) :
    Shows (gauged? value) (records ++ [.state group state]) (s.put group (value state)) := by
  refine h.alter rfl ?_ ?_
  · simp [gauged?, latest?_append, Record.state?]
  · intro name hne
    have hskip : (Record.state group state).state? name = none := if_neg hne.symm
    rw [gauged?, latest?_append_of_none hskip, gauged?]

/-- The metrics show what the measurements in order have been. -/
structure Reflects (records : List Record) (m : Metrics) : Prop where
  cycles : m.cycles = (cycleTimes records).length
  durations : m.durations = (cycleTimes records).foldl Histogram.observe .empty
  errors : Shows failures? records m.errors
  nodes : Shows (gauged? fun state => state.snapshot.nodes.toInt64) records m.nodes
  pods : Shows (gauged? fun state => state.snapshot.pods.toInt64) records m.pods
  cpuPercent : Shows (gauged? fun state => state.snapshot.cpuRequestPercent) records m.cpuPercent
  memoryPercent :
    Shows (gauged? fun state => state.snapshot.memoryRequestPercent) records m.memoryPercent
  dryMode : Shows (gauged? fun state => if state.dryMode then 1 else 0) records m.dryMode

lemma Reflects.add (h : Reflects records m) (r : Record) : Reflects (records ++ [r]) (m.add r) := by
  have hcycles : (m.add r).cycles = (cycleTimes (records ++ [r])).length := by
    cases r <;> simp [cycleTimes_append, Metrics.add, h.cycles, Record.seconds?]
  have hdurations : (m.add r).durations =
      (cycleTimes (records ++ [r])).foldl Histogram.observe .empty := by
    cases r <;> simp [cycleTimes_append, Metrics.add, h.durations, Record.seconds?]
  have hfailures (hr : ∀ name, r ≠ .failure name) :
      ∀ name, failures? name (records ++ [r]) = failures? name records := by
    intro name
    rw [failures?, failures_append_of_ne (hr name), failures?]
  have hgauged {α : Type} (value : GroupState → α) (hr : ∀ name, r.state? name = none) :
      ∀ name, gauged? value name (records ++ [r]) = gauged? value name records := by
    intro name
    rw [gauged?, latest?_append_of_none (hr name), gauged?]
  obtain ⟨-, -, herrors, hnodes, hpods, hcpu, hmemory, hdry⟩ := h
  cases r with
  | state group seen =>
    exact ⟨hcycles, hdurations, herrors.skip (hfailures (by simp)), hnodes.put group seen,
      hpods.put group seen, hcpu.put group seen, hmemory.put group seen, hdry.put group seen⟩
  | failure group =>
    have hskip : ∀ name, (Record.failure group).state? name = none := fun _ => rfl
    exact ⟨hcycles, hdurations, herrors.fail group, hnodes.skip (hgauged _ hskip),
      hpods.skip (hgauged _ hskip), hcpu.skip (hgauged _ hskip), hmemory.skip (hgauged _ hskip),
      hdry.skip (hgauged _ hskip)⟩
  | cycle seconds =>
    have hskip : ∀ name, (Record.cycle seconds).state? name = none := fun _ => rfl
    exact ⟨hcycles, hdurations, herrors.skip (hfailures (by simp)), hnodes.skip (hgauged _ hskip),
      hpods.skip (hgauged _ hskip), hcpu.skip (hgauged _ hskip), hmemory.skip (hgauged _ hskip),
      hdry.skip (hgauged _ hskip)⟩

theorem reflects_addAll (records : List Record) :
    Reflects records (({} : Metrics).addAll records) := by
  induction records using List.reverseRecOn with
  | nil =>
    have hgauged {α : Type} (value : GroupState → α) : Shows (gauged? value) [] [] :=
      shows_nil fun _ => rfl
    exact ⟨rfl, rfl, shows_nil fun _ => rfl, hgauged _, hgauged _, hgauged _, hgauged _, hgauged _⟩
  | append_singleton records r ih =>
    rw [addAll, List.foldl_append]
    exact ih.add r

/-- The five gauges of a group show a state, or are all absent. -/
structure GaugesShow (m : Metrics) (name : String) (state : Option GroupState) : Prop where
  nodes : m.nodes.get? name = state.map fun state => state.snapshot.nodes.toInt64
  pods : m.pods.get? name = state.map fun state => state.snapshot.pods.toInt64
  cpuPercent : m.cpuPercent.get? name = state.map fun state =>
    if state.snapshot.cpuAllocatableMillis ≤ 0 then .ofNat 0
    else Binary64.ofInt state.snapshot.cpuRequestedMillis.toInt /
      Binary64.ofInt state.snapshot.cpuAllocatableMillis.toInt * .ofNat 100
  memoryPercent : m.memoryPercent.get? name = state.map fun state =>
    if state.snapshot.memoryAllocatableBytes ≤ 0 then .ofNat 0
    else Binary64.ofInt state.snapshot.memoryRequestedBytes.toInt /
      Binary64.ofInt state.snapshot.memoryAllocatableBytes.toInt * .ofNat 100
  dryMode : m.dryMode.get? name = state.map fun state => if state.dryMode then 1 else 0

/-- All gauges of all groups are the same. -/
structure SameGauges (m m' : Metrics) : Prop where
  nodes : m.nodes = m'.nodes
  pods : m.pods = m'.pods
  cpuPercent : m.cpuPercent = m'.cpuPercent
  memoryPercent : m.memoryPercent = m'.memoryPercent
  dryMode : m.dryMode = m'.dryMode

/-- All that the series show of a group is the same. -/
structure SameAt (m m' : Metrics) (name : String) : Prop where
  errors : m.errors.get? name = m'.errors.get? name
  nodes : m.nodes.get? name = m'.nodes.get? name
  pods : m.pods.get? name = m'.pods.get? name
  cpuPercent : m.cpuPercent.get? name = m'.cpuPercent.get? name
  memoryPercent : m.memoryPercent.get? name = m'.memoryPercent.get? name
  dryMode : m.dryMode.get? name = m'.dryMode.get? name

/-- A measurement changes nothing under the names whose keys are not that of its group. -/
lemma sameAt_add (h : r.key? ≠ some (Series.key name)) : (m.add r).SameAt m name := by
  cases r with
  | cycle => exact ⟨rfl, rfl, rfl, rfl, rfl, rfl⟩
  | failure group =>
    have hne : Series.key name ≠ Series.key group := fun heq => h (congrArg some heq.symm)
    have herrors : (m.errors.alter group fun n => n.getD 0 + 1).get? name = m.errors.get? name :=
      Series.get?_alter_ne hne
    exact ⟨herrors, rfl, rfl, rfl, rfl, rfl⟩
  | state group seen =>
    have hne : Series.key name ≠ Series.key group := fun heq => h (congrArg some heq.symm)
    have hput {α : Type} (s : Series α) (value : α) :
        (s.put group value).get? name = s.get? name := Series.get?_alter_ne hne
    exact ⟨rfl, hput _ _, hput _ _, hput _ _, hput _ _, hput _ _⟩

/-- The names that have an entry in some series. -/
def names (m : Metrics) : List String :=
  m.errors.map Prod.fst ++ m.nodes.map Prod.fst ++ m.pods.map Prod.fst ++
    m.cpuPercent.map Prod.fst ++ m.memoryPercent.map Prod.fst ++ m.dryMode.map Prod.fst

lemma Reflects.gaugesShow (h : Reflects records m) (hname : Alone name records) :
    m.GaugesShow name (latest? name records) :=
  ⟨h.nodes.get?_eq name hname, h.pods.get?_eq name hname, h.cpuPercent.get?_eq name hname,
    h.memoryPercent.get?_eq name hname, h.dryMode.get?_eq name hname⟩

/-- What has an entry has been measured. -/
lemma Reflects.mem_groups (h : Reflects records m) (hname : name ∈ m.names) :
    name ∈ groups records := by
  simp only [names, List.mem_append, List.mem_map] at hname
  rcases hname with ((((⟨p, hp, rfl⟩ | ⟨p, hp, rfl⟩) | ⟨p, hp, rfl⟩) | ⟨p, hp, rfl⟩) |
    ⟨p, hp, rfl⟩) | ⟨p, hp, rfl⟩
  · exact h.errors.measured p hp
  · exact h.nodes.measured p hp
  · exact h.pods.measured p hp
  · exact h.cpuPercent.measured p hp
  · exact h.memoryPercent.measured p hp
  · exact h.dryMode.measured p hp

/-! ### The histogram of the times -/

lemma getElem?_countIn (x : Binary64) (bounds : List Binary64) (counts : List Nat) (i : Nat) :
    (Histogram.countIn x bounds counts)[i]? =
      counts[i]?.map (· + if bounds.findIdx? (x.le ·) = some i then 1 else 0) := by
  induction bounds generalizing counts i with
  | nil => cases counts <;> simp [Histogram.countIn]
  | cons bound bounds ih =>
    cases counts with
    | nil => simp [Histogram.countIn]
    | cons n counts =>
      by_cases hle : x.le bound = true
      · cases i <;> simp [Histogram.countIn, List.findIdx?_cons, hle]
      · cases i <;> simp [Histogram.countIn, List.findIdx?_cons, hle, ih]

lemma getElem?_counts_foldl (h : Histogram) (xs : List Binary64) (i : Nat) :
    (xs.foldl Histogram.observe h).counts[i]? = h.counts[i]?.map
      (· + xs.countP fun x => bounds.findIdx? (x.le ·) = some i) := by
  induction xs generalizing h with
  | nil => simp
  | cons x xs ih =>
    rw [List.foldl_cons, ih, Histogram.observe, getElem?_countIn, List.countP_cons, Option.map_map]
    congr 1
    funext n
    simp only [Function.comp_apply, decide_eq_true_eq]
    omega

lemma count_foldl_observe (h : Histogram) (xs : List Binary64) :
    (xs.foldl Histogram.observe h).count = h.count + xs.length := by
  induction xs generalizing h with
  | nil => rfl
  | cons x xs ih =>
    rw [List.foldl_cons, ih, Histogram.observe, List.length_cons, Nat.add_assoc, Nat.add_comm 1]

lemma sum_foldl_observe (h : Histogram) (xs : List Binary64) :
    (xs.foldl Histogram.observe h).sum = xs.foldl (· + ·) h.sum := by
  induction xs generalizing h with
  | nil => rfl
  | cons x xs ih => rw [List.foldl_cons, ih, List.foldl_cons, Histogram.observe]

/-- A histogram of some times holds their number and their sum, added up in order. Each range counts
the times whose first bound is its own. -/
theorem histogram_of_times (xs : List Binary64) :
    let h := xs.foldl Histogram.observe .empty
    h.count = xs.length ∧ h.sum = xs.foldl (· + ·) (.ofNat 0) ∧
      ∀ i < bounds.length,
        h.counts[i]? = some (xs.countP fun x => bounds.findIdx? (x.le ·) = some i) := by
  refine ⟨?_, sum_foldl_observe .empty xs, ?_⟩
  · rw [count_foldl_observe]
    exact Nat.zero_add _
  · intro i hi
    have hzero : Histogram.empty.counts[i]? = some 0 := by
      simpa [Histogram.empty] using List.getElem?_replicate_of_lt hi
    rw [getElem?_counts_foldl, hzero, Option.map_some, Nat.zero_add]

end Autoscaler.Metrics
