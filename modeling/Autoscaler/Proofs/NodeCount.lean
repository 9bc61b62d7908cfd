import Autoscaler.Proofs.PassIndependence
import Autoscaler.Proofs.SoundConfiguration
import Mathlib.Algebra.Order.Ring.Int

/-!
# Node counts as signed words

The nodes of a group are counted in an unsigned word. The count is compared with the bounds of the
group and shown by its gauge as a signed one. That changes nothing in the lower half of the range.
In the upper half the signed word is negative, and a group with more nodes than any bound allows is
taken for one with too few.
-/

namespace Autoscaler.ControlLoop
open NodeGroup (Spec)
open Cluster (SizeStatus Snapshot)

/-- A group has fewer nodes than it should. -/
def TooSmall (group : Spec) (s : Snapshot) : Prop := (s.nodes.toNat : Int) < group.minNodes.toInt

/-- A group has more nodes than it should. -/
def TooLarge (group : Spec) (s : Snapshot) : Prop := group.maxNodes.toInt < s.nodes.toNat

/-- The count of nodes is a signed word, too. -/
def Countable (s : Snapshot) : Prop := s.nodes.toNat < 2 ^ 63

instance (group : Spec) (s : Snapshot) : Decidable (TooSmall group s) := Int.decLt _ _

instance (group : Spec) (s : Snapshot) : Decidable (TooLarge group s) := Int.decLt _ _

instance (s : Snapshot) : Decidable (Countable s) := Nat.decLt _ _

/-- A log has a warning of a group. -/
def WarnsOf (message name : String) (log : List Log.Event) : Prop :=
  ∃ e ∈ log, e.level = .warn ∧ e.message = message ∧
    e.fields.lookup "nodegroup" = some (.shown name)

/-- What the gauge for the nodes of a group shows, which the key of its name finds. -/
def shownNodes? (m : Metrics) (name : String) : Option Int :=
  (m.nodes.entryAt? (Series.key name)).map fun p => p.2.toInt

/-! ### The verdict -/

lemma toInt_toInt64_cases (n : UInt64) : n.toNat < 2 ^ 63 ∧ n.toInt64.toInt = n.toNat ∨
    2 ^ 63 ≤ n.toNat ∧ n.toInt64.toInt = (n.toNat : Int) - 2 ^ 64 := by
  have hword : n.toInt64.toInt = if 2 * n.toNat < 2 ^ 64 then (n.toNat : Int) else n.toNat - 2 ^ 64 :=
    BitVec.toInt_eq_toNat_cond n.toBitVec
  by_cases h : n.toNat < 2 ^ 63
  · exact .inl ⟨h, by rw [hword, if_pos (by omega)]⟩
  · exact .inr ⟨by omega, by rw [hword, if_neg (by omega)]⟩

section Verdict

variable {group : Spec} {s : Snapshot}

lemma of_eq_belowMin_iff :
    SizeStatus.of group s = .belowMin ↔ s.nodes.toInt64.toInt < group.minNodes.toInt := by
  rw [SizeStatus.of, ← Int64.lt_iff_toInt_lt]
  split
  next h => exact iff_of_true rfl h
  next h =>
    refine iff_of_false ?_ h
    split <;> nofun

lemma of_eq_aboveMax_iff : SizeStatus.of group s = .aboveMax ↔
    group.minNodes.toInt ≤ s.nodes.toInt64.toInt ∧
      group.maxNodes.toInt < s.nodes.toInt64.toInt := by
  rw [SizeStatus.of, ← not_lt, ← Int64.lt_iff_toInt_lt, ← Int64.lt_iff_toInt_lt]
  split
  next h => exact iff_of_false nofun fun hboth => hboth.1 h
  next h =>
    split
    next hmax => exact iff_of_true rfl ⟨h, hmax⟩
    next hmax => exact iff_of_false nofun fun hboth => hmax hboth.2

lemma bounds_of_sound (h : group.Sound) :
    0 ≤ group.minNodes.toInt ∧ group.minNodes.toInt ≤ group.maxNodes.toInt := by
  obtain ⟨hmin, hbounds, -⟩ := h.bounded
  exact ⟨Int64.le_iff_toInt_le.mp hmin, Int64.le_iff_toInt_le.mp hbounds⟩

lemma belowMin_iff (h : group.Sound) :
    SizeStatus.of group s = .belowMin ↔ TooSmall group s ∨ ¬ Countable s := by
  obtain ⟨hmin, -⟩ := bounds_of_sound h
  have hrange := s.nodes.toNat_lt
  rw [of_eq_belowMin_iff, TooSmall, Countable]
  rcases toInt_toInt64_cases s.nodes with ⟨hcount, hword⟩ | ⟨hcount, hword⟩ <;> omega

lemma aboveMax_iff (h : group.Sound) :
    SizeStatus.of group s = .aboveMax ↔ TooLarge group s ∧ Countable s := by
  obtain ⟨hmin, hbounds⟩ := bounds_of_sound h
  have hrange := s.nodes.toNat_lt
  rw [of_eq_aboveMax_iff, TooLarge, Countable]
  rcases toInt_toInt64_cases s.nodes with ⟨hcount, hword⟩ | ⟨hcount, hword⟩ <;> omega

end Verdict

/-! ### What a pass says of it -/

lemma log_run_eq_flatMap (dryMode : Bool) (scans : List (Spec × Outcome)) :
    (Pass.run dryMode scans).log = scans.flatMap fun scan => outcomeLog dryMode scan.1 scan.2 := by
  induction scans using List.reverseRecOn with
  | nil => rfl
  | append_singleton scans scan ih =>
    rw [run_append_singleton, Pass.add, ih, List.flatMap_append, List.flatMap_singleton]

lemma warnsOf_flatMap_iff {α : Type} {message name : String} {l : List α}
    {f : α → List Log.Event} :
    WarnsOf message name (l.flatMap f) ↔ ∃ a ∈ l, WarnsOf message name (f a) := by
  simp only [WarnsOf, List.mem_flatMap]
  grind

lemma warnsOf_outcomeLog_iff {dryMode : Bool} {group : Spec} {outcome : Outcome} {name : String} :
    (WarnsOf "Node group is below min_nodes" name (outcomeLog dryMode group outcome) ↔
      ∃ s, outcome = .ok s ∧ group.name = name ∧ SizeStatus.of group s = .belowMin) ∧
    (WarnsOf "Node group is above max_nodes" name (outcomeLog dryMode group outcome) ↔
      ∃ s, outcome = .ok s ∧ group.name = name ∧ SizeStatus.of group s = .aboveMax) := by
  cases outcome with
  | error e => simp [WarnsOf, outcomeLog]
  | ok s =>
    cases hstatus : SizeStatus.of group s <;>
      simp [WarnsOf, outcomeLog, sizeLog, hstatus]

/-- The warnings of a pass are those of its scans. -/
lemma warnsOf_run_iff {dryMode : Bool} {scans : List (Spec × Outcome)} {name : String} :
    (WarnsOf "Node group is below min_nodes" name (Pass.run dryMode scans).log ↔
      ∃ group s, (group, .ok s) ∈ scans ∧ group.name = name ∧ SizeStatus.of group s = .belowMin) ∧
    (WarnsOf "Node group is above max_nodes" name (Pass.run dryMode scans).log ↔
      ∃ group s, (group, .ok s) ∈ scans ∧ group.name = name ∧
        SizeStatus.of group s = .aboveMax) := by
  simp only [log_run_eq_flatMap, warnsOf_flatMap_iff, warnsOf_outcomeLog_iff]
  constructor <;> grind

lemma shownNodes?_add (m : Metrics) (dryMode : Bool) (group : Spec) (s : Snapshot) :
    shownNodes? (m.add (outcomeRecord dryMode group (.ok s))) group.name =
      some s.nodes.toInt64.toInt := by
  rw [shownNodes?, outcomeRecord, Metrics.add, Series.put, Series.entryAt?_alter, if_pos rfl]
  cases m.nodes.entryAt? (Series.key group.name) <;> rfl

/-- A pass over groups that keep all rules. A group counts as too small if it has too few nodes or
more than a signed word can count, and as too large if it has too many nodes and a signed word can
count them. The pass warns of just these groups. The gauge shows the number of nodes if a signed
word can count them, and `2 ^ 64` less otherwise. -/
theorem signed_node_count {scans : List (Spec × Outcome)}
    (hvalid : ∀ scan ∈ scans, scan.1.violations = []) (dryMode : Bool) :
    (∀ group s, (group, .ok s) ∈ scans →
      (SizeStatus.of group s = .belowMin ↔ TooSmall group s ∨ ¬ Countable s) ∧
      (SizeStatus.of group s = .aboveMax ↔ TooLarge group s ∧ Countable s) ∧
      ∀ records, ∃ shown, shownNodes? ((({} : Metrics).addAll records).add
          (outcomeRecord dryMode group (.ok s))) group.name = some shown ∧
        (Countable s → shown = s.nodes.toNat) ∧ (¬ Countable s → shown = s.nodes.toNat - 2 ^ 64)) ∧
    ∀ name,
      (WarnsOf "Node group is below min_nodes" name (Pass.run dryMode scans).log ↔
        ∃ group s, (group, .ok s) ∈ scans ∧ group.name = name ∧
          (TooSmall group s ∨ ¬ Countable s)) ∧
      (WarnsOf "Node group is above max_nodes" name (Pass.run dryMode scans).log ↔
        ∃ group s, (group, .ok s) ∈ scans ∧ group.name = name ∧
          TooLarge group s ∧ Countable s) := by
  have hsound {group : Spec} {s : Snapshot} (hscan : (group, .ok s) ∈ scans) : group.Sound :=
    NodeGroup.Spec.violations_eq_nil_iff.mp (hvalid _ hscan)
  refine ⟨fun group s hscan => ⟨belowMin_iff (hsound hscan), aboveMax_iff (hsound hscan),
    fun records => ⟨_, shownNodes?_add _ dryMode group s, ?_⟩⟩, fun name => ⟨?_, ?_⟩⟩
  · unfold Countable
    rcases toInt_toInt64_cases s.nodes with ⟨hcount, hword⟩ | ⟨hcount, hword⟩ <;> omega
  · rw [warnsOf_run_iff.1]
    exact exists₂_congr fun group s => and_congr_right fun hscan =>
      and_congr_right fun _ => belowMin_iff (hsound hscan)
  · rw [warnsOf_run_iff.2]
    exact exists₂_congr fun group s => and_congr_right fun hscan =>
      and_congr_right fun _ => aboveMax_iff (hsound hscan)

/-- A group that keeps all rules, with the least number of nodes that a signed word cannot count and
with the greatest that it can. -/
theorem signed_node_count_halfRange :
    let group := Startup.onePool
    let most : Snapshot := { nodes := 0x7fffffffffffffff }
    let more : Snapshot := { nodes := 0x8000000000000000 }
    let scans : List (Spec × Outcome) := [(group, .ok most), (group, .ok more)]
    (∀ scan ∈ scans, scan.1.violations = []) ∧
      (SizeStatus.of group most = .aboveMax ∧ TooLarge group most ∧ Countable most) ∧
      SizeStatus.of group more = .belowMin ∧ ¬ Countable more ∧
      WarnsOf "Node group is below min_nodes" "a" (Pass.run false scans).log ∧
      WarnsOf "Node group is above max_nodes" "a" (Pass.run false scans).log := by
  intro group most more scans
  have hvalid : ∀ scan ∈ scans, scan.1.violations = [] := by decide
  have hmost : TooLarge group most ∧ Countable most := ⟨by decide, by decide⟩
  have hmore : ¬ Countable more := by decide
  obtain ⟨hscans, hwarns⟩ := signed_node_count hvalid false
  obtain ⟨hbelow, habove⟩ := hwarns "a"
  refine ⟨hvalid, ⟨(hscans group most (by simp [scans])).2.1.mpr hmost, hmost⟩,
    (hscans group more (by simp [scans])).1.mpr (.inr hmore), hmore, ?_, ?_⟩
  · exact hbelow.mpr ⟨group, more, by simp [scans], rfl, .inr hmore⟩
  · exact habove.mpr ⟨group, most, by simp [scans], rfl, hmost⟩

/-- A group of more than `2 ^ 63` nodes, of which there should be one, is taken for one with too few
nodes, and its gauge falls below zero. -/
theorem too_many_nodes_taken_for_too_few :
    let group := Startup.onePool
    let s : Snapshot := { nodes := 0x8000000000000000 }
    let record := outcomeRecord false group (.ok s)
    group.violations = [] ∧ TooLarge group s ∧ ¬ TooSmall group s ∧
      SizeStatus.of group s = .belowMin ∧
      WarnsOf "Node group is below min_nodes" group.name (outcomeLog false group (.ok s)) ∧
      shownNodes? (({} : Metrics).add record) group.name = some (-2 ^ 63) :=
  ⟨by decide, by decide, by decide, by decide,
    ⟨_, List.mem_cons_of_mem _ List.mem_cons_self, rfl, rfl, rfl⟩, by decide⟩

end Autoscaler.ControlLoop
