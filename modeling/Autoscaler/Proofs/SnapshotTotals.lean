import Autoscaler.Cluster.Snapshot
import Mathlib.Algebra.Order.BigOperators.Group.List
import Mathlib.Algebra.Order.Ring.Int
import Mathlib.Data.List.Flatten
import Mathlib.Data.List.Forall2
import Mathlib.Data.List.Perm.Subperm

/-!
# Totals of snapshots

No quantity is negative. So a sum that is capped at every step is the cap of the true sum, in
whatever order the quantities come, and it never falls when more of them are added. The totals of a
snapshot are such sums over its nodes and over the containers of the pods that count.
-/

namespace Autoscaler.Cluster

/-! ### Quantities -/

lemma toInt_le_max (q : Int64) : q.toInt ≤ Text.maxInt64 := Int64.toInt_le q

/-- A double with a sign that is not less than zero is the negative zero. -/
lemma mantissa_eq_zero {m : Nat} {e : Int}
    (h : (Binary64.finite true m e).lt (.ofNat 0) = false) : m = 0 := by
  by_contra hm
  have hzero : Binary64.ofNat 0 = .finite false 0 Binary64.minExponent := rfl
  have hunit := Int.min_comm Binary64.minExponent e
  have hunits : 0 < m * Nat.pow 2 (e - min e Binary64.minExponent).toNat :=
    Nat.mul_pos (Nat.pos_of_ne_zero hm) (Nat.pow_pos (by decide))
  have hbelow : (Binary64.finite true m e).lt (.ofNat 0) = true := by
    simp only [hzero, Binary64.lt, Binary64.le, Binary64.signedUnits, hunit, if_true,
      Bool.false_eq_true, if_false, Int.natCast_zero, Int.zero_mul, Bool.and_eq_true,
      decide_eq_true_eq, Bool.not_eq_true', decide_eq_false_iff_not]
    omega
  rw [h] at hbelow
  contradiction

lemma roundedMagnitude_zero (e : Int) : Binary64.roundedMagnitude 0 e = 0 := by
  have hden : 0 < Binary64.scaledDen 1 (-e) := Nat.mul_pos (by decide) (Nat.pow_pos (by decide))
  rw [Binary64.roundedMagnitude, Binary64.scaledNum, Nat.zero_mul]
  exact Nat.div_eq_of_lt (by omega)

lemma roundToInt64_nonneg {x : Binary64} (hfinite : x.isFinite = true)
    (h : x.lt (Binary64.ofNat 0) = false) : 0 ≤ x.roundToInt64.toInt := by
  have hmax : Text.maxInt64 = 2 ^ 63 - 1 := rfl
  have hmin : Text.minInt64 = -2 ^ 63 := rfl
  cases x with
  | nan => contradiction
  | infinite s => contradiction
  | finite s m e =>
    have hrounded : 0 ≤ if s then -(Binary64.roundedMagnitude m e : Int)
        else Binary64.roundedMagnitude m e := by
      cases s with
      | false => exact Int.natCast_nonneg _
      | true =>
        rw [mantissa_eq_zero h, roundedMagnitude_zero]
        decide
    rw [Binary64.roundToInt64, Int64.toInt_ofInt_of_le (by omega) (by omega)]
    omega

lemma nonneg_of_wholeQuantity? {x : Binary64} {q : Int64} (h : wholeQuantity? x = some q) :
    0 ≤ q.toInt := by
  unfold wholeQuantity? at h
  split at h
  · contradiction
  · next hguard =>
    simp only [Bool.or_eq_true, not_or, Bool.not_eq_true, Bool.not_eq_false'] at hguard
    obtain rfl := Option.some.inj h
    exact roundToInt64_nonneg hguard.1.1 hguard.1.2

lemma nonneg_of_cpuMillis? {text : String} {q : Int64} (h : cpuMillis? text = some q) :
    0 ≤ q.toInt := by
  unfold cpuMillis? at h
  dsimp only at h
  split at h
  next digits _ =>
    obtain ⟨-, hsign⟩ := Option.filter_eq_some_iff.mp h
    exact Int64.le_iff_toInt_le.mp (of_decide_eq_true hsign)
  next =>
    obtain ⟨x, -, hx⟩ := Option.bind_eq_some_iff.mp h
    exact nonneg_of_wholeQuantity? hx

lemma nonneg_of_memoryBytes? {text : String} {q : Int64} (h : memoryBytes? text = some q) :
    0 ≤ q.toInt := by
  obtain ⟨x, -, hx⟩ := Option.bind_eq_some_iff.mp h
  exact nonneg_of_wholeQuantity? hx

/-- What is absent or unreadable is zero. -/
lemma getD_nonneg {read : String → Option Int64}
    (hread : ∀ {text q}, read text = some q → 0 ≤ q.toInt) (text? : Option String) :
    0 ≤ ((text?.bind read).getD 0).toInt := by
  cases h : text?.bind read with
  | none => decide
  | some q =>
    obtain ⟨text, -, hq⟩ := Option.bind_eq_some_iff.mp h
    exact hread hq

lemma Resources.cpu_nonneg (r : Resources) : 0 ≤ r.cpu.toInt :=
  getD_nonneg nonneg_of_cpuMillis? _

lemma Resources.memory_nonneg (r : Resources) : 0 ≤ r.memory.toInt :=
  getD_nonneg nonneg_of_memoryBytes? _

/-! ### Capped sums -/

/-- A sum without a bound, up to the greatest signed word. -/
def capped (n : Int) : Int := min Text.maxInt64 n

lemma toInt_addCapped {a b : Int64} (ha : 0 ≤ a.toInt) (hb : 0 ≤ b.toInt) :
    (addCapped a b).toInt = capped (a.toInt + b.toInt) := by
  have hmax : Text.maxInt64 = 2 ^ 63 - 1 := rfl
  have hmin : Text.minInt64 = -2 ^ 63 := rfl
  rw [addCapped, Int64.toInt_ofInt_of_le (by omega) (by omega), capped]
  omega

lemma toInt_foldl_addCapped {quantities : List Int64} {a : Int64} (ha : 0 ≤ a.toInt)
    (h : ∀ q ∈ quantities, 0 ≤ q.toInt) :
    (quantities.foldl addCapped a).toInt = capped (a.toInt + (quantities.map Int64.toInt).sum) := by
  induction quantities generalizing a with
  | nil =>
    have hle := toInt_le_max a
    simp [capped, hle]
  | cons q quantities ih =>
    obtain ⟨hq, hrest⟩ := List.forall_mem_cons.mp h
    have hsum : 0 ≤ (quantities.map Int64.toInt).sum :=
      List.sum_nonneg (List.forall_mem_map.mpr hrest)
    have hadd := toInt_addCapped ha hq
    have hmax : Text.maxInt64 = 2 ^ 63 - 1 := rfl
    rw [List.foldl_cons, ih (by rw [hadd, capped]; omega) hrest, hadd, List.map_cons, List.sum_cons]
    -- What is added to a sum at its cap is not negative, so the inner cap is not seen.
    simp only [capped]
    omega

lemma toInt_sumCapped {quantities : List Int64} (h : ∀ q ∈ quantities, 0 ≤ q.toInt) :
    (sumCapped quantities).toInt = capped (quantities.map Int64.toInt).sum := by
  rw [sumCapped, toInt_foldl_addCapped (by decide) h]
  exact congrArg capped (Int.zero_add _)

lemma capped_mono {m n : Int} (h : m ≤ n) : capped m ≤ capped n :=
  min_le_min_left _ h

lemma capped_nonneg {n : Int} (h : 0 ≤ n) : 0 ≤ capped n :=
  le_min (by decide) h

/-! ### What counts -/

/-- The sum of a quantity without a bound. -/
def trueSum (quantity : Resources → Int64) (l : List Resources) : Int :=
  (l.map fun r => (quantity r).toInt).sum

namespace Pod

/-- A pod counts if it is assigned to one of the nodes and has not run to its end. -/
def Counts (nodes : List Node) (p : Pod) : Prop :=
  (∃ spec, p.spec = some spec ∧ ∃ n ∈ nodes, spec.nodeName = some n.name) ∧
    p.phase ≠ some "Succeeded" ∧ p.phase ≠ some "Failed"

lemma counts_iff {nodes : List Node} {p : Pod} :
    p.Counts nodes ↔ (p.isOn (nodes.map Node.name) && !p.isTerminal) = true := by
  simp only [Counts, isOn, isTerminal, Bool.and_eq_true, Option.any_eq_true, List.contains_iff_mem,
    List.mem_map, Bool.not_eq_true', Bool.or_eq_false_iff, beq_eq_false_iff_ne]
  grind

instance (nodes : List Node) : DecidablePred (Counts nodes) := fun _ =>
  decidable_of_iff _ counts_iff.symm

/-- Pods that differ in their containers alone, and there as given. -/
structure Alike (containers : List Resources → List Resources → Prop) (p q : Pod) : Prop where
  nodeName : p.spec.map PodSpec.nodeName = q.spec.map PodSpec.nodeName
  phase : p.phase = q.phase
  requests : containers p.requests q.requests

end Pod

/-- The pods that count. -/
def counting (nodes : List Node) (pods : List Pod) : List Pod := pods.filter (·.Counts nodes)

/-- What the containers of the pods that count ask for. -/
def asked (nodes : List Node) (pods : List Pod) : List Resources :=
  (counting nodes pods).flatMap Pod.requests

/-- What the nodes offer. -/
def offered (nodes : List Node) (_ : List Pod) : List Resources := nodes.map Node.allocatable

/-- More pods, or more containers in a pod, in whatever order. -/
def Extends (pods pods' : List Pod) : Prop :=
  ∃ mid, List.Forall₂ (Pod.Alike List.Subperm) pods mid ∧ mid.Subperm pods'

/-- The same pods with the same containers, in whatever order. -/
def Rearranges (pods pods' : List Pod) : Prop :=
  ∃ mid, List.Forall₂ (Pod.Alike List.Perm) pods mid ∧ mid.Perm pods'

section Counting

variable {nodes nodes' : List Node} {pods pods' : List Pod} {p q : Pod}
  {R : List Resources → List Resources → Prop}

lemma countedPods_eq (nodes : List Node) (pods : List Pod) :
    countedPods nodes pods = counting nodes pods :=
  List.filter_congr fun _ _ => by rw [Bool.eq_iff_iff, decide_eq_true_eq, Pod.counts_iff]

lemma Pod.Counts.mono (h : p.Counts nodes) (hnodes : nodes ⊆ nodes') : p.Counts nodes' := by
  obtain ⟨⟨spec, hspec, n, hn, hname⟩, hphase⟩ := h
  exact ⟨⟨spec, hspec, n, hnodes hn, hname⟩, hphase⟩

lemma Pod.Alike.counts_iff (h : p.Alike R q) : p.Counts nodes ↔ q.Counts nodes := by
  have hspec (p : Pod) : (∃ spec, p.spec = some spec ∧ ∃ n ∈ nodes, spec.nodeName = some n.name) ↔
      ∃ n ∈ nodes, p.spec.map PodSpec.nodeName = some (some n.name) := by
    simp only [Option.map_eq_some_iff]
    tauto
  rw [Pod.Counts, Pod.Counts, hspec, hspec, h.nodeName, h.phase]

lemma alike_counting (h : List.Forall₂ (Pod.Alike R) pods pods') :
    List.Forall₂ (Pod.Alike R) (counting nodes pods) (counting nodes pods') := by
  refine List.rel_filter (fun p q hpq => ?_) h
  simp only [decide_eq_true_eq]
  exact hpq.counts_iff

lemma counting_subperm (hnodes : nodes ⊆ nodes') (h : pods.Subperm pods') :
    (counting nodes pods).Subperm (counting nodes' pods') := by
  have hmore : (counting nodes pods).Sublist (counting nodes' pods) :=
    List.monotone_filter_right pods fun p hp =>
      decide_eq_true ((of_decide_eq_true hp).mono hnodes)
  exact hmore.subperm.trans (h.filter _)

lemma counting_perm (hnodes : nodes.Perm nodes') (h : pods.Perm pods') :
    (counting nodes pods).Perm (counting nodes' pods') :=
  (counting_subperm hnodes.subset h.subperm).antisymm
    (counting_subperm hnodes.symm.subset h.symm.subperm)

lemma requests_alike (hnil : R [] [])
    (happend : ∀ {a b c d}, R a b → R c d → R (a ++ c) (b ++ d))
    (h : List.Forall₂ (Pod.Alike R) pods pods') :
    R (pods.flatMap Pod.requests) (pods'.flatMap Pod.requests) := by
  induction h with
  | nil => exact hnil
  | cons hpq _ ih => exact happend hpq.requests ih

lemma asked_subperm (hnodes : nodes ⊆ nodes') (h : Extends pods pods') :
    (asked nodes pods).Subperm (asked nodes' pods') := by
  obtain ⟨mid, halike, hmid⟩ := h
  have hcontainers : (asked nodes pods).Subperm (asked nodes mid) :=
    requests_alike (List.Subperm.refl []) List.Subperm.append (alike_counting halike)
  obtain ⟨counted, hperm, hsub⟩ := counting_subperm hnodes hmid
  have hpods : (asked nodes mid).Subperm (asked nodes' pods') :=
    ⟨counted.flatMap Pod.requests, hperm.flatMap_right _, hsub.flatMap _⟩
  exact hcontainers.trans hpods

lemma asked_perm (hnodes : nodes.Perm nodes') (h : Rearranges pods pods') :
    (asked nodes pods).Perm (asked nodes' pods') := by
  obtain ⟨mid, halike, hmid⟩ := h
  have hcontainers : (asked nodes pods).Perm (asked nodes mid) :=
    requests_alike .nil List.Perm.append (alike_counting halike)
  exact hcontainers.trans ((counting_perm hnodes hmid).flatMap_right _)

lemma offered_subperm (hnodes : nodes.Subperm nodes') :
    (offered nodes pods).Subperm (offered nodes' pods') := by
  obtain ⟨kept, hperm, hsub⟩ := hnodes
  exact ⟨kept.map Node.allocatable, hperm.map _, hsub.map _⟩

lemma length_counting (hnodes : nodes.Perm nodes') (h : Rearranges pods pods') :
    (counting nodes pods).length = (counting nodes' pods').length := by
  obtain ⟨mid, halike, hmid⟩ := h
  exact (alike_counting halike).length_eq.trans (counting_perm hnodes hmid).length_eq

end Counting

section Sums

variable {quantity : Resources → Int64} {l l' : List Resources}

lemma trueSum_nonneg (h : ∀ r, 0 ≤ (quantity r).toInt) : 0 ≤ trueSum quantity l :=
  List.sum_nonneg (List.forall_mem_map.mpr fun r _ => h r)

lemma trueSum_mono (h : ∀ r, 0 ≤ (quantity r).toInt) (hl : l.Subperm l') :
    trueSum quantity l ≤ trueSum quantity l' := by
  obtain ⟨l₁, hperm, hsub⟩ := hl
  rw [trueSum, ← (hperm.map _).sum_eq]
  exact (hsub.map _).sum_le_sum (List.forall_mem_map.mpr fun r _ => h r)

lemma trueSum_perm (hl : l.Perm l') : trueSum quantity l = trueSum quantity l' :=
  (hl.map _).sum_eq

lemma toInt_sumCapped_map (h : ∀ r, 0 ≤ (quantity r).toInt) (l : List Resources) :
    (sumCapped (l.map quantity)).toInt = capped (trueSum quantity l) := by
  rw [toInt_sumCapped (List.forall_mem_map.mpr fun r _ => h r), List.map_map]
  rfl

end Sums

/-! ### Totals -/

/-- A total of snapshots: a quantity, and the resources over which it is summed up. -/
structure Total where
  sum : Snapshot → Int64
  quantity : Resources → Int64
  parts : List Node → List Pod → List Resources

/-- The four totals. A quantity that is absent or unreadable counts as zero. -/
def totals : List Total :=
  let cpu (r : Resources) : Int64 := ((r.get? "cpu").bind cpuMillis?).getD 0
  let memory (r : Resources) : Int64 := ((r.get? "memory").bind memoryBytes?).getD 0
  [⟨Snapshot.cpuRequestedMillis, cpu, asked⟩, ⟨Snapshot.cpuAllocatableMillis, cpu, offered⟩,
    ⟨Snapshot.memoryRequestedBytes, memory, asked⟩,
    ⟨Snapshot.memoryAllocatableBytes, memory, offered⟩]

/-- What a snapshot says of nodes and pods. A list in memory has fewer than `2 ^ 64` members. -/
structure Snapshot.Describes (s : Snapshot) (nodes : List Node) (pods : List Pod) : Prop where
  nodes_eq : nodes.length < UInt64.size → s.nodes.toNat = nodes.length
  pods_eq : pods.length < UInt64.size → s.pods.toNat = (counting nodes pods).length
  total_eq : ∀ t ∈ totals, (t.sum s).toInt = capped (trueSum t.quantity (t.parts nodes pods))

section Totals

variable {t : Total} {nodes nodes' : List Node} {pods pods' : List Pod} {s s' : Snapshot}

lemma totals_eq : totals = [
    ⟨Snapshot.cpuRequestedMillis, Resources.cpu, asked⟩,
    ⟨Snapshot.cpuAllocatableMillis, Resources.cpu, offered⟩,
    ⟨Snapshot.memoryRequestedBytes, Resources.memory, asked⟩,
    ⟨Snapshot.memoryAllocatableBytes, Resources.memory, offered⟩] := rfl

lemma forall_totals {P : Total → Prop} : (∀ t ∈ totals, P t) ↔
    P ⟨Snapshot.cpuRequestedMillis, Resources.cpu, asked⟩ ∧
    P ⟨Snapshot.cpuAllocatableMillis, Resources.cpu, offered⟩ ∧
    P ⟨Snapshot.memoryRequestedBytes, Resources.memory, asked⟩ ∧
    P ⟨Snapshot.memoryAllocatableBytes, Resources.memory, offered⟩ := by
  simp only [totals_eq, List.forall_mem_cons, List.not_mem_nil, IsEmpty.forall_iff, implies_true,
    and_true]

lemma quantity_nonneg : ∀ t ∈ totals, ∀ r, 0 ≤ (t.quantity r).toInt :=
  forall_totals.mpr ⟨Resources.cpu_nonneg, Resources.cpu_nonneg, Resources.memory_nonneg,
    Resources.memory_nonneg⟩

lemma parts_subperm (hnodes : nodes.Subperm nodes') (hpods : Extends pods pods') :
    ∀ t ∈ totals, (t.parts nodes pods).Subperm (t.parts nodes' pods') := by
  have hasked := asked_subperm hnodes.subset hpods
  have hoffered : (offered nodes pods).Subperm (offered nodes' pods') := offered_subperm hnodes
  exact forall_totals.mpr ⟨hasked, hoffered, hasked, hoffered⟩

lemma parts_perm (hnodes : nodes.Perm nodes') (hpods : Rearranges pods pods') :
    ∀ t ∈ totals, (t.parts nodes pods).Perm (t.parts nodes' pods') := by
  have hasked := asked_perm hnodes hpods
  have hoffered : (offered nodes pods).Perm (offered nodes' pods') := hnodes.map _
  exact forall_totals.mpr ⟨hasked, hoffered, hasked, hoffered⟩

lemma sum_of (nodes : List Node) (pods : List Pod) : ∀ t ∈ totals,
    t.sum (Snapshot.of nodes pods) = sumCapped ((t.parts nodes pods).map t.quantity) := by
  have hoffered (quantity : Resources → Int64) :
      nodes.map (fun n => quantity n.allocatable) = (offered nodes pods).map quantity :=
    List.map_map.symm
  simp only [forall_totals, Snapshot.of, countedPods_eq, hoffered, asked, and_self]

lemma Snapshot.describes_of (nodes : List Node) (pods : List Pod) :
    (Snapshot.of nodes pods).Describes nodes pods where
  nodes_eq h := UInt64.toNat_ofNat_of_lt h
  pods_eq h := by
    have hcounted : (counting nodes pods).length < UInt64.size :=
      (List.length_filter_le _ _).trans_lt h
    rw [Snapshot.of, countedPods_eq]
    exact UInt64.toNat_ofNat_of_lt hcounted
  total_eq t ht := by
    rw [sum_of nodes pods t ht, toInt_sumCapped_map (quantity_nonneg t ht)]

lemma Snapshot.eq_of_totals (hnodes : s.nodes = s'.nodes) (hpods : s.pods = s'.pods)
    (h : ∀ t ∈ totals, t.sum s = t.sum s') : s = s' := by
  obtain ⟨hcpuRequested, hcpuAllocatable, hmemoryRequested, hmemoryAllocatable⟩ :=
    forall_totals.mp h
  cases s
  cases s'
  rw [Snapshot.mk.injEq]
  exact ⟨hnodes, hpods, hcpuRequested, hcpuAllocatable, hmemoryRequested, hmemoryAllocatable⟩

/-- What a snapshot says of any nodes and any pods. It counts the nodes, and of the pods those that
are assigned to one of the nodes and have not run to their end. A total is the true sum of its
quantities, up to the greatest signed word. No quantity is negative, whatever its text, so that no
total is, and further nodes, pods or containers never make one less. The order of nodes, pods and
containers does not matter. -/
theorem snapshot_totals (nodes : List Node) (pods : List Pod) :
    (Snapshot.of nodes pods).Describes nodes pods ∧
    (∀ text q, cpuMillis? text = some q ∨ memoryBytes? text = some q →
      0 ≤ q.toInt ∧ q.toInt ≤ Text.maxInt64) ∧
    (∀ t ∈ totals, 0 ≤ (t.sum (Snapshot.of nodes pods)).toInt) ∧
    (∀ nodes' pods', nodes.Subperm nodes' → Extends pods pods' → ∀ t ∈ totals,
      (t.sum (Snapshot.of nodes pods)).toInt ≤ (t.sum (Snapshot.of nodes' pods')).toInt) ∧
    ∀ nodes' pods', nodes.Perm nodes' → Rearranges pods pods' →
      Snapshot.of nodes pods = Snapshot.of nodes' pods' := by
  have hdescribes := Snapshot.describes_of nodes pods
  refine ⟨hdescribes, fun text q h => ⟨?_, toInt_le_max q⟩, fun t ht => ?_,
    fun nodes' pods' hnodes hpods t ht => ?_, fun nodes' pods' hnodes hpods => ?_⟩
  · exact h.elim nonneg_of_cpuMillis? nonneg_of_memoryBytes?
  · rw [hdescribes.total_eq t ht]
    exact capped_nonneg (trueSum_nonneg (quantity_nonneg t ht))
  · rw [hdescribes.total_eq t ht, (Snapshot.describes_of nodes' pods').total_eq t ht]
    exact capped_mono (trueSum_mono (quantity_nonneg t ht) (parts_subperm hnodes hpods t ht))
  · refine Snapshot.eq_of_totals (congrArg UInt64.ofNat hnodes.length_eq) ?_ fun t ht => ?_
    · rw [Snapshot.of, Snapshot.of, countedPods_eq, countedPods_eq, length_counting hnodes hpods]
    · rw [← Int64.toInt_inj, hdescribes.total_eq t ht,
        (Snapshot.describes_of nodes' pods').total_eq t ht,
        trueSum_perm (parts_perm hnodes hpods t ht)]

/-- A node with a pod, then with a further pod before it, and then with the two in the other order.
-/
theorem snapshot_totals_furtherPod : ∃ (node : Node) (pod further : Pod),
    (cpuMillis? "250m" = some 250 ∧ (250 : Int64).toInt ≤ Text.maxInt64) ∧
    (Snapshot.of [node] [pod]).nodes.toNat = 1 ∧
    (Extends [pod] [further, pod] ∧ (Snapshot.of [node] [pod]).cpuRequestedMillis = 250 ∧
      (Snapshot.of [node] [pod]).cpuRequestedMillis.toInt ≤
        (Snapshot.of [node] [further, pod]).cpuRequestedMillis.toInt) ∧
    Rearranges [further, pod] [pod, further] ∧
      Snapshot.of [node] [further, pod] = Snapshot.of [node] [pod, further] := by
  let node : Node := ⟨"a", [("cpu", "2")]⟩
  let pod : Pod := ⟨some ⟨some "a", [[("cpu", "250m")]]⟩, none⟩
  let further : Pod := ⟨some ⟨some "a", [[("cpu", "1")], []]⟩, some "Running"⟩
  have hread : cpuMillis? "250m" = some 250 := by decide +kernel
  have hasked : (Snapshot.of [⟨"a", [("cpu", "2")]⟩]
      [⟨some ⟨some "a", [[("cpu", "250m")]]⟩, none⟩]).cpuRequestedMillis = 250 := by
    decide +kernel
  have hsame (p : Pod) : p.Alike List.Subperm p := ⟨rfl, rfl, List.Subperm.refl _⟩
  have hextends : Extends [pod] [further, pod] :=
    ⟨[pod], .cons (hsame pod) .nil, (List.sublist_cons_self _ _).subperm⟩
  have halike (p : Pod) : p.Alike List.Perm p := ⟨rfl, rfl, .refl _⟩
  have hrearranges : Rearranges [further, pod] [pod, further] :=
    ⟨[further, pod], .cons (halike further) (.cons (halike pod) .nil), .swap _ _ _⟩
  obtain ⟨hdescribes, hquantity, -, hmono, -⟩ := snapshot_totals [node] [pod]
  have hmore := (forall_totals.mp (hmono [node] [further, pod] (.refl _) hextends)).1
  refine ⟨node, pod, further, ⟨hread, (hquantity _ _ (.inl hread)).2⟩,
    hdescribes.nodes_eq (by decide), ⟨hextends, hasked, hmore⟩, hrearranges, ?_⟩
  exact (snapshot_totals _ _).2.2.2.2 _ _ (.refl _) hrearranges

end Totals
end Autoscaler.Cluster
