import Autoscaler.ControlLoop.Pass
import Mathlib.Data.List.Induction

/-!
# Groups in a pass

A pass asks the scanner once for each group, in order and whatever comes of the scans before. What it
logs falls into one stretch for each group, and a stretch depends on the group and on the outcome of
its own scan alone.
-/

namespace Autoscaler.ControlLoop
open NodeGroup (Spec)

/-- What a pass logs while it takes up the outcome at a position: its log after that scan without
its log before it. -/
def linesAt (dryMode : Bool) (scans : List (Spec × Outcome)) (i : Nat) : List Log.Event :=
  (Pass.run dryMode (scans.take (i + 1))).log.drop (Pass.run dryMode (scans.take i)).log.length

def scanFailed : String := "Scan failed, continuing with next node group"

def scanned : String := "Scanned node group"

def sizeWarnings : List String :=
  ["Node group is below min_nodes", "Node group is above max_nodes"]

/-- A line names a group and says whether decisions for it are applied. -/
def SaysDry (dryMode : Bool) (group : Spec) (e : Log.Event) : Prop :=
  e.fields.lookup "nodegroup" = some (.shown group.name) ∧
    e.fields.lookup "dry_mode" = some (.flag (group.dryMode || dryMode))

/-- Lines report the outcome of a scan: a failure by one warning that names the group, a success by
one line and at most one warning of the size after it. -/
def Reports (dryMode : Bool) (group : Spec) : Outcome → List Log.Event → Prop
  | .error _, lines => ∃ e, lines = [e] ∧ e.level = .warn ∧ e.message = scanFailed ∧
      e.fields.lookup "nodegroup" = some (.shown group.name)
  | .ok _, lines => ∃ e warnings, lines = e :: warnings ∧
      e.message = scanned ∧ SaysDry dryMode group e ∧ warnings.length ≤ 1 ∧
      ∀ w ∈ warnings, w.level = .warn ∧ w.message ∈ sizeWarnings ∧ SaysDry dryMode group w

section Asking

variable {m : Type → Type} [Monad m] [LawfulMonad m]

lemma foldlM_add (dryMode : Bool) (scanner : Spec → m Outcome) (groups : List Spec) (p : Pass) :
    groups.foldlM (fun p group => p.add dryMode group <$> scanner group) p =
      (fun outcomes => (groups.zip outcomes).foldl
        (fun p (group, outcome) => p.add dryMode group outcome) p) <$> groups.mapM scanner := by
  induction groups generalizing p with
  | nil => simp
  | cons group groups ih => simp [ih, Functor.map_map]

lemma perform_eq (dryMode : Bool) (scanner : Spec → m Outcome) (groups : List Spec) :
    Pass.perform dryMode scanner groups =
      (fun outcomes => Pass.run dryMode (groups.zip outcomes)) <$> groups.mapM scanner :=
  foldlM_add dryMode scanner groups {}

end Asking

section Lines

variable {dryMode : Bool} {scans : List (Spec × Outcome)} {group : Spec} {outcome : Outcome} {i : Nat}

lemma run_append_singleton (dryMode : Bool) (scans : List (Spec × Outcome)) (group : Spec)
    (outcome : Outcome) : Pass.run dryMode (scans ++ [(group, outcome)]) =
      (Pass.run dryMode scans).add dryMode group outcome :=
  List.foldl_append

lemma calls_run (dryMode : Bool) (scans : List (Spec × Outcome)) :
    (Pass.run dryMode scans).calls = scans.map fun scan => scan.1.name := by
  induction scans using List.reverseRecOn with
  | nil => rfl
  | append_singleton scans scan ih =>
    rw [run_append_singleton, Pass.add, ih, List.map_append]
    rfl

lemma tally_run (dryMode : Bool) (scans : List (Spec × Outcome)) :
    (Pass.run dryMode scans).tally =
      ⟨scans.countP (·.2.isOk), scans.countP (!·.2.isOk)⟩ := by
  induction scans using List.reverseRecOn with
  | nil => rfl
  | append_singleton scans scan ih =>
    obtain ⟨group, outcome⟩ := scan
    rw [run_append_singleton, Pass.add, ih, List.countP_append, List.countP_append]
    cases outcome <;> rfl

lemma linesAt_of_scan (h : scans[i]? = some (group, outcome)) :
    linesAt dryMode scans i = outcomeLog dryMode group outcome := by
  rw [linesAt, List.take_add_one, h, Option.toList_some, run_append_singleton]
  exact List.drop_left

/-- The stretches are all that is logged. -/
lemma log_run (dryMode : Bool) (scans : List (Spec × Outcome)) :
    (Pass.run dryMode scans).log = (List.range scans.length).flatMap (linesAt dryMode scans) := by
  have hupTo (n : Nat) (hn : n ≤ scans.length) : (Pass.run dryMode (scans.take n)).log =
      (List.range n).flatMap (linesAt dryMode scans) := by
    induction n with
    | zero => rfl
    | succ n ih =>
      have hscan : scans[n]? = some scans[n] := List.getElem?_eq_getElem hn
      rw [List.range_succ, List.flatMap_append, ← ih (by omega), List.flatMap_singleton,
        linesAt_of_scan hscan, List.take_add_one, hscan, Option.toList_some, run_append_singleton]
      rfl
  have hall := hupTo scans.length (Nat.le_refl _)
  rwa [List.take_length] at hall

lemma sizeLog_cases (dryMode : Bool) (group : Spec) (s : Cluster.Snapshot) :
    sizeLog dryMode group s = [] ∨ ∃ w, sizeLog dryMode group s = [w] ∧
      w.level = .warn ∧ w.message ∈ sizeWarnings ∧ SaysDry dryMode group w := by
  unfold sizeLog
  cases Cluster.SizeStatus.of group s with
  | belowMin => exact .inr ⟨_, rfl, rfl, List.mem_cons_self, rfl, rfl⟩
  | withinBounds => exact .inl rfl
  | aboveMax => exact .inr ⟨_, rfl, rfl, List.mem_cons_of_mem _ List.mem_cons_self, rfl, rfl⟩

lemma reports_outcomeLog (dryMode : Bool) (group : Spec) (outcome : Outcome) :
    Reports dryMode group outcome (outcomeLog dryMode group outcome) := by
  cases outcome with
  | error e => exact ⟨_, rfl, rfl, rfl, rfl⟩
  | ok s =>
    refine ⟨_, sizeLog dryMode group s, rfl, rfl, ⟨rfl, rfl⟩, ?_⟩
    rcases sizeLog_cases dryMode group s with h | ⟨w, h, hw⟩
    · simp [h]
    · rw [h, List.forall_mem_singleton]
      exact ⟨Nat.le_refl 1, hw⟩

end Lines

/-- A pass over any groups. It asks the scanner for the groups in order and once for each, and goes
on whatever the answer, for its outcomes are those of asking for one group after the other. It
counts the successes and the failures among them, which are as many as there are groups. Its log is
one stretch for each group, which reports the outcome of its scan, and two passes in which a group
has the same outcome log the same of it. -/
theorem pass_independence {m : Type → Type} [Monad m] [LawfulMonad m] (dryMode : Bool)
    (groups : List Spec) :
    (∀ scanner : Spec → m Outcome, Pass.perform dryMode scanner groups =
      (fun outcomes => Pass.run dryMode (groups.zip outcomes)) <$> groups.mapM scanner) ∧
    ∀ outcomes : List Outcome, outcomes.length = groups.length →
      let pass := Pass.run dryMode (groups.zip outcomes)
      let lines := linesAt dryMode (groups.zip outcomes)
      pass.calls = groups.map Spec.name ∧
      pass.tally = ⟨outcomes.countP (·.isOk), outcomes.countP (!·.isOk)⟩ ∧
      pass.tally.scanned + pass.tally.failed = groups.length ∧
      pass.log = (List.range groups.length).flatMap lines ∧
      ∀ i group outcome, groups[i]? = some group → outcomes[i]? = some outcome →
        Reports dryMode group outcome (lines i) ∧
        ∀ outcomes' : List Outcome, outcomes'[i]? = some outcome →
          linesAt dryMode (groups.zip outcomes') i = lines i := by
  refine ⟨fun scanner => perform_eq dryMode scanner groups, fun outcomes hlength => ?_⟩
  have hnames : (groups.zip outcomes).map Prod.fst = groups :=
    List.map_fst_zip (Nat.le_of_eq hlength.symm)
  have houtcomes : (groups.zip outcomes).map Prod.snd = outcomes :=
    List.map_snd_zip (Nat.le_of_eq hlength)
  have hcount (p : Outcome → Bool) :
      (groups.zip outcomes).countP (fun scan => p scan.2) = outcomes.countP p := by
    conv => rhs; rw [← houtcomes, List.countP_map]
    rfl
  have htally : (Pass.run dryMode (groups.zip outcomes)).tally =
      ⟨outcomes.countP (·.isOk), outcomes.countP (!·.isOk)⟩ := by
    rw [tally_run, hcount, hcount (!·.isOk)]
  have hscan {i : Nat} {group : Spec} {outcome : Outcome} {outcomes' : List Outcome}
      (hgroup : groups[i]? = some group)
      (houtcome : outcomes'[i]? = some outcome) :
      (groups.zip outcomes')[i]? = some (group, outcome) := by
    rw [List.getElem?_zip_eq_some]
    exact ⟨hgroup, houtcome⟩
  refine ⟨?_, htally, ?_, ?_, fun i group outcome hgroup houtcome => ⟨?_, ?_⟩⟩
  · rw [calls_run, ← hnames, List.map_map, hnames]
    rfl
  · rw [htally, ← hlength, List.length_eq_countP_add_countP (·.isOk)]
    simp only [Bool.not_eq_true, Bool.decide_eq_false]
  · rw [log_run, List.length_zip, hlength, Nat.min_self]
  · rw [linesAt_of_scan (hscan hgroup houtcome)]
    exact reports_outcomeLog dryMode group outcome
  · intro outcomes' houtcome'
    rw [linesAt_of_scan (hscan hgroup houtcome), linesAt_of_scan (hscan hgroup houtcome')]

/-- Answers with the outcomes of a list in order. -/
def scripted (_ : Spec) : StateM (List Outcome) Outcome :=
  modifyGet fun outcomes => (outcomes.headD (.ok {}), outcomes.tail)

/-- Two groups, the first of which cannot be scanned or is empty, and the second too small. -/
theorem pass_independence_tooSmall : ∃ (a b : Spec) (unreachable empty small : Outcome),
    [unreachable, small].length = [a, b].length ∧
    ((Pass.perform true scripted [a, b]).run [unreachable, small]).1.tally = ⟨1, 1⟩ ∧
    [a, b][1]? = some b ∧ [unreachable, small][1]? = some small ∧
    Reports true b small (linesAt true [(a, unreachable), (b, small)] 1) ∧
    [empty, small][1]? = some small ∧
    linesAt true [(a, empty), (b, small)] 1 = linesAt true [(a, unreachable), (b, small)] 1 := by
  let a : Spec := { name := "a" }
  let b : Spec := { name := "b", minNodes := 2, maxNodes := 5 }
  let unreachable : Outcome := .error (.api .unreachable)
  let small : Outcome := .ok { nodes := 1 }
  obtain ⟨hasks, hpass⟩ := pass_independence (m := StateM (List Outcome)) true [a, b]
  obtain ⟨-, htally, -, -, hlines⟩ := hpass [unreachable, small] rfl
  obtain ⟨hreports, hsame⟩ := hlines 1 b small rfl rfl
  refine ⟨a, b, unreachable, .ok {}, small, rfl, ?_, rfl, rfl, hreports, rfl, hsame [.ok {}, small] rfl⟩
  rw [hasks scripted]
  exact htally

end Autoscaler.ControlLoop
