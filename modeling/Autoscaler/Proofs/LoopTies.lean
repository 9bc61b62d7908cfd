import Autoscaler.Proofs.LoopStop

/-!
# Scans after the stop signal has closed

A loop that is to stop may first take a tick that is due, or the end of a scan that ends at the same
instant. So a scan can start after the signal has closed, at the instant of the close: exactly if
there is something for the loop to take that leads to one. In no other state does a scan start.
-/

namespace Autoscaler.ControlLoop

variable {opts : RunOptions} {s s' : State} {l : Label} {ls : List Label}

/-- What the loop may take before it looks at the signal leads to a scan: a tick that is due, a tick
that it has taken, or the end of the scan that is going on. -/
def State.Tied (opts : RunOptions) (s : State) : Prop :=
  match s.phase with
  | .waiting => s.timer.fires s.due ≤ s.now ∧ opts.nodeGroups ≠ []
  | .ticked => opts.nodeGroups ≠ []
  | .scanning p => p.rest ≠ [] ∨ s.timer.fires s.due ≤ s.now ∧ opts.nodeGroups ≠ []
  | .stopped => False

lemma calls_of_step (h : Step opts s l s') :
    s'.calls = s.calls ∨ ∃ group, s.phase ≠ .stopped ∧ s'.calls = (s.now, group) :: s.calls := by
  cases h with
  | beginPass group rest hp => exact .inr ⟨group.name, by simp [hp], rfl⟩
  | nextScan p o group rest hp => exact .inr ⟨group.name, by simp [hp], rfl⟩
  | _ => exact .inl rfl

/-- A scan that starts after the end of the signal starts at that instant. -/
lemma calls_of_run (hr : s.signal.releases = true) (h : s.run opts ls = some s') :
    ∃ later, s'.calls = later ++ s.calls ∧ ∀ c ∈ later, c.1 = s.now := by
  suffices hall : s'.signal.releases = true ∧ (s'.phase ≠ .stopped → s'.now = s.now) ∧
      ∃ later, s'.calls = later ++ s.calls ∧ ∀ c ∈ later, c.1 = s.now from hall.2.2
  refine run_induction (P := fun _ s' => s'.signal.releases = true ∧
    (s'.phase ≠ .stopped → s'.now = s.now) ∧
    ∃ later, s'.calls = later ++ s.calls ∧ ∀ c ∈ later, c.1 = s.now)
    ⟨hr, fun _ => rfl, [], rfl, by simp⟩ ?_ h
  rintro _ l m m' ⟨hm, hnow, later, hcalls, hlater⟩ hstep
  refine ⟨releases_of_step hstep hm, ?_, ?_⟩
  · intro hp'
    by_cases hp : m.phase = .stopped
    · exact absurd (atRest_of_step hstep hp hm).phase hp'
    · rw [now_of_step hstep hm hp, hnow hp]
  · rcases calls_of_step hstep with heq | ⟨group, hp, hnew⟩
    · exact ⟨later, by rw [heq, hcalls], hlater⟩
    · refine ⟨(m.now, group) :: later, by rw [hnew, hcalls]; rfl, ?_⟩
      exact List.forall_mem_cons.mpr ⟨hnow hp, hlater⟩

/-- A loop that has nothing to take before it stops starts no scan, and stays so. -/
lemma untied_of_step (h : Step opts s l s') (hr : s.signal.releases = true)
    (ht : ¬ s.Tied opts) : s'.calls = s.calls ∧ ¬ s'.Tied opts := by
  unfold State.Tied at ht ⊢
  cases h with
  | elapse nanos hm =>
    cases hp : s.phase with
    | stopped => simp
    | _ => simp [State.mayReach, hp, hr] at hm
  | close | closeAgain | abandon => exact ⟨rfl, ht⟩
  | tick hp hd =>
    simp only [hp] at ht
    exact ⟨rfl, fun hg => ht ⟨hd, hg⟩⟩
  | beginPass group rest hp hg => simp [hp, hg] at ht
  | beginEmpty hp hg => exact ⟨rfl, fun hdue => hdue.2 hg⟩
  | nextScan p o group rest hp hg => simp [hp, hg] at ht
  | lastScan p o hp hg =>
    simp only [hp] at ht
    exact ⟨rfl, fun hdue => ht (.inr hdue)⟩
  | quit => exact ⟨rfl, fun hf => hf⟩

lemma calls_of_untied (hr : s.signal.releases = true) (ht : ¬ s.Tied opts)
    (h : s.run opts ls = some s') : s'.calls = s.calls := by
  suffices hall : s'.signal.releases = true ∧ ¬ s'.Tied opts ∧ s'.calls = s.calls from hall.2.2
  refine run_induction (P := fun _ s' => s'.signal.releases = true ∧ ¬ s'.Tied opts ∧
    s'.calls = s.calls) ⟨hr, ht, rfl⟩ ?_ h
  rintro _ l m m' ⟨hm, hm', hcalls⟩ hstep
  obtain ⟨heq, hnext⟩ := untied_of_step hstep hm hm'
  exact ⟨releases_of_step hstep hm, hnext, heq.trans hcalls⟩

lemma scan_of_begin (hp : s.phase = .ticked) (hg : opts.nodeGroups ≠ []) :
    ∃ s', s.run opts [.begin] = some s' ∧ s'.calls ≠ s.calls := by
  obtain ⟨group, rest, hgroups⟩ := List.exists_cons_of_ne_nil hg
  refine ⟨s.startScan s.now {} group rest, ?_, by simp⟩
  rw [run_cons]
  exact ⟨_, .beginPass group rest hp hgroups, rfl⟩

lemma scan_of_due (hp : s.phase = .waiting) (hd : s.timer.fires s.due ≤ s.now)
    (hg : opts.nodeGroups ≠ []) :
    ∃ s', s.run opts [.tick, .begin] = some s' ∧ s'.calls ≠ s.calls := by
  let m : State := { s with
    phase := .ticked, due := nextDue opts.scanInterval.nanos s.due s.now }
  obtain ⟨s', hrun, hcalls⟩ := @scan_of_begin opts m rfl hg
  exact ⟨s', run_cons.mpr ⟨m, .tick hp hd, hrun⟩, hcalls⟩

lemma scan_of_tied (ht : s.Tied opts) :
    ∃ rest s', s.run opts rest = some s' ∧ s'.calls ≠ s.calls := by
  unfold State.Tied at ht
  cases hp : s.phase with
  | stopped => simp [hp] at ht
  | ticked =>
    simp only [hp] at ht
    exact ⟨_, scan_of_begin hp ht⟩
  | waiting =>
    simp only [hp] at ht
    exact ⟨_, scan_of_due hp ht.1 ht.2⟩
  | scanning p =>
    simp only [hp] at ht
    cases hrest : p.rest with
    | cons group rest =>
      have hnext : Step opts s (.scanned (.ok {})) _ := .nextScan p (.ok {}) group rest hp hrest
      exact ⟨[.scanned (.ok {})], _, run_cons.mpr ⟨_, hnext, rfl⟩, by simp⟩
    | nil =>
      -- the pass ends first, and a tick is due
      have hdue := ht.resolve_left (fun h => h hrest)
      let m := (s.takeOutcome opts p.group (.ok {})).endPass p.begun (p.tally.add (.ok {}))
      obtain ⟨s', hrun, hcalls⟩ := @scan_of_due opts m rfl hdue.1 hdue.2
      exact ⟨_, s', run_cons.mpr ⟨m, .lastScan p (.ok {}) hp hrest, hrun⟩, hcalls⟩

/-- Every state of the loop after the stop signal has closed, whoever wins where two steps are due.
A scan that starts after the close starts at the instant of the close. None starts exactly if the
loop has nothing to take at that instant that leads to a scan. -/
theorem scans_after_close (hc : s.signal.closed = true) :
    (∀ rest s', s.run opts rest = some s' →
      ∃ later, s'.calls = later ++ s.calls ∧ ∀ c ∈ later, c.1 = s.now) ∧
    ((∀ rest s', s.run opts rest = some s' → s'.calls = s.calls) ↔ ¬ s.Tied opts) := by
  have hr : s.signal.releases = true := by simp [StopSignal.releases, hc]
  refine ⟨fun rest s' hrun => calls_of_run hr hrun, ?_, ?_⟩
  · intro hnone ht
    obtain ⟨rest, s', hrun, hcalls⟩ := scan_of_tied ht
    exact hcalls (hnone rest s' hrun)
  · intro ht rest s' hrun
    exact calls_of_untied hr ht hrun

/-- A signal that has closed before the loop starts. -/
def closedSignal : StopSignal := (({} : StopSignal).close).1

/-- A loop that is to wait for an interval first does not scan if the signal is closed before. -/
theorem scans_after_close_delayed : (State.start twoPools false closedSignal).signal.closed = true ∧
    ∀ rest s', (State.start twoPools false closedSignal).run twoPools rest = some s' →
      s'.calls = [] := by
  have h := @scans_after_close twoPools (State.start twoPools false closedSignal) rfl
  refine ⟨rfl, h.2.mpr ?_⟩
  rintro ⟨hdue, -⟩
  exact absurd hdue (by decide)

/-- Two scans that start after the close: one follows a scan that ends as the signal closes, and one
belongs to the first pass of a loop whose signal has closed before. -/
theorem scan_follows_close :
    (∃ s s', (State.start twoPools true {}).run twoPools
        [.tick, .begin, .elapse 1000000000, .close] = some s ∧
      s.signal.closed = true ∧ s.calls = [(0, "pool-a")] ∧
      s.run twoPools [.scanned (.ok {}), .quit] = some s' ∧
      s'.calls = [(1000000000, "pool-b"), (0, "pool-a")]) ∧
    ∃ s', (State.start twoPools true closedSignal).signal.closed = true ∧
      (State.start twoPools true closedSignal).calls = [] ∧
      (State.start twoPools true closedSignal).run twoPools [.tick, .begin, .quit] = some s' ∧
      s'.calls = [(0, "pool-a")] :=
  ⟨⟨_, _, rfl, rfl, rfl, rfl, rfl⟩, _, rfl, rfl, rfl, rfl⟩

end Autoscaler.ControlLoop
