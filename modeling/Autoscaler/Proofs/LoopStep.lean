import Autoscaler.ControlLoop.History
import Autoscaler.Proofs.Runs

/-!
# Steps and runs of the control loop

The transitions of the control loop as a relation, one rule for each thing that can happen, and
induction over runs. The function that takes steps agrees with the relation.
-/

namespace Autoscaler.ControlLoop

namespace State

variable (s : State) (events : List Log.Event) (begun : Nat) (tally : Tally)
  (group : NodeGroup.Spec) (rest : List NodeGroup.Spec) (opts : RunOptions) (outcome : Outcome)

@[simp] lemma emit_timer : (s.emit events).timer = s.timer := rfl
@[simp] lemma emit_now : (s.emit events).now = s.now := rfl
@[simp] lemma emit_due : (s.emit events).due = s.due := rfl
@[simp] lemma emit_phase : (s.emit events).phase = s.phase := rfl
@[simp] lemma emit_signal : (s.emit events).signal = s.signal := rfl
@[simp] lemma emit_metrics : (s.emit events).metrics = s.metrics := rfl
@[simp] lemma emit_calls : (s.emit events).calls = s.calls := rfl

@[simp] lemma emit_log :
    (s.emit events).log = (events.map fun e => (s.now, e)).reverse ++ s.log := rfl

@[simp] lemma endPass_timer : (s.endPass begun tally).timer = s.timer := rfl
@[simp] lemma endPass_now : (s.endPass begun tally).now = s.now := rfl
@[simp] lemma endPass_due : (s.endPass begun tally).due = s.due := rfl
@[simp] lemma endPass_phase : (s.endPass begun tally).phase = .waiting := rfl
@[simp] lemma endPass_signal : (s.endPass begun tally).signal = s.signal := rfl
@[simp] lemma endPass_calls : (s.endPass begun tally).calls = s.calls := rfl

@[simp] lemma startScan_timer : (s.startScan begun tally group rest).timer = s.timer := rfl
@[simp] lemma startScan_now : (s.startScan begun tally group rest).now = s.now := rfl
@[simp] lemma startScan_due : (s.startScan begun tally group rest).due = s.due := rfl
@[simp] lemma startScan_signal : (s.startScan begun tally group rest).signal = s.signal := rfl
@[simp] lemma startScan_metrics : (s.startScan begun tally group rest).metrics = s.metrics := rfl
@[simp] lemma startScan_log : (s.startScan begun tally group rest).log = s.log := rfl

@[simp] lemma startScan_phase :
    (s.startScan begun tally group rest).phase = .scanning ⟨begun, tally, group, rest⟩ := rfl

@[simp] lemma startScan_calls :
    (s.startScan begun tally group rest).calls = (s.now, group.name) :: s.calls := rfl

@[simp] lemma takeOutcome_timer : (s.takeOutcome opts group outcome).timer = s.timer := rfl
@[simp] lemma takeOutcome_now : (s.takeOutcome opts group outcome).now = s.now := rfl
@[simp] lemma takeOutcome_due : (s.takeOutcome opts group outcome).due = s.due := rfl
@[simp] lemma takeOutcome_signal : (s.takeOutcome opts group outcome).signal = s.signal := rfl
@[simp] lemma takeOutcome_calls : (s.takeOutcome opts group outcome).calls = s.calls := rfl

end State

/-- What can happen in a state. -/
inductive Step (opts : RunOptions) (s : State) : Label → State → Prop
  | elapse (nanos : Nat) (h : s.mayReach (s.now + nanos) = true) :
    Step opts s (.elapse nanos) { s with now := s.now + nanos }
  | close (hc : s.signal.controlled = true) (ho : s.signal.closed = false) :
    Step opts s .close ({ s with signal := s.signal.close.1 }.emit [StopSignal.closeLog])
  | closeAgain (hc : s.signal.controlled = true) (hd : s.signal.closed = true) :
    Step opts s .close s
  | abandon : Step opts s .abandon { s with signal := s.signal.dropController }
  | tick (hp : s.phase = .waiting) (hd : s.timer.fires s.due ≤ s.now) :
    Step opts s .tick
      { s with phase := .ticked, due := nextDue opts.scanInterval.nanos s.due s.now }
  | beginPass (group : NodeGroup.Spec) (rest : List NodeGroup.Spec) (hp : s.phase = .ticked)
    (hg : opts.nodeGroups = group :: rest) :
    Step opts s .begin (s.startScan s.now {} group rest)
  | beginEmpty (hp : s.phase = .ticked) (hg : opts.nodeGroups = []) :
    Step opts s .begin (s.endPass s.now {})
  | nextScan (p : Progress) (o : Outcome) (group : NodeGroup.Spec) (rest : List NodeGroup.Spec)
    (hp : s.phase = .scanning p) (hg : p.rest = group :: rest) :
    Step opts s (.scanned o)
      ((s.takeOutcome opts p.group o).startScan p.begun (p.tally.add o) group rest)
  | lastScan (p : Progress) (o : Outcome) (hp : s.phase = .scanning p) (hg : p.rest = []) :
    Step opts s (.scanned o) ((s.takeOutcome opts p.group o).endPass p.begun (p.tally.add o))
  | quit (hr : s.signal.releases = true) (hp : s.phase ≠ .stopped) :
    Step opts s .quit ({ s with phase := .stopped }.emit [State.stopLog])

variable {opts : RunOptions} {s s' m : State} {l : Label} {ls : List Label}

lemma step_of_eq_some (h : s.step opts l = some s') : Step opts s l s' := by
  cases l with
  | elapse nanos =>
    simp only [State.step] at h
    split at h
    next hm => cases h; exact .elapse nanos hm
    next => cases h
  | close =>
    cases hc : s.signal.controlled with
    | false => simp [State.step, hc] at h
    | true =>
      cases hd : s.signal.closed with
      | true =>
        simp [State.step, hc, StopSignal.close, hd] at h
        subst h
        exact .closeAgain hc hd
      | false =>
        have hstep : Step opts s .close _ := .close hc hd
        simp [State.step, hc, StopSignal.close, hd] at h
        subst h
        simpa [StopSignal.close, hc, hd] using hstep
  | abandon => cases h; exact .abandon
  | tick =>
    simp only [State.step] at h
    split at h
    next hp =>
      split at h
      next hd => cases h; exact .tick hp hd
      next => cases h
    next => cases h
  | begin =>
    simp only [State.step] at h
    split at h
    next hp =>
      cases h
      cases hg : opts.nodeGroups with
      | nil => exact .beginEmpty hp hg
      | cons group rest => exact .beginPass group rest hp hg
    next => cases h
  | scanned o =>
    simp only [State.step] at h
    split at h
    next p hp =>
      cases h
      cases hg : p.rest with
      | nil => exact .lastScan p o hp hg
      | cons group rest => exact .nextScan p o group rest hp hg
    next => cases h
  | quit =>
    simp only [State.step] at h
    split at h
    next hq =>
      cases h
      simp only [Bool.and_eq_true, bne_iff_ne, ne_eq] at hq
      exact .quit hq.1 hq.2
    next => cases h

/-- The rules say exactly what the machine does. -/
theorem step_eq_some_iff : s.step opts l = some s' ↔ Step opts s l s' := by
  refine ⟨step_of_eq_some, ?_⟩
  intro h
  cases h with
  | close hc ho => simp [State.step, hc, StopSignal.close, ho]
  | closeAgain hc hd => simp [State.step, hc, StopSignal.close, hd]
  | _ => simp_all [State.step, State.advance]

lemma run_eq_foldlM (s : State) (ls : List Label) :
    s.run opts ls = ls.foldlM (State.step opts) s := by
  induction ls generalizing s with
  | nil => rfl
  | cons l rest ih =>
    simp only [State.run, ih, List.foldlM_cons]
    rfl

lemma run_concat : s.run opts (ls ++ [l]) = some s' ↔
    ∃ m, s.run opts ls = some m ∧ Step opts m l s' := by
  simp only [run_eq_foldlM, Runs.foldlM_concat, step_eq_some_iff]

lemma run_cons : s.run opts (l :: ls) = some s' ↔
    ∃ m, Step opts s l m ∧ m.run opts ls = some s' := by
  rw [State.run, Option.bind_eq_some_iff]
  simp [step_eq_some_iff]

lemma trace_concat (h : s.run opts ls = some m) (hstep : Step opts m l s') :
    s.trace opts (ls ++ [l]) = s.trace opts ls ++ [⟨m, l, s'⟩] := by
  induction ls generalizing s with
  | nil =>
    cases h
    simp [State.trace, step_eq_some_iff.mpr hstep]
  | cons l' rest ih =>
    obtain ⟨n, hn, hrest⟩ := run_cons.mp h
    simp [State.trace, step_eq_some_iff.mpr hn, ih hrest]

/-- What holds at the start and is kept by each step holds after each run. -/
theorem run_induction {s₀ : State} {P : List Transition → State → Prop} (hinit : P [] s₀)
    (hstep : ∀ tr l s s', P tr s → Step opts s l s' → P (tr ++ [⟨s, l, s'⟩]) s')
    (h : s₀.run opts ls = some s) : P (s₀.trace opts ls) s := by
  rw [run_eq_foldlM] at h
  refine Runs.foldlM_induction (P := fun ls s => P (s₀.trace opts ls) s) hinit ?_ h
  intro ls l s s' hs ih hl
  rw [← run_eq_foldlM] at hs
  rw [trace_concat hs (step_of_eq_some hl)]
  exact hstep _ l s s' ih (step_of_eq_some hl)

/-- A run that succeeds takes all of its steps. -/
lemma map_label_trace (h : s.run opts ls = some s') :
    (s.trace opts ls).map Transition.label = ls := by
  induction ls generalizing s with
  | nil => rfl
  | cons l rest ih =>
    obtain ⟨m, hm, hrest⟩ := run_cons.mp h
    simp [State.trace, step_eq_some_iff.mpr hm, ih hrest]

/-! ### What one more step tells -/

lemma filterMap_concat {α β : Type} (f : α → Option β) (xs : List α) (x : α) :
    (xs ++ [x]).filterMap f = xs.filterMap f ++ (f x).toList := by
  rw [List.filterMap_append, List.filterMap_cons, List.filterMap_nil]
  cases f x <;> rfl

variable (tr : List Transition) (t : Transition)

lemma beginnings_concat : beginnings (tr ++ [t]) = beginnings tr ++ t.beginning?.toList :=
  filterMap_concat _ tr t

lemma completions_concat : completions (tr ++ [t]) = completions tr ++ t.completion?.toList :=
  filterMap_concat _ tr t

lemma endedScans_concat : endedScans (tr ++ [t]) = endedScans tr ++ t.scan?.toList :=
  filterMap_concat _ tr t

end Autoscaler.ControlLoop
