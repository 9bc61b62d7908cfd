import Autoscaler.Proofs.LoopStep
import Mathlib.Algebra.Order.Group.Nat
import Mathlib.Tactic.Ring

/-!
# The end of the control loop

While the stop signal is open the loop goes on, whatever the scans come to. Once the signal has
released those who wait for it no time passes until the loop has stopped, and the loop has only so
many steps left, whoever wins where a tick or the end of a scan meets the end of the signal. A pass
that is dropped keeps what it has measured and counts for nothing itself.
-/

namespace Autoscaler.ControlLoop

variable {opts : RunOptions} {s s' m : State} {l : Label} {ls : List Label}

/-- Whether a step moves the loop on. The others are those of time and of the signal. -/
def Label.movesLoop : Label → Bool
  | .tick => true
  | .begin => true
  | .scanned _ => true
  | .quit => true
  | _ => false

namespace State

/-- A bound on the ticks that can be taken at the present instant. -/
def ticksLeft (opts : RunOptions) (s : State) : Nat :=
  if s.timer.fires s.due ≤ s.now then (s.now - s.due) / opts.scanInterval.nanos + 1 else 0

/-- A bound on the steps of the loop at the present instant. Each tick can bring the beginning of a
pass, and as many scans as there are groups. -/
def stepsLeft (opts : RunOptions) (s : State) : Nat :=
  let onTicks := s.ticksLeft opts * (opts.nodeGroups.length + 2)
  match s.phase with
  | .waiting => onTicks + 1
  | .ticked => onTicks + (opts.nodeGroups.length + 2)
  | .scanning p => onTicks + (p.rest.length + 2)
  | .stopped => 0

/-- The loop has returned at an instant, and says so once, at the end of its log. -/
def ReturnedAt (s : State) (instant : Nat) : Prop :=
  s.phase = .stopped ∧ ∃ older,
    s.log = (instant, ⟨.info, .controlLoop, "Control loop stopped", []⟩) :: older ∧
    ∀ e ∈ older, e.2.message ≠ "Control loop stopped"

/-- The loop can go on if the scans do: a pass begins at the next tick, and every outcome of a scan
is taken. -/
def GoesOn (opts : RunOptions) (s : State) : Prop :=
  match s.phase with
  | .waiting => ∃ wait s', (∀ l ∈ wait, ∃ nanos, l = .elapse nanos) ∧
      s.run opts (wait ++ [.tick, .begin]) = some s' ∧ s'.now = max s.now (s.timer.fires s.due)
  | .ticked => ∃ s', s.step opts .begin = some s'
  | .scanning _ => ∀ outcome, ∃ s', s.step opts (.scanned outcome) = some s'
  | .stopped => False

end State

/-! ### Time and the signal -/

lemma releases_of_step (h : Step opts s l s') (hr : s.signal.releases = true) :
    s'.signal.releases = true := by
  cases h with
  | close hc ho => simp [StopSignal.close, ho, StopSignal.releases]
  | abandon => simp [StopSignal.dropController, StopSignal.releases]
  | _ => exact hr

/-- Only time that passes changes the time, and it does not pass while the loop is to stop. -/
lemma now_of_step (h : Step opts s l s') (hr : s.signal.releases = true)
    (hp : s.phase ≠ .stopped) : s'.now = s.now := by
  cases h with
  | elapse nanos hm =>
    unfold State.mayReach at hm
    cases hphase : s.phase with
    | stopped => exact absurd hphase hp
    | _ => simp [hphase, hr] at hm
  | _ => rfl

/-- The loop stops only if the signal has released it. -/
lemma running_of_step (h : Step opts s l s') (hr : s'.signal.releases = false)
    (hp : s.phase ≠ .stopped) : s'.phase ≠ .stopped := by
  cases h with
  | quit hr' =>
    rw [State.emit_signal, hr'] at hr
    cases hr
  | elapse | close | closeAgain | abandon => exact hp
  | _ => simp

/-! ### Steps left at an instant -/

lemma nextDue_le {period due taken : Nat} (h : nextDue period due taken ≤ taken) (hp : 0 < period) :
    nextDue period due taken = due + period := by
  unfold nextDue at h ⊢
  split
  · rw [if_pos ‹_›] at h
    omega
  · rfl

/-- A tick that is taken is one less to take. -/
lemma ticksLeft_tick (opts : RunOptions) (hd : s.timer.fires s.due ≤ s.now) :
    State.ticksLeft opts
      { s with phase := .ticked, due := nextDue opts.scanInterval.nanos s.due s.now } + 1 ≤
      s.ticksLeft opts := by
  have hperiod := opts.scanInterval.nanos_pos
  simp only [State.ticksLeft, if_pos hd]
  split
  next hnext =>
    have hle := (s.timer.le_fires _).trans hnext
    -- a next tick that is due by now was not put off, so it is one period on
    have hdue := nextDue_le hle hperiod
    rw [hdue] at hle ⊢
    have hdiv := Nat.div_eq_sub_div hperiod (show opts.scanInterval.nanos ≤ s.now - s.due by omega)
    rw [hdiv, Nat.sub_sub]
  next => exact Nat.succ_le_succ (Nat.zero_le _)

/-- Each step that moves the loop on is one less to take at this instant. -/
lemma stepsLeft_of_step (h : Step opts s l s') (hl : l.movesLoop = true) :
    s'.stepsLeft opts + 1 ≤ s.stepsLeft opts := by
  cases h with
  | elapse | close | closeAgain | abandon => cases hl
  | tick hp hd =>
    have htick := Nat.mul_le_mul_right (opts.nodeGroups.length + 2) (ticksLeft_tick opts hd)
    rw [Nat.add_mul] at htick
    simp only [State.stepsLeft, hp]
    omega
  | beginPass group rest hp hg =>
    have hticks : (s.startScan s.now {} group rest).ticksLeft opts = s.ticksLeft opts := rfl
    have hlength : opts.nodeGroups.length = rest.length + 1 := by simp [hg]
    simp only [State.stepsLeft, hp, hticks, State.startScan_phase]
    omega
  | beginEmpty hp hg =>
    have hticks : (s.endPass s.now {}).ticksLeft opts = s.ticksLeft opts := rfl
    simp only [State.stepsLeft, hp, hticks, State.endPass_phase]
    omega
  | nextScan p o group rest hp hg =>
    have hticks : ((s.takeOutcome opts p.group o).startScan p.begun (p.tally.add o) group
      rest).ticksLeft opts = s.ticksLeft opts := rfl
    simp only [State.stepsLeft, hp, hg, hticks, State.startScan_phase, List.length_cons]
    omega
  | lastScan p o hp hg =>
    have hticks : ((s.takeOutcome opts p.group o).endPass p.begun (p.tally.add o)).ticksLeft opts =
      s.ticksLeft opts := rfl
    simp only [State.stepsLeft, hp, hticks, State.endPass_phase]
    omega
  | quit hr hp =>
    cases hphase : s.phase with
    | stopped => exact absurd hphase hp
    | _ =>
      simp only [State.stepsLeft, hphase, State.emit_phase]
      omega

lemma stepsLeft_of_other (h : Step opts s l s') (hl : l.movesLoop = false)
    (hr : s.signal.releases = true) : s'.stepsLeft opts = s.stepsLeft opts := by
  cases h with
  | elapse nanos hm =>
    cases hphase : s.phase with
    | stopped => simp [State.stepsLeft, hphase]
    | _ => simp [State.mayReach, hphase, hr] at hm
  | close | closeAgain | abandon => rfl
  | _ => cases hl

/-! ### What the log says of the end -/

lemma message_of_outcomeLog {dryMode : Bool} {group : NodeGroup.Spec} {o : Outcome}
    {e : Log.Event} (he : e ∈ outcomeLog dryMode group o) :
    e.message ∈ ["Scan failed, continuing with next node group", "Scanned node group",
      "Node group is below min_nodes", "Node group is above max_nodes"] := by
  cases o with
  | error reason =>
    simp only [outcomeLog, List.mem_singleton] at he
    simp [he]
  | ok snapshot =>
    simp only [outcomeLog, sizeLog, List.mem_cons] at he
    rcases he with rfl | he
    · simp
    · split at he <;> simp_all

lemma message_ne_of_outcomeLog {dryMode : Bool} {group : NodeGroup.Spec} {o : Outcome}
    {e : Log.Event} (he : e ∈ outcomeLog dryMode group o) :
    e.message ≠ "Control loop stopped" ∧ e.message ≠ "Scan cycle complete" := by
  have hmessage := message_of_outcomeLog he
  refine ⟨?_, ?_⟩
  · intro heq
    simp [heq] at hmessage
  · intro heq
    simp [heq] at hmessage

/-- A step other than the last adds events to the log, but not that of the end. -/
lemma log_of_step (h : Step opts s l s') (hp : s'.phase ≠ .stopped) :
    ∃ events, s'.log = events ++ s.log ∧
      ∀ e ∈ events, e.2.message ≠ "Control loop stopped" := by
  cases h with
  | elapse | closeAgain | abandon | tick | beginPass => exact ⟨[], rfl, by simp⟩
  | close =>
    exact ⟨[(s.now, StopSignal.closeLog)], rfl, by simp [StopSignal.closeLog]⟩
  | beginEmpty => exact ⟨[(s.now, State.passLog {})], rfl, by simp [State.passLog]⟩
  | nextScan p o =>
    refine ⟨((outcomeLog opts.dryMode p.group o).map fun e => (s.now, e)).reverse, rfl, ?_⟩
    simp only [List.mem_reverse, List.mem_map]
    rintro _ ⟨e, he, rfl⟩
    exact (message_ne_of_outcomeLog he).1
  | lastScan p o =>
    refine ⟨(s.now, State.passLog (p.tally.add o)) ::
      ((outcomeLog opts.dryMode p.group o).map fun e => (s.now, e)).reverse, rfl, ?_⟩
    simp only [List.mem_cons, List.mem_reverse, List.mem_map]
    rintro _ (rfl | ⟨e, he, rfl⟩)
    · simp [State.passLog]
    · exact (message_ne_of_outcomeLog he).1
  | quit => exact absurd rfl hp

/-- A loop that has stopped does nothing more. -/
structure AtRest (s s' : State) : Prop where
  phase : s'.phase = .stopped
  calls : s'.calls = s.calls
  metrics : s'.metrics = s.metrics
  log : s'.log = s.log
  released : s'.signal.releases = true

lemma atRest_of_step (h : Step opts s l s') (hp : s.phase = .stopped)
    (hr : s.signal.releases = true) : AtRest s s' := by
  have hr' := releases_of_step h hr
  cases h with
  | elapse | closeAgain | abandon => exact ⟨hp, rfl, rfl, rfl, hr'⟩
  | close hc ho => simp [StopSignal.releases, hc, ho] at hr
  | quit _ hp' => exact absurd hp hp'
  | tick hp' | beginPass _ _ hp' | beginEmpty hp' | nextScan _ _ _ _ hp' | lastScan _ _ hp' =>
    rw [hp'] at hp
    cases hp

lemma atRest_of_run (h : s.run opts ls = some s') (hp : s.phase = .stopped)
    (hr : s.signal.releases = true) : AtRest s s' := by
  refine run_induction (P := fun _ s' => AtRest s s') ⟨hp, rfl, rfl, rfl, hr⟩ ?_ h
  intro _ l m m' hm hstep
  have hnext := atRest_of_step hstep hm.phase hm.released
  exact ⟨hnext.phase, hnext.calls.trans hm.calls, hnext.metrics.trans hm.metrics,
    hnext.log.trans hm.log, hnext.released⟩

/-- The signal has released a loop that has stopped, and the log of any other says nothing of an
end. -/
structure EndLawful (s : State) : Prop where
  released : s.phase = .stopped → s.signal.releases = true
  silent : s.phase ≠ .stopped → ∀ e ∈ s.log, e.2.message ≠ "Control loop stopped"

lemma EndLawful.step (hs : EndLawful s) (h : Step opts s l s') : EndLawful s' := by
  by_cases hp : s.phase = .stopped
  · have hrest := atRest_of_step h hp (hs.released hp)
    exact ⟨fun _ => hrest.released, fun hp' => absurd hrest.phase hp'⟩
  · refine ⟨?_, ?_⟩
    · intro hp'
      by_contra hr
      exact running_of_step h (Bool.eq_false_iff.mpr hr) hp hp'
    · intro hp'
      obtain ⟨events, hlog, hevents⟩ := log_of_step h hp'
      rw [hlog]
      exact List.forall_mem_append.mpr ⟨hevents, hs.silent hp⟩

variable {immediately : Bool} {signal : StopSignal} {timer : Timer}

lemma endLawful_of_run (h : (State.start opts immediately signal timer).run opts ls = some s) :
    EndLawful s := by
  refine run_induction (P := fun _ s => EndLawful s) ⟨by simp [State.start], ?_⟩
    (fun _ _ _ _ hs => hs.step) h
  intro _ e he
  simp only [State.start, State.emit_log, List.map_cons, List.map_nil, List.reverse_singleton,
    List.append_nil, List.mem_singleton] at he
  simp [he, State.startLog]

/-- The loop is at an instant at which it is to stop, or it has returned at this instant. -/
inductive Stopping (instant : Nat) (s : State) : Prop
  | running (hr : s.signal.releases = true) (hp : s.phase ≠ .stopped) (hnow : s.now = instant)
    (hsilent : ∀ e ∈ s.log, e.2.message ≠ "Control loop stopped") : Stopping instant s
  | returned (hr : s.signal.releases = true) (h : s.ReturnedAt instant) : Stopping instant s

lemma returnedAt_quit (hsilent : ∀ e ∈ s.log, e.2.message ≠ "Control loop stopped") :
    ({ s with phase := .stopped }.emit [State.stopLog]).ReturnedAt s.now :=
  ⟨rfl, s.log, rfl, hsilent⟩

lemma Stopping.step {instant : Nat} (hs : Stopping instant s) (h : Step opts s l s') :
    Stopping instant s' := by
  cases hs with
  | running hr hp hnow hsilent =>
    by_cases hp' : s'.phase = .stopped
    · cases h with
      | quit => exact .returned hr (hnow ▸ returnedAt_quit hsilent)
      | elapse | close | closeAgain | abandon => exact absurd hp' hp
      | _ => simp at hp'
    · have hnow' := now_of_step h hr hp
      obtain ⟨events, hlog, hevents⟩ := log_of_step h hp'
      refine .running (releases_of_step h hr) hp' (hnow'.trans hnow) ?_
      rw [hlog]
      exact List.forall_mem_append.mpr ⟨hevents, hsilent⟩
  | returned hr hreturned =>
    obtain ⟨hp, older, hlog, hsilent⟩ := hreturned
    have hrest := atRest_of_step h hp hr
    exact .returned hrest.released ⟨hrest.phase, older, hrest.log.trans hlog, hsilent⟩

lemma stopping_of_run {instant : Nat} (hs : Stopping instant s) (h : s.run opts ls = some s') :
    Stopping instant s' :=
  run_induction (P := fun _ s' => Stopping instant s') hs (fun _ _ _ _ hm => hm.step) h

/-- However ties are resolved, the steps of the loop at the instant of its end are bounded. -/
lemma countP_movesLoop_le (hr : s.signal.releases = true) (h : s.run opts ls = some s') :
    ls.countP Label.movesLoop + s'.stepsLeft opts ≤ s.stepsLeft opts := by
  suffices hboth : s'.signal.releases = true ∧
      (s.trace opts ls).countP (fun t => t.label.movesLoop) + s'.stepsLeft opts ≤
        s.stepsLeft opts by
    have hcount := hboth.2
    rwa [← Function.comp_def, ← List.countP_map, map_label_trace h] at hcount
  refine run_induction (P := fun tr s' => s'.signal.releases = true ∧
    tr.countP (fun t => t.label.movesLoop) + s'.stepsLeft opts ≤ s.stepsLeft opts)
    ⟨hr, by simp⟩ ?_ h
  rintro tr l m m' ⟨hm, hle⟩ hstep
  refine ⟨releases_of_step hstep hm, ?_⟩
  rw [List.countP_append, List.countP_singleton]
  cases hl : l.movesLoop with
  | true =>
    have := stepsLeft_of_step hstep hl
    simp only [if_true]
    omega
  | false =>
    have := stepsLeft_of_other hstep hl hm
    simp only [Bool.false_eq_true, if_false]
    omega

lemma now_advance (s : State) (begun : Nat) (tally : Tally) (groups : List NodeGroup.Spec) :
    (s.advance begun tally groups).now = s.now := by
  cases groups <;> rfl

lemma begins_of_due (opts : RunOptions) (hp : s.phase = .waiting)
    (hd : s.timer.fires s.due ≤ s.now) :
    ∃ s', s.run opts [.tick, .begin] = some s' ∧ s'.now = s.now := by
  refine ⟨State.advance { s with
    phase := .ticked, due := nextDue opts.scanInterval.nanos s.due s.now } s.now {} opts.nodeGroups,
    ?_, now_advance _ _ _ _⟩
  simp [State.run, State.step, hp, hd]

lemma goesOn_of_open (hr : s.signal.releases = false) (hp : s.phase ≠ .stopped) :
    s.GoesOn opts := by
  unfold State.GoesOn
  cases hphase : s.phase with
  | stopped => exact absurd hphase hp
  | ticked =>
    refine ⟨s.advance s.now {} opts.nodeGroups, ?_⟩
    simp [State.step, hphase]
  | scanning p =>
    intro o
    refine ⟨(s.takeOutcome opts p.group o).advance p.begun (p.tally.add o) p.rest, ?_⟩
    simp [State.step, hphase]
  | waiting =>
    by_cases hd : s.timer.fires s.due ≤ s.now
    · obtain ⟨s', hrun, hnow⟩ := begins_of_due opts hphase hd
      exact ⟨[], s', by simp, hrun, by omega⟩
    · -- the loop sleeps until the tick is due
      let m : State := { s with now := s.timer.fires s.due }
      have hnanos : s.now + (s.timer.fires s.due - s.now) = s.timer.fires s.due := by omega
      have hsleep : s.step opts (.elapse (s.timer.fires s.due - s.now)) = some m := by
        simp [State.step, State.mayReach, hphase, hr, hnanos, m]
      obtain ⟨s', hrun, hnow⟩ := @begins_of_due m opts hphase le_rfl
      refine ⟨[.elapse (s.timer.fires s.due - s.now)], s', by simp, ?_, ?_⟩
      · rw [List.singleton_append, State.run, hsleep]
        exact hrun
      · rw [hnow]
        simp only [m]
        omega

/-! ### A pass that is dropped -/

/-- What a pass that began in a state has done while it scans a group: the groups before that one
are scanned and measured, those after it are not, and the end of the pass is not reported. -/
structure PassSoFar (opts : RunOptions) (m s : State) (p : Progress)
    (done : List (NodeGroup.Spec × Outcome)) : Prop where
  groups : opts.nodeGroups = done.map Prod.fst ++ p.group :: p.rest
  metrics : s.metrics = m.metrics.addAll (done.map fun d => outcomeRecord opts.dryMode d.1 d.2)
  calls : s.calls.map Prod.snd =
    (done.map (fun d => d.1.name) ++ [p.group.name]).reverse ++ m.calls.map Prod.snd
  log : ∃ events, s.log = events ++ m.log ∧ ∀ e ∈ events, e.2.message ≠ "Scan cycle complete"

lemma PassSoFar.nextScan {p : Progress} {done : List (NodeGroup.Spec × Outcome)}
    (hs : PassSoFar opts m s p done) (o : Outcome) {group : NodeGroup.Spec}
    {rest : List NodeGroup.Spec} (hg : p.rest = group :: rest) :
    PassSoFar opts m ((s.takeOutcome opts p.group o).startScan p.begun (p.tally.add o) group rest)
      ⟨p.begun, p.tally.add o, group, rest⟩ (done ++ [(p.group, o)]) := by
  obtain ⟨hgroups, hmetrics, hcalls, events, hlog, hevents⟩ := hs
  refine ⟨?_, ?_, ?_, ?_⟩
  · simp [hgroups, hg]
  · simp [State.takeOutcome, hmetrics, Metrics.addAll, List.foldl_append]
  · simp [hcalls]
  · refine ⟨((outcomeLog opts.dryMode p.group o).map fun e => (s.now, e)).reverse ++ events, ?_, ?_⟩
    · simp [State.takeOutcome, hlog]
    · refine List.forall_mem_append.mpr ⟨?_, hevents⟩
      simp only [List.mem_reverse, List.mem_map]
      rintro _ ⟨e, he, rfl⟩
      exact (message_ne_of_outcomeLog he).2

lemma passSoFar_of_step {done : List (NodeGroup.Spec × Outcome)}
    (hs : ∀ p, s.phase = .scanning p → PassSoFar opts m s p done) (h : Step opts s l s')
    (hl : l ≠ .begin) (p' : Progress) (hp' : s'.phase = .scanning p') :
    PassSoFar opts m s' p' (done ++ (Transition.scan? ⟨s, l, s'⟩).toList) := by
  cases h with
  | nextScan p o group rest hp hg =>
    have hnext := (hs p hp).nextScan o hg
    cases hp'
    simpa [Transition.scan?, hp] using hnext
  | elapse | closeAgain | abandon =>
    have hpass := hs p' hp'
    simpa [Transition.scan?, hp'] using ⟨hpass.groups, hpass.metrics, hpass.calls, hpass.log⟩
  | close =>
    obtain ⟨hgroups, hmetrics, hcalls, events, hlog, hevents⟩ := hs p' hp'
    have hlog' : ∃ events', (s.now, StopSignal.closeLog) :: s.log = events' ++ m.log ∧
        ∀ e ∈ events', e.2.message ≠ "Scan cycle complete" := by
      refine ⟨(s.now, StopSignal.closeLog) :: events, by rw [hlog]; rfl, ?_⟩
      exact List.forall_mem_cons.mpr ⟨by simp [StopSignal.closeLog], hevents⟩
    simpa [Transition.scan?] using ⟨hgroups, hmetrics, hcalls, hlog'⟩
  | beginPass | beginEmpty => exact absurd rfl hl
  | tick | lastScan | quit => cases hp'

lemma passSoFar_of_run (hm : m.phase = .ticked) (h : m.run opts (.begin :: ls) = some s)
    (hl : ∀ l ∈ ls, l ≠ .begin) {p : Progress} (hp : s.phase = .scanning p) :
    PassSoFar opts m s p (endedScans (m.trace opts (.begin :: ls))) := by
  obtain ⟨b, hb, hrun⟩ := run_cons.mp h
  have htrace : endedScans (m.trace opts (.begin :: ls)) = endedScans (b.trace opts ls) := by
    simp [State.trace, step_eq_some_iff.mpr hb, endedScans, Transition.scan?, hm]
  have hlabels : ∀ t ∈ b.trace opts ls, t.label ≠ .begin := by
    rwa [← map_label_trace hrun, List.forall_mem_map] at hl
  rw [htrace]
  refine run_induction (P := fun tr s => (∀ t ∈ tr, t.label ≠ .begin) →
    ∀ p, s.phase = .scanning p → PassSoFar opts m s p (endedScans tr)) ?_ ?_ hrun hlabels p hp
  · intro _ p hp
    cases hb with
    | beginPass group rest _ hg =>
      cases hp
      exact ⟨by simpa [endedScans] using hg, rfl, rfl, [], rfl, by simp⟩
    | beginEmpty => cases hp
  · intro tr l s s' ih hstep htr p' hp'
    rw [List.forall_mem_append, List.forall_mem_singleton] at htr
    rw [endedScans_concat]
    exact passSoFar_of_step (ih htr.1) hstep htr.2 p' hp'

lemma cycles_addAll_outcomes (dryMode : Bool) (done : List (NodeGroup.Spec × Outcome))
    (m : Metrics) :
    (m.addAll (done.map fun d => outcomeRecord dryMode d.1 d.2)).cycles = m.cycles ∧
      (m.addAll (done.map fun d => outcomeRecord dryMode d.1 d.2)).durations = m.durations := by
  induction done generalizing m with
  | nil => exact ⟨rfl, rfl⟩
  | cons d rest ih =>
    obtain ⟨hcycles, hdurations⟩ := ih (m.add (outcomeRecord dryMode d.1 d.2))
    have hone : (m.add (outcomeRecord dryMode d.1 d.2)).cycles = m.cycles ∧
        (m.add (outcomeRecord dryMode d.1 d.2)).durations = m.durations := by
      cases d.2 <;> exact ⟨rfl, rfl⟩
    exact ⟨hcycles.trans hone.1, hdurations.trans hone.2⟩

lemma PassSoFar.quit {p : Progress} {done : List (NodeGroup.Spec × Outcome)}
    (hs : PassSoFar opts m s p done) (h : Step opts s .quit s') : PassSoFar opts m s' p done := by
  obtain ⟨hgroups, hmetrics, hcalls, events, hlog, hevents⟩ := hs
  cases h with
  | quit =>
    refine ⟨hgroups, hmetrics, hcalls, (s.now, State.stopLog) :: events, by simp [hlog], ?_⟩
    exact List.forall_mem_cons.mpr ⟨by simp [State.stopLog], hevents⟩

/-- Every run, of any groups and scans, whoever wins where two steps are due. While the signal is
open the loop does not return, and it goes on. Once the signal has released it, no time passes until
it has returned, it can quit at any point, it has a bounded number of steps left, and it says once
that it has stopped, as the last thing it says. A pass that it drops has measured the scans that had
ended, is not counted itself, is not reported as complete, and has not scanned the groups after the
one it was scanning; nor does anything happen later. -/
theorem stop_promptness (h : (State.start opts immediately signal timer).run opts ls = some s) :
    (s.signal.releases = false → s.phase ≠ .stopped ∧ s.GoesOn opts) ∧
    (s.signal.releases = true → s.phase ≠ .stopped → ∀ rest s', s.run opts rest = some s' →
      rest.countP Label.movesLoop + s'.stepsLeft opts ≤ s.stepsLeft opts ∧
      (s'.phase ≠ .stopped → s'.now = s.now ∧
        ∃ s'', s'.step opts .quit = some s'' ∧ s''.ReturnedAt s.now) ∧
      (s'.phase = .stopped → s'.ReturnedAt s.now)) ∧
    (∀ rest b p s', s.phase = .ticked → s.run opts (.begin :: rest) = some b →
      (∀ l ∈ rest, l ≠ .begin) → b.phase = .scanning p → b.step opts .quit = some s' →
      PassSoFar opts s s' p (endedScans (s.trace opts (.begin :: rest))) ∧
      s'.metrics.cycles = s.metrics.cycles ∧ s'.metrics.durations = s.metrics.durations ∧
      ∀ later s'', s'.run opts later = some s'' → AtRest s' s'') := by
  have hs := endLawful_of_run h
  refine ⟨?_, ?_, ?_⟩
  · intro hr
    have hp : s.phase ≠ .stopped := fun hp => by simp [hs.released hp] at hr
    exact ⟨hp, goesOn_of_open hr hp⟩
  · intro hr hp rest s' hrun
    have hstopping := stopping_of_run (.running hr hp rfl (hs.silent hp)) hrun
    refine ⟨countP_movesLoop_le hr hrun, ?_, ?_⟩
    · intro hp'
      cases hstopping with
      | returned _ hreturned => exact absurd hreturned.1 hp'
      | running hr' _ hnow hsilent =>
        exact ⟨hnow, _, step_eq_some_iff.mpr (.quit hr' hp'), hnow ▸ returnedAt_quit hsilent⟩
    · intro hp'
      cases hstopping with
      | running _ hp'' => exact absurd hp' hp''
      | returned _ hreturned => exact hreturned
  · intro rest b p s' hp hrun hrest hb hquit
    have hstep := step_of_eq_some hquit
    have hpass := (passSoFar_of_run hp hrun hrest hb).quit hstep
    obtain ⟨hcycles, hdurations⟩ := cycles_addAll_outcomes opts.dryMode
      (endedScans (s.trace opts (.begin :: rest))) s.metrics
    refine ⟨hpass, by rw [hpass.metrics, hcycles], by rw [hpass.metrics, hdurations], ?_⟩
    intro later s'' hlater
    cases hstep with
    | quit hr => exact atRest_of_run hlater rfl hr

/-- Two groups that are scanned once a minute. -/
def twoPools : RunOptions where
  scanInterval := ⟨60000000000, by decide, by decide⟩
  nodeGroups := [{ name := "pool-a" }, { name := "pool-b" }]
  dryMode := false

/-- The scan of the second group hangs, and the signal closes after five seconds. -/
def hungScan : List Label :=
  [.tick, .begin, .elapse 1000000000, .scanned (.ok {}), .elapse 4000000000, .close]

theorem stop_promptness_hungScan : ∃ s s', (State.start twoPools true {}).run twoPools hungScan =
    some s ∧ s.step twoPools .quit = some s' ∧ s'.ReturnedAt 5000000000 := by
  have hrun : (State.start twoPools true {}).run twoPools hungScan =
    some (((State.start twoPools true {}).run twoPools hungScan).get rfl) := rfl
  obtain ⟨-, hstop, -⟩ := stop_promptness hrun
  obtain ⟨-, hrunning, -⟩ := hstop rfl (by decide) [] _ rfl
  obtain ⟨-, s', hquit, hreturned⟩ := hrunning (by decide)
  exact ⟨_, s', hrun, hquit, hreturned⟩

end Autoscaler.ControlLoop
