import Autoscaler.Lifecycle.Machine
import Autoscaler.Proofs.Runs

/-!
# Steps and runs of a life

The transitions of the life of the process as a relation, one rule for each thing that can happen,
and induction over runs. The function that takes steps agrees with the relation.
-/

namespace Autoscaler.Proofs
open Lifecycle

/-- What can happen in a state. -/
inductive Step (s : State) : Label → State → Prop
  | spawn (h : s.stage = .created) : Step s .spawn { s with stage := .launched }
  | announce (h : s.stage = .launched) :
    Step s .announce { s.enter .running with ready := true, stage := .selecting }
  | terminate (t : Termination) (h : s.stage ≠ .created) (hw : s.watcher = .waiting) :
    Step s (.terminate t) (s.watch t)
  | watcherFinish (t : Termination) (hw : s.watcher = .ending t) :
    Step s .watcherFinish { s with watcher := .finished t }
  | watcherCancel (hw : s.watcher = .waiting) (ha : s.watcherHandle.aborted = true) :
    Step s .watcherCancel { s with watcher := .cancelled, signal := s.signal.dropController }
  | serverEnd (e : ServerEnd) (h : s.stage ≠ .created) (hs : s.server = .running) :
    Step s (.serverEnd e) { s with server := .ended e, log := e.log ++ s.log }
  | serverCancel (hs : s.server = .running) (ha : s.serverHandle.aborted = true) :
    Step s .serverCancel { s with server := .cancelled }
  | driverReady : Step s .driverReady { s with driverReady := true }
  | pollPending (h : s.stage = .selecting ∨ s.stage = .draining) (hd : s.driverReady = false) :
    Step s .pollDriver s
  | returnEarly (h : s.stage = .selecting) (hd : s.driverReady = true) :
    Step s .pollDriver { s.beginShutdown with driverReturned := true, stage := .returnedEarly }
  | returnLate (h : s.stage = .draining) (hd : s.driverReady = true) :
    Step s .pollDriver { s with driverReturned := true, stage := .judging }
  | seeStop (h : s.stage = .selecting) (hr : s.signal.releases = true) :
    Step s .seeStop { s.beginShutdown with stage := .draining }
  | noteReturn (h : s.stage = .returnedEarly) :
    Step s .proceed s.noteEarlyReturn
  | judgeClosed (h : s.stage = .judging) (hc : s.signal.closed = true) :
    Step s .proceed { s with stage := .joiningWatcher }
  | judgeOpen (h : s.stage = .judging) (hc : s.signal.closed = false) :
    Step s .proceed { s with stage := .probing }
  | probeFinished (h : s.stage = .probing) (hw : s.watcherOutcome?.isSome = true) :
    Step s .proceed { s with stage := .joiningWatcher }
  | probeBusy (h : s.stage = .probing) (hw : s.watcherOutcome? = none) :
    Step s .proceed s.abortWatcher
  | turn (o : Outcome) (h : s.stage = .turning o) :
    Step s .proceed (s.turnToServer o)
  | joinWatcher (o : Outcome) (h : s.stage = .joiningWatcher) (hw : s.watcherOutcome? = some o) :
    Step s .joinWatcher
      { s with stage := .turning o, watcherHandle := { s.watcherHandle with joined := true } }
  | joinEnded (o : Outcome) (e : ServerEnd) (h : s.stage = .joiningServer o)
    (hs : s.server = .ended e) :
    Step s .joinServer ({ s with log := e.joinLog s.serverTask ++ s.log }.conclude o)
  | joinCancelled (o : Outcome) (h : s.stage = .joiningServer o) (hs : s.server = .cancelled) :
    Step s .joinServer (s.conclude o)

lemma step_of_proceed {s s' : State} (h : s.proceed? = some s') : Step s .proceed s' := by
  unfold State.proceed? at h
  split at h
  next hstage => cases h; exact .noteReturn hstage
  next hstage =>
    cases h
    cases hc : s.signal.closed with
    | true => exact .judgeClosed hstage hc
    | false => exact .judgeOpen hstage hc
  next hstage =>
    split at h
    next hw => cases h; exact .probeFinished hstage hw
    next hw => cases h; exact .probeBusy hstage (by simpa using hw)
  next o hstage => cases h; exact .turn o hstage
  next => cases h

lemma step_of_pollDriver {s s' : State} (h : s.pollDriver? = some s') : Step s .pollDriver s' := by
  unfold State.pollDriver? at h
  split at h
  next hstage =>
    split at h
    next hd => cases h; exact .returnEarly hstage hd
    next hd => cases h; exact .pollPending (.inl hstage) (by simpa using hd)
  next hstage =>
    split at h
    next hd => cases h; exact .returnLate hstage hd
    next hd => cases h; exact .pollPending (.inr hstage) (by simpa using hd)
  next => cases h

theorem step_of_eq_some {s s' : State} {l : Label} (h : s.step l = some s') : Step s l s' := by
  cases l with
  | spawn =>
    simp only [State.step] at h
    split at h
    next hstage => cases h; exact .spawn hstage
    next => cases h
  | announce =>
    simp only [State.step] at h
    split at h
    next hstage => cases h; exact .announce hstage
    next => cases h
  | terminate t =>
    simp only [State.step] at h
    split at h
    next => cases h
    next hw hne => cases h; exact .terminate t hne hw
    next => cases h
  | watcherFinish =>
    simp only [State.step] at h
    split at h
    next t hw => cases h; exact .watcherFinish t hw
    next => cases h
  | watcherCancel =>
    simp only [State.step] at h
    split at h
    next hw =>
      split at h
      next ha => cases h; exact .watcherCancel hw ha
      next => cases h
    next => cases h
  | serverEnd e =>
    simp only [State.step] at h
    split at h
    next => cases h
    next hs hne => cases h; exact .serverEnd e hne hs
    next => cases h
  | serverCancel =>
    simp only [State.step] at h
    split at h
    next hs =>
      split at h
      next ha => cases h; exact .serverCancel hs ha
      next => cases h
    next => cases h
  | driverReady => cases h; exact .driverReady
  | pollDriver => exact step_of_pollDriver h
  | seeStop =>
    simp only [State.step] at h
    split at h
    next hstage =>
      split at h
      next hr => cases h; exact .seeStop hstage hr
      next => cases h
    next => cases h
  | proceed => exact step_of_proceed h
  | joinWatcher =>
    simp only [State.step] at h
    split at h
    next hstage =>
      obtain ⟨o, hw, rfl⟩ := Option.map_eq_some_iff.mp h
      exact .joinWatcher o hstage hw
    next => cases h
  | joinServer =>
    simp only [State.step] at h
    split at h
    next o e hstage hs => cases h; exact .joinEnded o e hstage hs
    next o hstage hs => cases h; exact .joinCancelled o hstage hs
    next => cases h

/-- The rules say exactly what the machine does. -/
theorem step_eq_some_iff {s s' : State} {l : Label} : s.step l = some s' ↔ Step s l s' := by
  refine ⟨step_of_eq_some, ?_⟩
  intro h
  cases h with
  | pollPending h hd => rcases h with h | h <;> simp [State.step, State.pollDriver?, h, hd]
  | terminate t h hw =>
    simp only [State.step, hw]
  | _ => simp_all [State.step, State.pollDriver?, State.proceed?]

/-- A life before its first step, in a process that has started some tasks already. -/
def born (earlierTasks : Nat) : State := { earlierTasks }

lemma run_eq_foldlM (s : State) (ls : List Label) : s.run ls = ls.foldlM State.step s := by
  induction ls generalizing s with
  | nil => rfl
  | cons l rest ih =>
    simp only [State.run, ih, List.foldlM_cons]
    rfl

lemma run_append (s : State) (ls ls' : List Label) :
    s.run (ls ++ ls') = (s.run ls).bind fun m => m.run ls' := by
  simp only [run_eq_foldlM]
  exact List.foldlM_append

lemma run_concat {s s' : State} {ls : List Label} {l : Label} :
    s.run (ls ++ [l]) = some s' ↔ ∃ m, s.run ls = some m ∧ Step m l s' := by
  simp only [run_eq_foldlM, Runs.foldlM_concat, step_eq_some_iff]

lemma run_of_prefix {s s' : State} {pre ls : List Label} (hpre : pre <+: ls)
    (h : s.run ls = some s') : ∃ m post, ls = pre ++ post ∧ s.run pre = some m ∧
      m.run post = some s' := by
  obtain ⟨post, rfl⟩ := hpre
  rw [run_append, Option.bind_eq_some_iff] at h
  obtain ⟨m, hm, hpost⟩ := h
  exact ⟨m, post, rfl, hm, hpost⟩

/-- What holds at the start and is kept by each step holds after each run. -/
theorem run_induction {s₀ : State} {P : List Label → State → Prop} (hinit : P [] s₀)
    (hstep : ∀ ls l s s', s₀.run ls = some s → P ls s → Step s l s' → P (ls ++ [l]) s')
    {ls : List Label} {s : State} (h : s₀.run ls = some s) : P ls s := by
  simp only [run_eq_foldlM] at h hstep
  exact Runs.foldlM_induction hinit
    (fun ls l s s' hs ih hl => hstep ls l s s' hs ih (step_of_eq_some hl)) h

end Autoscaler.Proofs
