import Autoscaler.Proofs.LifecycleStep

/-!
# Invariants of a life

What others can see of the coordinator is fixed by the stage it stands at: the state it publishes,
the states that the log announces, readiness, and whether the driver has returned. The stop signal
is fixed by the watcher's task, and the outcome by what the coordinator has done with that task.
Each step keeps all this, whoever takes it.
-/

namespace Autoscaler.Proofs
open Lifecycle

/-- The state that is published at a stage. -/
def publishedAt : Stage → Published
  | .created => .starting
  | .launched => .starting
  | .selecting => .running
  | .returned _ => .stopped
  | _ => .shuttingDown

/-- Whether the driver has returned at a stage. -/
def driverDone : Stage → Bool
  | .created => false
  | .launched => false
  | .selecting => false
  | .draining => false
  | _ => true

/-- The states that are announced up to one, in order. -/
def announcedUpTo : Published → List Published
  | .starting => []
  | .running => [.running]
  | .shuttingDown => [.running, .shuttingDown]
  | .stopped => [.running, .shuttingDown, .stopped]

def announced? (e : Log.Event) : Option Published :=
  [Published.starting, .running, .shuttingDown, .stopped].find? (·.event = e)

/-- The states that a log announces, earliest first. -/
def announcements (log : List Log.Event) : List Published := (log.filterMap announced?).reverse

lemma announced?_event (p : Published) : announced? p.event = some p := by
  cases p <;> rfl

lemma announced?_eq_none {e : Log.Event} (h : e.message ≠ "Lifecycle state changed") :
    announced? e = none := by
  unfold announced?
  rw [List.find?_eq_none]
  rintro p - hp
  rw [decide_eq_true_eq] at hp
  subst hp
  exact h rfl

lemma announcements_event (p : Published) (log : List Log.Event) :
    announcements (p.event :: log) = announcements log ++ [p] := by
  simp [announcements, announced?_event]

lemma announcements_append {events : List Log.Event}
    (h : ∀ e ∈ events, e.message ≠ "Lifecycle state changed") (log : List Log.Event) :
    announcements (events ++ log) = announcements log := by
  have hnone : events.filterMap announced? = [] := by
    rw [List.filterMap_eq_nil_iff]
    exact fun e he => announced?_eq_none (h e he)
  simp [announcements, hnone]

/-- What others see of the coordinator, by its stage. -/
structure Outward (s : State) : Prop where
  published : s.published = publishedAt s.stage
  announced : announcements s.log = announcedUpTo s.published
  ready : s.ready = true ↔ s.published = .running
  returned : s.driverReturned = driverDone s.stage
  released : s.stage = .draining → s.signal.releases = true

/-- Whether a step is the coordinator's own. -/
def byCoordinator : Label → Bool
  | .spawn => true
  | .announce => true
  | .pollDriver => true
  | .seeStop => true
  | .proceed => true
  | .joinWatcher => true
  | .joinServer => true
  | _ => false

/-- The parts of a state that only the coordinator changes. -/
structure SameCoordinator (s s' : State) : Prop where
  stage : s'.stage = s.stage
  published : s'.published = s.published
  announced : announcements s'.log = announcements s.log
  ready : s'.ready = s.ready
  returned : s'.driverReturned = s.driverReturned
  watcherHandle : s'.watcherHandle = s.watcherHandle
  serverHandle : s'.serverHandle = s.serverHandle

lemma announcements_watch (s : State) (t : Termination) :
    announcements (s.watch t).log = announcements s.log := by
  refine announcements_append ?_ s.log
  intro e he
  rcases List.mem_append.mp he with he | he
  · split at he <;> simp_all [StopSignal.closeLog]
  · cases t <;> simp_all [Termination.log]

lemma announcements_serverEnd (s : State) (e : ServerEnd) :
    announcements (e.log ++ s.log) = announcements s.log := by
  refine announcements_append ?_ s.log
  cases e <;> simp [ServerEnd.log]

lemma announcements_serverJoin (s : State) (task : Nat) (e : ServerEnd) :
    announcements (e.joinLog task ++ s.log) = announcements s.log := by
  refine announcements_append ?_ s.log
  cases e <;> simp [ServerEnd.joinLog]

lemma step_frame {s s' : State} {l : Label} (h : Step s l s') (hl : byCoordinator l = false) :
    SameCoordinator s s' := by
  cases h with
  | terminate t => exact ⟨rfl, rfl, announcements_watch s t, rfl, rfl, rfl, rfl⟩
  | serverEnd e => exact ⟨rfl, rfl, announcements_serverEnd s e, rfl, rfl, rfl, rfl⟩
  | watcherFinish | watcherCancel | serverCancel | driverReady =>
    exact ⟨rfl, rfl, rfl, rfl, rfl, rfl, rfl⟩
  | _ => cases hl

lemma closed_of_step {s s' : State} {l : Label} (h : Step s l s')
    (hc : s.signal.closed = true) : s'.signal.closed = true := by
  cases h with
  | terminate t => cases t <;> simp [State.watch, Termination.act, StopSignal.close,
      StopSignal.dropController, hc]
  | _ => exact hc

/-- A signal that has released those who wait for it goes on to do so. -/
lemma releases_of_step {s s' : State} {l : Label} (h : Step s l s')
    (hr : s.signal.releases = true) : s'.signal.releases = true := by
  cases h with
  | terminate t => cases t <;> simp [State.watch, Termination.act, StopSignal.dropController,
      StopSignal.releases]
  | watcherCancel => simp [StopSignal.dropController, StopSignal.releases]
  | _ => exact hr

lemma announcements_noteEarlyReturn (s : State) :
    announcements s.noteEarlyReturn.log = announcements s.log := by
  refine announcements_append ?_ s.log
  split <;> simp [State.earlyReturnLog]

/-- Publishing one more state keeps the announcements in line. -/
lemma announcements_enter {s : State} {p : Published} {log : List Log.Event}
    (ha : announcements log = announcedUpTo s.published)
    (hp : announcedUpTo p = announcedUpTo s.published ++ [p]) :
    announcements (p.event :: log) = announcedUpTo p := by
  rw [announcements_event, ha, hp]

theorem outward_born (n : Nat) : Outward (born n) := by
  refine ⟨rfl, rfl, by simp [born], rfl, ?_⟩
  intro h
  cases h

/-- Each step keeps what others see of the coordinator in line with its stage. -/
theorem Outward.step {s s' : State} {l : Label} (ho : Outward s) (h : Step s l s') :
    Outward s' := by
  cases hl : byCoordinator l with
  | false =>
    have hf := step_frame h hl
    refine ⟨?_, ?_, ?_, ?_, ?_⟩
    · rw [hf.published, hf.stage, ho.published]
    · rw [hf.announced, hf.published, ho.announced]
    · rw [hf.ready, hf.published]
      exact ho.ready
    · rw [hf.returned, hf.stage, ho.returned]
    · intro hd
      rw [hf.stage] at hd
      exact releases_of_step h (ho.released hd)
  | true =>
    have hp := ho.published
    have hd := ho.returned
    cases h with
    | terminate | watcherFinish | watcherCancel | serverEnd | serverCancel | driverReady => cases hl
    | pollPending => exact ho
    | spawn h | judgeClosed h | judgeOpen h | probeFinished h | probeBusy h | turn o h
    | joinWatcher o h =>
      rw [h] at hp hd
      exact ⟨hp, ho.announced, ho.ready, hd, nofun⟩
    | announce h =>
      rw [h] at hp hd
      have ha := announcements_enter (p := .running) ho.announced (by rw [hp]; rfl)
      exact ⟨rfl, ha, by simp [State.enter], hd, nofun⟩
    | returnEarly h =>
      rw [h] at hp
      have ha := announcements_enter (p := .shuttingDown) ho.announced (by rw [hp]; rfl)
      exact ⟨rfl, ha, by simp [State.beginShutdown, State.enter], rfl, nofun⟩
    | seeStop h hr =>
      rw [h] at hp hd
      have ha := announcements_enter (p := .shuttingDown) ho.announced (by rw [hp]; rfl)
      exact ⟨rfl, ha, by simp [State.beginShutdown, State.enter], hd, fun _ => hr⟩
    | returnLate h =>
      rw [h] at hp
      exact ⟨hp, ho.announced, ho.ready, rfl, nofun⟩
    | noteReturn h =>
      rw [h] at hp hd
      have ha := ho.announced
      rw [← announcements_noteEarlyReturn] at ha
      exact ⟨hp, ha, ho.ready, hd, nofun⟩
    | joinEnded o e h =>
      rw [h] at hp hd
      have hr := ho.ready
      have ha := ho.announced
      rw [← announcements_serverJoin s s.serverTask e] at ha
      have ha' := announcements_enter (p := .stopped) ha (by rw [hp]; rfl)
      exact ⟨rfl, ha', by simpa [State.conclude, State.enter, hp, publishedAt] using hr, hd, nofun⟩
    | joinCancelled o h =>
      rw [h] at hp hd
      have hr := ho.ready
      have ha := announcements_enter (p := .stopped) ho.announced (by rw [hp]; rfl)
      exact ⟨rfl, ha, by simpa [State.conclude, State.enter, hp, publishedAt] using hr, hd, nofun⟩

/-- What the wait for a termination has come to. -/
def resolved? : Watcher → Option Termination
  | .ending t => some t
  | .finished t => some t
  | _ => none

def decided? : Stage → Option Outcome
  | .turning o => some o
  | .joiningServer o => some o
  | .returned o => some o
  | _ => none

/-- The stop signal is as the watcher's task has left it. -/
structure SignalLinked (s : State) : Prop where
  controlled : s.signal.controlled = true ↔ s.watcher = .waiting
  closed : s.signal.closed = true ↔ ∃ t, resolved? s.watcher = some t ∧ t ≠ .panicked
  cancelled : s.watcher = .cancelled → s.watcherHandle.aborted = true

theorem signalLinked_born (n : Nat) : SignalLinked (born n) :=
  ⟨by simp [born], by simp [born, resolved?], nofun⟩

lemma signalLinked_watch {s : State} (hl : SignalLinked s) (hw : s.watcher = .waiting)
    (t : Termination) : SignalLinked (s.watch t) := by
  have hopen : s.signal.closed = false := by
    have h := hl.closed
    rw [hw] at h
    simpa [resolved?] using h
  refine ⟨?_, ?_, nofun⟩
  · cases t <;> simp [State.watch, Termination.act, StopSignal.dropController]
  · cases t <;> simp [State.watch, Termination.act, StopSignal.dropController, StopSignal.close,
      resolved?, hopen]

theorem SignalLinked.step {s s' : State} {l : Label} (hl : SignalLinked s) (h : Step s l s') :
    SignalLinked s' := by
  obtain ⟨hcontrolled, hclosed, hcancelled⟩ := hl
  cases h with
  | terminate t h hw => exact signalLinked_watch ⟨hcontrolled, hclosed, hcancelled⟩ hw t
  | watcherFinish t hw =>
    rw [hw] at hcontrolled hclosed
    exact ⟨by simpa using hcontrolled, hclosed, nofun⟩
  | watcherCancel hw ha =>
    rw [hw] at hclosed
    exact ⟨by simp [StopSignal.dropController], hclosed, fun _ => ha⟩
  | probeBusy => exact ⟨hcontrolled, hclosed, fun _ => rfl⟩
  | _ => exact ⟨hcontrolled, hclosed, hcancelled⟩

/-- What the coordinator has done with the tasks, by its stage. -/
structure Handled (s : State) : Prop where
  undecided : decided? s.stage = none → s.watcherHandle = {}
  joining : s.stage = .joiningWatcher → (resolved? s.watcher).isSome = true
  decided : ∀ o, decided? s.stage = some o → s.watcherHandle.aborted = true ∧ o = .ok () ∨
    s.watcherHandle.joined = true ∧ ∃ t, s.watcher = .finished t ∧ o = State.terminationOutcome t
  turned : ∀ o, s.stage = .joiningServer o →
    s.signal.closed = true ∨ s.serverHandle.aborted = true
  server : publishedAt s.stage = .stopped → s.serverHandle.joined = true ∧ s.server ≠ .running

theorem handled_born (n : Nat) : Handled (born n) :=
  ⟨fun _ => rfl, nofun, nofun, nofun, nofun⟩

/-- An outcome is kept where the watcher's task was not joined yet and changes. -/
lemma decided_of_unfinished {s s' : State} (hh : Handled s) (hw : ∀ t, s.watcher ≠ .finished t)
    (hstage : s'.stage = s.stage) (hhandle : s'.watcherHandle = s.watcherHandle) :
    ∀ o, decided? s'.stage = some o → s'.watcherHandle.aborted = true ∧ o = .ok () ∨
      s'.watcherHandle.joined = true ∧ ∃ t, s'.watcher = .finished t ∧
        o = State.terminationOutcome t := by
  intro o ho
  rw [hstage] at ho
  rw [hhandle]
  rcases hh.decided o ho with h | ⟨-, t, ht, -⟩
  · exact .inl h
  · exact absurd ht (hw t)

theorem Handled.step {s s' : State} {l : Label} (hh : Handled s) (hl : SignalLinked s)
    (h : Step s l s') : Handled s' := by
  have hclosed := closed_of_step h
  have hundecided := hh.undecided
  have hdecided := hh.decided
  cases h with
  | terminate t h hw =>
    exact ⟨hundecided, fun _ => rfl, decided_of_unfinished hh (by simp [hw]) rfl rfl,
      fun o ho => (hh.turned o ho).imp_left hclosed, hh.server⟩
  | watcherFinish t hw =>
    exact ⟨hundecided, fun _ => rfl, decided_of_unfinished hh (by simp [hw]) rfl rfl,
      hh.turned, hh.server⟩
  | watcherCancel hw ha =>
    refine ⟨hundecided, ?_, decided_of_unfinished hh (by simp [hw]) rfl rfl, hh.turned, hh.server⟩
    intro hstage
    have hnone : decided? s.stage = none := by rw [hstage]; rfl
    rw [hundecided hnone] at ha
    cases ha
  | serverEnd e h hs | serverCancel hs ha =>
    exact ⟨hundecided, hh.joining, hdecided, hh.turned, fun hp => absurd hs (hh.server hp).2⟩
  | driverReady | pollPending =>
    exact ⟨hundecided, hh.joining, hdecided, hh.turned, hh.server⟩
  | spawn h | announce h | returnEarly h | returnLate h | seeStop h | noteReturn h
  | judgeOpen h =>
    rw [h] at hundecided
    exact ⟨fun _ => hundecided rfl, nofun, nofun, nofun, nofun⟩
  | judgeClosed h hc =>
    rw [h] at hundecided
    obtain ⟨t, ht, -⟩ := hl.closed.mp hc
    exact ⟨fun _ => hundecided rfl, fun _ => by rw [ht]; rfl, nofun, nofun, nofun⟩
  | probeFinished h hw =>
    rw [h] at hundecided
    refine ⟨fun _ => hundecided rfl, fun _ => ?_, nofun, nofun, nofun⟩
    -- a cancelled watcher was aborted, but nothing is aborted at this stage
    have haborted := hl.cancelled
    rw [hundecided rfl] at haborted
    unfold State.watcherOutcome? at hw
    cases hwatcher : s.watcher with
    | waiting => simp [hwatcher] at hw
    | ending t => rfl
    | finished t => rfl
    | cancelled => simp [hwatcher] at haborted
  | probeBusy => exact ⟨nofun, nofun, fun o ho => .inl ⟨rfl, by cases ho; rfl⟩, nofun, nofun⟩
  | turn o h =>
    rw [h] at hdecided
    refine ⟨nofun, nofun, hdecided, ?_, nofun⟩
    rintro o' -
    cases hc : s.signal.closed with
    | true => exact .inl hc
    | false => exact .inr (by simp [State.turnToServer, hc])
  | joinWatcher o h hw =>
    refine ⟨nofun, nofun, ?_, nofun, nofun⟩
    intro o' ho
    cases ho
    have hresolved := hh.joining h
    unfold State.watcherOutcome? at hw
    cases hwatcher : s.watcher with
    | waiting => simp [hwatcher] at hw
    | ending t => simp [hwatcher] at hw
    | finished t =>
      simp only [hwatcher, Option.some.injEq] at hw
      exact .inr ⟨rfl, t, rfl, hw.symm⟩
    | cancelled => simp [hwatcher, resolved?] at hresolved
  | joinEnded o e h hs | joinCancelled o h hs =>
    rw [h] at hdecided
    exact ⟨nofun, nofun, hdecided, nofun, fun _ => ⟨rfl, by simp [State.conclude, State.enter, hs]⟩⟩

structure Lawful (s : State) : Prop where
  outward : Outward s
  linked : SignalLinked s
  handled : Handled s

theorem Lawful.step {s s' : State} {l : Label} (hs : Lawful s) (h : Step s l s') : Lawful s' :=
  ⟨hs.outward.step h, hs.linked.step h, hs.handled.step hs.linked h⟩

/-- Every run keeps the invariants. -/
theorem lawful_of_run {n : Nat} {ls : List Label} {s : State} (h : (born n).run ls = some s) :
    Lawful s := by
  refine run_induction (P := fun _ s => Lawful s) ?_ ?_ h
  · exact ⟨outward_born n, signalLinked_born n, handled_born n⟩
  · intro _ l s s' _ hs hstep
    exact hs.step hstep

end Autoscaler.Proofs
