import Autoscaler.Proofs.LifecycleInvariant

/-!
# The order of a life

In every run the states are published in one order, each at most once. The shutdown begins only
when there is a reason to, and the life ends only when the driver and both tasks are through.
-/

namespace Autoscaler.Proofs
open Lifecycle

/-- The state that is published after another one. -/
inductive Follows : Published → Published → Prop
  | running : Follows .starting .running
  | shuttingDown : Follows .running .shuttingDown
  | stopped : Follows .shuttingDown .stopped

lemma announcedUpTo_prefix {p q : Published} (h : Follows p q) :
    announcedUpTo p <+: announcedUpTo q := by
  cases h <;> simp [announcedUpTo]

/-- A step publishes nothing new or the next state. -/
lemma published_of_step {s s' : State} {l : Label} (ho : Outward s) (h : Step s l s') :
    s'.published = s.published ∨ Follows s.published s'.published := by
  have hp := ho.published
  cases h with
  | announce h =>
    rw [hp, h]
    exact .inr .running
  | returnEarly h | seeStop h =>
    rw [hp, h]
    exact .inr .shuttingDown
  | joinEnded o e h | joinCancelled o h =>
    rw [hp, h]
    exact .inr .stopped
  | _ => exact .inl rfl

/-- What is announced stays announced. -/
lemma announcements_mono {s s' : State} {ls : List Label} (ho : Outward s)
    (h : s.run ls = some s') : announcements s.log <+: announcements s'.log := by
  suffices hboth : Outward s' ∧ announcements s.log <+: announcements s'.log from hboth.2
  refine run_induction (P := fun _ s' => Outward s' ∧ announcements s.log <+: announcements s'.log)
    ⟨ho, List.prefix_rfl⟩ ?_ h
  rintro _ l m m' _ ⟨hm, hpre⟩ hstep
  have hm' := hm.step hstep
  refine ⟨hm', hpre.trans ?_⟩
  rw [hm.announced, hm'.announced]
  rcases published_of_step hm hstep with heq | hnext
  · simp [heq]
  · exact announcedUpTo_prefix hnext

/-- The shutdown has a reason: the driver has returned, or the stop signal has released those who
wait for it. -/
lemma shutdown_has_reason {s : State} (ho : Outward s)
    (hp : s.published = .shuttingDown ∨ s.published = .stopped) :
    s.driverReturned = true ∨ s.signal.closed = true ∨ s.signal.controlled = false := by
  rw [ho.published] at hp
  cases hstage : s.stage with
  | created | launched | selecting => simp [hstage, publishedAt] at hp
  | draining =>
    have hreleased := ho.released hstage
    simp only [StopSignal.releases, Bool.or_eq_true, Bool.not_eq_true'] at hreleased
    exact .inr hreleased
  | _ => exact .inl (by rw [ho.returned, hstage]; rfl)

lemma stage_of_stopped {s : State} (ho : Outward s) (hp : s.published = .stopped) :
    ∃ o, s.stage = .returned o := by
  rw [ho.published] at hp
  cases hstage : s.stage with
  | returned o => exact ⟨o, rfl⟩
  | _ => simp [hstage, publishedAt] at hp

/-- The end of a life: the driver has returned, and both tasks are settled. -/
lemma settled_of_returned {s : State} (hs : Lawful s) {o : Outcome} (hstage : s.stage = .returned o) :
    s.driverReturned = true ∧
      (s.watcherHandle.joined = true ∨ s.watcherHandle.aborted = true) ∧
      s.serverHandle.joined = true ∧ s.server ≠ .running := by
  have hdone : s.driverReturned = true := by rw [hs.outward.returned, hstage]; rfl
  have hserver := hs.handled.server (by rw [hstage]; rfl)
  have hdecided := hs.handled.decided o (by rw [hstage]; rfl)
  refine ⟨hdone, ?_, hserver⟩
  rcases hdecided with ⟨h, -⟩ | ⟨h, -⟩
  · exact .inr h
  · exact .inl h

lemma pollDriver_eq_none {s : State} (ho : Outward s) (hd : s.driverReturned = true) :
    s.step .pollDriver = none := by
  rw [ho.returned] at hd
  cases hstage : s.stage with
  | selecting | draining => simp [hstage, driverDone] at hd
  | _ => simp [State.step, State.pollDriver?, hstage]

/-- Every run, whatever ends when and whoever goes first. The log announces the states in their
order, each at most once, and no later step takes an announcement back or skips a state. The
shutdown has a reason, and the life ends exactly when the last state is published, after the driver
has returned, the watcher was joined or aborted and the server was joined. Readiness is up exactly
while the running state is published, and none but the coordinator touches either. -/
theorem lifecycle_order {n : Nat} {ls : List Label} {s : State} (h : (born n).run ls = some s) :
    announcements s.log = announcedUpTo s.published ∧
    (∀ pre m, pre <+: ls → (born n).run pre = some m →
      announcements m.log <+: announcements s.log) ∧
    (∀ l s', s.step l = some s' →
      s'.published = s.published ∨ Follows s.published s'.published) ∧
    (s.published = .shuttingDown ∨ s.published = .stopped →
      s.driverReturned = true ∨ s.signal.closed = true ∨ s.signal.controlled = false) ∧
    (s.published = .stopped ↔ ∃ o, s.stage = .returned o) ∧
    (s.published = .stopped → s.driverReturned = true ∧
      (s.watcherHandle.joined = true ∨ s.watcherHandle.aborted = true) ∧
      s.serverHandle.joined = true ∧ s.server ≠ .running) ∧
    (s.driverReturned = true → s.step .pollDriver = none) ∧
    (s.ready = true ↔ s.published = .running) ∧ (born n).ready = false ∧
    (∀ l s', byCoordinator l = false → s.step l = some s' →
      s'.ready = s.ready ∧ s'.published = s.published) := by
  have hs := lawful_of_run h
  have ho := hs.outward
  refine ⟨ho.announced, ?_, ?_, shutdown_has_reason ho, ⟨stage_of_stopped ho, ?_⟩, ?_,
    pollDriver_eq_none ho, ho.ready, rfl, ?_⟩
  · intro pre m hpre hm
    obtain ⟨m', post, -, hm', hpost⟩ := run_of_prefix hpre h
    obtain rfl : m = m' := by simpa [hm] using hm'
    exact announcements_mono (lawful_of_run hm).outward hpost
  · intro l s' hstep
    exact published_of_step ho (step_of_eq_some hstep)
  · rintro ⟨o, hstage⟩
    rw [ho.published, hstage]
    rfl
  · intro hp
    obtain ⟨o, hstage⟩ := stage_of_stopped ho hp
    exact settled_of_returned hs hstage
  · intro l s' hl hstep
    have hf := step_frame (step_of_eq_some hstep) hl
    exact ⟨hf.ready, hf.published⟩

/-- A life in which the stop signal is seen while the driver still works, and all end in order. -/
def orderlyLife : List Label := [
  .spawn, .announce, .terminate (.signal "SIGTERM"), .seeStop, .watcherFinish, .driverReady,
  .pollDriver, .proceed, .joinWatcher, .proceed, .serverEnd .finished, .joinServer]

theorem lifecycle_order_orderlyLife : ∃ s, (born 0).run orderlyLife = some s ∧
    announcements s.log = [.running, .shuttingDown, .stopped] ∧ s.driverReturned = true ∧
    s.serverHandle.joined = true := by
  have hrun : (born 0).run orderlyLife = some (((born 0).run orderlyLife).get rfl) := rfl
  have h := lifecycle_order hrun
  have hstopped : (((born 0).run orderlyLife).get rfl).published = .stopped := rfl
  have hsettled := h.2.2.2.2.2.1 hstopped
  refine ⟨_, hrun, ?_, hsettled.1, hsettled.2.2.1⟩
  rw [h.1, hstopped]
  rfl

end Autoscaler.Proofs
