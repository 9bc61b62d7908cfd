import Autoscaler.Proofs.LifecycleInvariant
import Mathlib.Data.List.Infix

/-!
# The outcome of a life

A life fails only with the very error that the wait for a termination ended with. Once the driver
has returned, no termination is waited for: the coordinator joins the watcher only after its wait
has ended, and lets go of it otherwise.
-/

namespace Autoscaler.Proofs
open Lifecycle

lemma resolved?_of_step {s s' : State} {l : Label} (h : Step s l s')
    (hl : ∀ t, l ≠ .terminate t) : resolved? s'.watcher = resolved? s.watcher := by
  cases h with
  | terminate t => exact absurd rfl (hl t)
  | watcherFinish t hw => rw [hw]; rfl
  | watcherCancel hw => rw [hw]; rfl
  | _ => rfl

/-- A wait that has ended has ended before, or ends with the step. -/
lemma resolved?_iff_of_step {s s' : State} {l : Label} (h : Step s l s') (t : Termination) :
    resolved? s.watcher = some t ∨ .terminate t = l ↔ resolved? s'.watcher = some t := by
  by_cases hl : ∃ t', l = .terminate t'
  · obtain ⟨t', rfl⟩ := hl
    cases h with
    | terminate t' hstage hw =>
      have hbefore : resolved? s.watcher = none := by rw [hw]; rfl
      have hafter : resolved? (s.watch t').watcher = some t' := rfl
      rw [hbefore, hafter]
      simpa using eq_comm
  · rw [resolved?_of_step h (fun t' ht' => hl ⟨t', ht'⟩)]
    simp only [or_iff_left_iff_imp]
    intro ht
    exact absurd ⟨t, ht.symm⟩ hl

/-- The watcher's task knows how its wait has ended, if it has. -/
lemma terminate_mem_iff {n : Nat} {ls : List Label} {s : State} (h : (born n).run ls = some s) :
    ∀ t, .terminate t ∈ ls ↔ resolved? s.watcher = some t := by
  refine run_induction (P := fun ls s => ∀ t, .terminate t ∈ ls ↔ resolved? s.watcher = some t) ?_ ?_ h
  · simp [born, resolved?]
  · intro ls l s s' _ ih hstep t
    rw [List.mem_append, List.mem_singleton, ih t]
    exact resolved?_iff_of_step hstep t

lemma decided?_of_step {s s' : State} {l : Label} {o : Outcome} (h : Step s l s')
    (ho : decided? s.stage = some o) : decided? s'.stage = some o := by
  cases hl : byCoordinator l with
  | false => rw [(step_frame h hl).stage, ho]
  | true =>
    cases h with
    | terminate | watcherFinish | watcherCancel | serverEnd | serverCancel | driverReady => cases hl
    | pollPending => exact ho
    | turn o' hstage | joinEnded o' e hstage | joinCancelled o' hstage =>
      rw [hstage] at ho
      exact ho
    | spawn h | announce h | returnEarly h | returnLate h | seeStop h | noteReturn h
    | judgeClosed h | judgeOpen h | probeFinished h | probeBusy h | joinWatcher o' h =>
      rw [h] at ho
      cases ho

lemma returned_of_decided {s s' : State} {rest : List Label} {o o' : Outcome}
    (ho : decided? s.stage = some o) (h : s.run rest = some s') (hstage : s'.stage = .returned o') :
    o' = o := by
  have hkept : decided? s'.stage = some o := by
    refine run_induction (P := fun _ s' => decided? s'.stage = some o) ho ?_ h
    intro _ l m m' _ hm hstep
    exact decided?_of_step hstep hm
  rw [hstage] at hkept
  exact Option.some.inj hkept

/-- The driver does not return before the stop signal closes, whatever else goes on. -/
def DriverHeeds (n : Nat) (ls : List Label) : Prop :=
  ∀ pre, pre <+: ls → ∀ m ∈ (born n).run pre, m.driverReturned = true → m.signal.closed = true

instance (n : Nat) (ls : List Label) : Decidable (DriverHeeds n ls) :=
  decidable_of_iff (∀ pre ∈ ls.inits, ∀ m ∈ (born n).run pre,
    m.driverReturned = true → m.signal.closed = true) (by simp only [DriverHeeds, List.mem_inits])

/-- Where the driver has not returned before the signal closed, no step lets go of the watcher. -/
lemma notAborted_of_step {s s' : State} {l : Label} (hs : Lawful s) (h : Step s l s')
    (hd : s.driverReturned = true → s.signal.closed = true)
    (ha : s.watcherHandle.aborted = false) (hprobing : s.stage ≠ .probing) :
    s'.watcherHandle.aborted = false ∧ s'.stage ≠ .probing := by
  cases hl : byCoordinator l with
  | false =>
    have hf := step_frame h hl
    rw [hf.watcherHandle, hf.stage]
    exact ⟨ha, hprobing⟩
  | true =>
    cases h with
    | judgeOpen hstage hopen =>
      have hreturned := hs.outward.returned
      rw [hstage] at hreturned
      have hclosed := hd hreturned
      rw [hopen] at hclosed
      cases hclosed
    | probeFinished hstage | probeBusy hstage => exact absurd hstage hprobing
    | pollPending => exact ⟨ha, hprobing⟩
    | terminate | watcherFinish | watcherCancel | serverEnd | serverCancel | driverReady => cases hl
    | _ => exact ⟨ha, nofun⟩

/-- The watcher is never let go of if the driver heeds the signal. -/
lemma notAborted_of_driverHeeds {n : Nat} {ls : List Label} {s : State}
    (h : (born n).run ls = some s) (hd : DriverHeeds n ls) :
    s.watcherHandle.aborted = false ∧ s.stage ≠ .probing := by
  refine run_induction (P := fun ls s => DriverHeeds n ls →
    s.watcherHandle.aborted = false ∧ s.stage ≠ .probing) ?_ ?_ h hd
  · intro _
    exact ⟨rfl, nofun⟩
  · intro ls l s s' hrun ih hstep hd
    have hbefore : DriverHeeds n ls := fun pre hpre => hd pre (hpre.trans (List.prefix_append ls [l]))
    obtain ⟨haborted, hprobing⟩ := ih hbefore
    exact notAborted_of_step (lawful_of_run hrun) hstep (hbefore ls List.prefix_rfl s hrun)
      haborted hprobing

/-- Whether a step comes without a termination. The server ends by itself once the signal is
closed. -/
def comesByItself (closed : Bool) : Label → Bool
  | .terminate _ => false
  | .serverEnd _ => closed
  | _ => true

/-- The coordinator can return from a state, and no termination is needed for it. -/
def CanReturn (s : State) : Prop :=
  ∃ rest s' o, (∀ l ∈ rest, comesByItself s.signal.closed l = true) ∧
    s.run rest = some s' ∧ s'.stage = .returned o

lemma canReturn_of_returned {s : State} {o : Outcome} (h : s.stage = .returned o) : CanReturn s :=
  ⟨[], s, o, by simp, rfl, h⟩

lemma canReturn_of_step {s m : State} {l : Label} (h : Step s l m)
    (hl : comesByItself s.signal.closed l = true) (hsignal : m.signal.closed = s.signal.closed)
    (hm : CanReturn m) : CanReturn s := by
  obtain ⟨rest, s', o, hrest, hrun, hstage⟩ := hm
  rw [hsignal] at hrest
  refine ⟨l :: rest, s', o, List.forall_mem_cons.mpr ⟨hl, hrest⟩, ?_, hstage⟩
  rw [State.run, step_eq_some_iff.mpr h]
  exact hrun

lemma canReturn_of_serverDone {s : State} {o : Outcome} (h : s.stage = .joiningServer o)
    (hs : s.server ≠ .running) : CanReturn s := by
  cases hserver : s.server with
  | running => exact absurd hserver hs
  | cancelled =>
    exact canReturn_of_step (.joinCancelled o h hserver) rfl rfl
      (canReturn_of_returned rfl)
  | ended e =>
    exact canReturn_of_step (.joinEnded o e h hserver) rfl rfl
      (canReturn_of_returned rfl)

lemma canReturn_of_joiningServer {s : State} {o : Outcome} (h : s.stage = .joiningServer o)
    (hturned : s.signal.closed = true ∨ s.serverHandle.aborted = true) : CanReturn s := by
  by_cases hs : s.server = .running
  · rcases hturned with hclosed | haborted
    · -- a server that waits for the signal ends by itself
      exact canReturn_of_step (.serverEnd .finished (by simp [h]) hs) hclosed rfl
        (canReturn_of_serverDone h (by simp))
    · exact canReturn_of_step (.serverCancel hs haborted) rfl rfl
        (canReturn_of_serverDone h (by simp))
  · exact canReturn_of_serverDone h hs

lemma canReturn_of_turning {s : State} (hs : Lawful s) {o : Outcome} (h : s.stage = .turning o) :
    CanReturn s := by
  have hstep : Step s .proceed (s.turnToServer o) := .turn o h
  have hturned := (hs.step hstep).handled.turned o rfl
  exact canReturn_of_step hstep rfl rfl (canReturn_of_joiningServer rfl hturned)

lemma canReturn_of_watcherDone {s : State} (hs : Lawful s) (h : s.stage = .joiningWatcher)
    {o : Outcome} (hw : s.watcherOutcome? = some o) : CanReturn s := by
  have hstep := Step.joinWatcher o h hw
  exact canReturn_of_step hstep rfl rfl (canReturn_of_turning (hs.step hstep) rfl)

lemma canReturn_of_joiningWatcher {s : State} (hs : Lawful s) (h : s.stage = .joiningWatcher) :
    CanReturn s := by
  have hresolved := hs.handled.joining h
  cases hw : s.watcher with
  | waiting | cancelled => simp [hw, resolved?] at hresolved
  | ending t =>
    have hstep := Step.watcherFinish t hw
    exact canReturn_of_step hstep rfl rfl
      (canReturn_of_watcherDone (hs.step hstep) h rfl)
  | finished t => exact canReturn_of_watcherDone hs h (by rw [State.watcherOutcome?, hw])

lemma canReturn_of_probing {s : State} (hs : Lawful s) (h : s.stage = .probing) : CanReturn s := by
  cases hw : s.watcherOutcome? with
  | none =>
    have hstep := Step.probeBusy h hw
    exact canReturn_of_step hstep rfl rfl
      (canReturn_of_turning (hs.step hstep) rfl)
  | some o =>
    have hstep := Step.probeFinished h (by rw [hw]; rfl)
    exact canReturn_of_step hstep rfl rfl
      (canReturn_of_joiningWatcher (hs.step hstep) rfl)

lemma canReturn_of_judging {s : State} (hs : Lawful s) (h : s.stage = .judging) : CanReturn s := by
  cases hc : s.signal.closed with
  | true =>
    have hstep := Step.judgeClosed h hc
    exact canReturn_of_step hstep rfl rfl
      (canReturn_of_joiningWatcher (hs.step hstep) rfl)
  | false =>
    have hstep := Step.judgeOpen h hc
    exact canReturn_of_step hstep rfl rfl
      (canReturn_of_probing (hs.step hstep) rfl)

/-- After the driver's return the coordinator is never stuck. -/
theorem canReturn_of_driverReturned {s : State} (hs : Lawful s) (hd : s.driverReturned = true) :
    CanReturn s := by
  rw [hs.outward.returned] at hd
  cases h : s.stage with
  | created | launched | selecting | draining => simp [h, driverDone] at hd
  | returnedEarly =>
    have hstep := Step.noteReturn h
    exact canReturn_of_step hstep rfl rfl
      (canReturn_of_judging (hs.step hstep) rfl)
  | judging => exact canReturn_of_judging hs h
  | probing => exact canReturn_of_probing hs h
  | joiningWatcher => exact canReturn_of_joiningWatcher hs h
  | turning o => exact canReturn_of_turning hs h
  | joiningServer o => exact canReturn_of_joiningServer h (hs.handled.turned o h)
  | returned o => exact canReturn_of_returned h

/-- What the coordinator can still wait for after the driver's return: a watcher that has done its
last act, and a server that has been told to stop. -/
lemma waits_of_driverReturned {s : State} (hs : Lawful s) (hd : s.driverReturned = true)
    (hw : ∀ l, byCoordinator l = true → s.step l = none) :
    (∃ o, s.stage = .returned o) ∨ (∃ t, s.watcher = .ending t) ∨
      s.server = .running ∧ (s.signal.closed = true ∨ s.serverHandle.aborted = true) := by
  have hproceed := hw .proceed rfl
  rw [hs.outward.returned] at hd
  cases h : s.stage with
  | created | launched | selecting | draining => simp [h, driverDone] at hd
  | returnedEarly | judging | turning o => simp [State.step, State.proceed?, h] at hproceed
  | probing =>
    simp only [State.step, State.proceed?, h] at hproceed
    split at hproceed <;> cases hproceed
  | joiningWatcher =>
    have hresolved := hs.handled.joining h
    have hjoin := hw .joinWatcher rfl
    cases hwatcher : s.watcher with
    | waiting | cancelled => simp [hwatcher, resolved?] at hresolved
    | ending t => exact .inr (.inl ⟨t, rfl⟩)
    | finished t => simp [State.step, h, State.watcherOutcome?, hwatcher] at hjoin
  | joiningServer o =>
    have hjoin := hw .joinServer rfl
    cases hserver : s.server with
    | running => exact .inr (.inr ⟨rfl, hs.handled.turned o h⟩)
    | cancelled | ended e => simp [State.step, h, hserver] at hjoin
  | returned o => exact .inl ⟨o, rfl⟩

/-- What a life returns is fine where it lets go of the watcher, and is up to the termination
otherwise. -/
lemma outcome_of_returned {s : State} (hs : Lawful s) {o : Outcome} (h : s.stage = .returned o) :
    s.watcherHandle.aborted = true ∧ o = .ok () ∨
      ∃ t, resolved? s.watcher = some t ∧ o = State.terminationOutcome t := by
  rcases hs.handled.decided o (by rw [h]; rfl) with hok | ⟨-, t, ht, ho⟩
  · exact .inl hok
  · exact .inr ⟨t, by rw [ht]; rfl, ho⟩

lemma error_of_returned {n : Nat} {ls : List Label} {s : State} (h : (born n).run ls = some s)
    (hp : Label.terminate .panicked ∉ ls) {e : LifecycleError}
    (hstage : s.stage = .returned (.error e)) :
    ∃ reason, e = .signalRegistration reason ∧ .terminate (.failed reason) ∈ ls := by
  rcases outcome_of_returned (lawful_of_run h) hstage with ⟨-, hok⟩ | ⟨t, ht, ho⟩
  · cases hok
  · have hmem := (terminate_mem_iff h t).mpr ht
    cases t with
    | signal name => cases ho
    | failed reason =>
      cases ho
      exact ⟨reason, rfl, hmem⟩
    | panicked => exact absurd hmem hp

/-- If the driver heeds the signal, then the termination alone decides the outcome. -/
lemma returned_of_driverHeeds {n : Nat} {ls : List Label} {s : State} (h : (born n).run ls = some s)
    (hd : DriverHeeds n ls) {o : Outcome} (hstage : s.stage = .returned o) :
    ∃ t, (∀ t', .terminate t' ∈ ls ↔ t = t') ∧ o = State.terminationOutcome t := by
  have haborted := (notAborted_of_driverHeeds h hd).1
  rcases outcome_of_returned (lawful_of_run h) hstage with ⟨h', -⟩ | ⟨t, ht, ho⟩
  · rw [haborted] at h'
    cases h'
  · refine ⟨t, ?_, ho⟩
    intro t'
    rw [terminate_mem_iff h t', ht, Option.some.injEq]

lemma outcome_iff_of_driverHeeds {n : Nat} {ls : List Label} {s : State}
    (h : (born n).run ls = some s) (hp : Label.terminate .panicked ∉ ls) (hd : DriverHeeds n ls)
    {o : Outcome} (hstage : s.stage = .returned o) :
    (∃ t, .terminate t ∈ ls) ∧ (o = .ok () ↔ ∃ name, .terminate (.signal name) ∈ ls) ∧
      ∀ reason, o = .error (.signalRegistration reason) ↔ .terminate (.failed reason) ∈ ls := by
  obtain ⟨t, hall, rfl⟩ := returned_of_driverHeeds h hd hstage
  have hmem := (hall t).mpr rfl
  refine ⟨⟨t, hmem⟩, ?_, ?_⟩
  · cases t with
    | panicked => exact absurd hmem hp
    | _ => simp [hall, State.terminationOutcome]
  · intro reason
    cases t with
    | panicked => exact absurd hmem hp
    | _ => simp [hall, State.terminationOutcome]

lemma terminate_of_joiningWatcher {n : Nat} {ls : List Label} {s : State}
    (h : (born n).run ls = some s) (hstage : s.stage = .joiningWatcher) :
    ∃ t, .terminate t ∈ ls := by
  obtain ⟨t, ht⟩ := Option.isSome_iff_exists.mp ((lawful_of_run h).handled.joining hstage)
  exact ⟨t, (terminate_mem_iff h t).mpr ht⟩

/-- A watcher that goes on is let go of, and the life ends well from there. -/
lemma letsGo_of_probing {s : State} (hs : Lawful s) (h : s.stage = .probing)
    (hw : s.watcherOutcome? = none) :
    ∃ s', s.step .proceed = some s' ∧ s'.watcherHandle.aborted = true ∧ CanReturn s' ∧
      ∀ rest s'' o, s'.run rest = some s'' → s''.stage = .returned o → o = .ok () := by
  have hstep := Step.probeBusy h hw
  refine ⟨_, step_eq_some_iff.mpr hstep, rfl, canReturn_of_turning (hs.step hstep) rfl, ?_⟩
  intro rest s'' o hrun hstage
  exact returned_of_decided rfl hrun hstage

/-- Every run in which the wait for a termination does not panic. An error is the one that the wait
ended with. If the driver heeds the stop signal, then the life does not end before the wait, and its
outcome is that of the wait, whichever of the driver and the signal is seen first. The coordinator
joins the watcher only after the wait has ended. Once the driver has returned, it needs no
termination and waits for none, and it ends well where it finds the signal open and the watcher at
work. -/
theorem lifecycle_outcome {n : Nat} {ls : List Label} {s : State} (h : (born n).run ls = some s)
    (hp : Label.terminate .panicked ∉ ls) :
    (∀ e, s.stage = .returned (.error e) →
      ∃ reason, e = .signalRegistration reason ∧ .terminate (.failed reason) ∈ ls) ∧
    (DriverHeeds n ls → ∀ o, s.stage = .returned o →
      (∃ t, .terminate t ∈ ls) ∧ (o = .ok () ↔ ∃ name, .terminate (.signal name) ∈ ls) ∧
      ∀ reason, o = .error (.signalRegistration reason) ↔ .terminate (.failed reason) ∈ ls) ∧
    (s.stage = .joiningWatcher → ∃ t, .terminate t ∈ ls) ∧
    (s.driverReturned = true → CanReturn s ∧
      ((∀ l, byCoordinator l = true → s.step l = none) →
        (∃ o, s.stage = .returned o) ∨ (∃ t, s.watcher = .ending t) ∨
          s.server = .running ∧ (s.signal.closed = true ∨ s.serverHandle.aborted = true))) ∧
    (s.stage = .judging → s.signal.closed = false →
      s.step .proceed = some { s with stage := .probing }) ∧
    (s.stage = .probing → s.watcherOutcome? = none →
      ∃ s', s.step .proceed = some s' ∧ s'.watcherHandle.aborted = true ∧ CanReturn s' ∧
        ∀ rest s'' o, s'.run rest = some s'' → s''.stage = .returned o → o = .ok ()) := by
  have hs := lawful_of_run h
  refine ⟨?_, ?_, terminate_of_joiningWatcher h, ?_, ?_, letsGo_of_probing hs⟩
  · intro e hstage
    exact error_of_returned h hp hstage
  · intro hd o hstage
    exact outcome_iff_of_driverHeeds h hp hd hstage
  · intro hd
    exact ⟨canReturn_of_driverReturned hs hd, waits_of_driverReturned hs hd⟩
  · intro hstage hopen
    exact step_eq_some_iff.mpr (.judgeOpen hstage hopen)

/-- A life in which the wait fails just as the driver returns, and the driver is seen first. -/
def tiedLife : List Label := [
  .spawn, .announce, .driverReady, .terminate (.failed "no handler"), .pollDriver, .proceed, .proceed,
  .watcherFinish, .joinWatcher, .proceed, .serverEnd .finished, .joinServer]

theorem lifecycle_outcome_tiedLife : ∃ s, (born 0).run tiedLife = some s ∧
    s.stage = .returned (.error (.signalRegistration "no handler")) := by
  have hrun : (born 0).run tiedLife = some (((born 0).run tiedLife).get rfl) := rfl
  have h := lifecycle_outcome hrun (by decide)
  obtain ⟨o, hstage⟩ : ∃ o, (((born 0).run tiedLife).get rfl).stage = .returned o := ⟨_, rfl⟩
  have ho := ((h.2.1 (by decide) o hstage).2.2 "no handler").mpr (by decide)
  exact ⟨_, hrun, by rw [hstage, ho]⟩

end Autoscaler.Proofs
