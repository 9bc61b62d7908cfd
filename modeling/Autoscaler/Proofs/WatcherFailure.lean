import Autoscaler.Proofs.LifecycleOutcome

/-!
# A watcher that panics

A watcher that panics first lets go of the stop signal, which releases all who wait for it, and only
then its task can be joined. The coordinator waits for a task of which it knows that the signal was
closed, and a panic closes nothing. So the panic is what the life returns exactly if the coordinator
does not look at the task in between; if it does, then the life ends as if nothing had happened.
-/

namespace Autoscaler.Proofs
open Lifecycle

/-- The driver does not return before the stop signal has released those who wait for it. -/
def DriverWaits (n : Nat) (ls : List Label) : Prop :=
  ∀ pre, pre <+: ls → ∀ m ∈ (born n).run pre, m.driverReturned = true → m.signal.releases = true

instance (n : Nat) (ls : List Label) : Decidable (DriverWaits n ls) :=
  decidable_of_iff (∀ pre ∈ ls.inits, ∀ m ∈ (born n).run pre,
    m.driverReturned = true → m.signal.releases = true) (by simp only [DriverWaits, List.mem_inits])

/-- The coordinator asks whether the watcher's task can be joined between the task's last act and its
end. -/
def LooksBetween (n : Nat) (ls : List Label) : Prop :=
  ∃ pre, pre ++ [.proceed] <+: ls ∧
    ∃ m ∈ (born n).run pre, m.stage = .probing ∧ ∃ t, m.watcher = .ending t

lemma LooksBetween.append {n : Nat} {ls : List Label} (h : LooksBetween n ls) (l : Label) :
    LooksBetween n (ls ++ [l]) := by
  obtain ⟨pre, hpre, hm⟩ := h
  exact ⟨pre, hpre.trans (List.prefix_append ls [l]), hm⟩

lemma aborted_of_step {s s' : State} {l : Label} (h : Step s l s')
    (ha : s'.watcherHandle.aborted = true) : s.watcherHandle.aborted = true ∨
      l = .proceed ∧ s.stage = .probing ∧ s.watcherOutcome? = none := by
  cases h with
  | probeBusy hstage hw => exact .inr ⟨rfl, hstage, hw⟩
  | _ => exact .inl ha

/-- A released signal has been left by the watcher. -/
lemma not_waiting_of_releases {s : State} (hl : SignalLinked s) (hr : s.signal.releases = true) :
    s.watcher ≠ .waiting := by
  intro hw
  have hcontrolled := hl.controlled.mpr hw
  have hopen : ¬ s.signal.closed = true := by
    intro hc
    obtain ⟨t, ht, -⟩ := hl.closed.mp hc
    simp [hw, resolved?] at ht
  simp [StopSignal.releases, hcontrolled, hopen] at hr

lemma ending_of_probing {s : State} (hs : Lawful s) (hstage : s.stage = .probing)
    (hw : s.watcherOutcome? = none) (hd : s.driverReturned = true → s.signal.releases = true) :
    ∃ t, s.watcher = .ending t := by
  have hreturned : s.driverReturned = true := by rw [hs.outward.returned, hstage]; rfl
  have hleft := not_waiting_of_releases hs.linked (hd hreturned)
  cases hwatcher : s.watcher with
  | waiting => exact absurd hwatcher hleft
  | ending t => exact ⟨t, rfl⟩
  | finished t | cancelled => simp [State.watcherOutcome?, hwatcher] at hw

/-- Where the driver waits for the signal, the watcher is let go of only by a look in between. -/
lemma looksBetween_of_aborted {n : Nat} {ls : List Label} {s : State}
    (h : (born n).run ls = some s) (hd : DriverWaits n ls)
    (ha : s.watcherHandle.aborted = true) : LooksBetween n ls := by
  refine run_induction (P := fun ls s => DriverWaits n ls → s.watcherHandle.aborted = true →
    LooksBetween n ls) ?_ ?_ h hd ha
  · intro _ ha
    cases ha
  · intro ls l s s' hrun ih hstep hd ha
    have hbefore : DriverWaits n ls := fun pre hpre => hd pre (hpre.trans (List.prefix_append ls [l]))
    rcases aborted_of_step hstep ha with ha | ⟨rfl, hstage, hw⟩
    · exact (ih hbefore ha).append l
    · have hending := ending_of_probing (lawful_of_run hrun) hstage hw
        (hbefore ls List.prefix_rfl s hrun)
      exact ⟨ls, List.prefix_rfl, s, hrun, hstage, hending⟩

lemma ok_of_looksBetween {n : Nat} {ls : List Label} {s : State} {o : Outcome}
    (h : (born n).run ls = some s) (hl : LooksBetween n ls) (hstage : s.stage = .returned o) :
    o = .ok () := by
  obtain ⟨pre, hpre, m, hm, hprobing, t, ht⟩ := hl
  obtain ⟨m', post, -, hm', hpost⟩ := run_of_prefix hpre h
  have hbusy : m.watcherOutcome? = none := by rw [State.watcherOutcome?, ht]
  have hlook : (born n).run (pre ++ [.proceed]) = some m.abortWatcher :=
    run_concat.mpr ⟨m, hm, .probeBusy hprobing hbusy⟩
  obtain rfl : m.abortWatcher = m' := Option.some.inj (hlook.symm.trans hm')
  exact returned_of_decided rfl hpost hstage

/-- Every run in which the watcher panics and the driver waits for the signal. Those who wait are
released, though the signal does not close, and once the driver has returned the life comes to its
end. It returns the panic if the coordinator does not look at the task between its last act and its
end, and returns well if it does. -/
theorem watcher_failure {n : Nat} {ls : List Label} {s : State} (h : (born n).run ls = some s)
    (hp : Label.terminate .panicked ∈ ls) (hd : DriverWaits n ls) :
    s.signal.releases = true ∧ s.signal.closed = false ∧
    (s.driverReturned = true → CanReturn s) ∧
    ∀ o, s.stage = .returned o →
      (o = .error .watcherFailed ↔ ¬ LooksBetween n ls) ∧ (o = .ok () ↔ LooksBetween n ls) := by
  have hs := lawful_of_run h
  have hresolved := (terminate_mem_iff h .panicked).mp hp
  have hopen : s.signal.closed = false := by
    rw [← Bool.not_eq_true, hs.linked.closed]
    rintro ⟨t, ht, hne⟩
    rw [hresolved] at ht
    exact hne (Option.some.inj ht).symm
  have hgone : s.signal.controlled = false := by
    rw [← Bool.not_eq_true, hs.linked.controlled]
    intro hw
    simp [hw, resolved?] at hresolved
  refine ⟨by simp [StopSignal.releases, hgone], hopen, canReturn_of_driverReturned hs, ?_⟩
  intro o hstage
  by_cases hlooks : LooksBetween n ls
  · obtain rfl := ok_of_looksBetween h hlooks hstage
    simp [hlooks]
  · have haborted : s.watcherHandle.aborted ≠ true := fun ha => hlooks (looksBetween_of_aborted h hd ha)
    rcases outcome_of_returned hs hstage with ⟨ha, -⟩ | ⟨t, ht, ho⟩
    · exact absurd ha haborted
    · obtain rfl : t = .panicked := Option.some.inj (ht.symm.trans hresolved)
      simp [ho, State.terminationOutcome, hlooks]

/-- A life whose watcher panics, and whose driver returns once it is released. -/
def failedLife : List Label := [
  .spawn, .announce, .terminate .panicked, .seeStop, .driverReady, .pollDriver, .proceed,
  .watcherFinish, .proceed, .joinWatcher, .proceed, .serverCancel, .joinServer]

example : DriverWaits 0 failedLife ∧ ∃ s, (born 0).run failedLife = some s ∧
    s.stage = .returned (.error .watcherFailed) :=
  ⟨by decide, _, rfl, rfl⟩

/-- The same life, but the coordinator looks at the task before its end. -/
def hastyLife : List Label := [
  .spawn, .announce, .terminate .panicked, .seeStop, .driverReady, .pollDriver, .proceed, .proceed,
  .watcherFinish, .proceed, .serverCancel, .joinServer]

example : DriverWaits 0 hastyLife ∧ ∃ s, (born 0).run hastyLife = some s ∧
    s.watcher = .finished .panicked ∧ s.stage = .returned (.ok ()) :=
  ⟨by decide, _, rfl, rfl, rfl⟩

end Autoscaler.Proofs
