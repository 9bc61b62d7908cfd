import Autoscaler.Daemon.Exit
import Autoscaler.Proofs.LifecycleOutcome
import Autoscaler.Proofs.LoopStep
import Autoscaler.Proofs.Runs

/-!
# The coordinator and the loop in one process

What a step of the running process does to the coordinator and to the loop, and what every run keeps
of the two. Each step is one of the coordinator's life, one of the loop, or neither, and a loop that
has stopped is the driver that the coordinator sees return. So what is known of lives holds of the
process.
-/

namespace Autoscaler.Daemon

/-- What a step does to the coordinator and to the loop. -/
inductive Moves (r r' : Running) : Label → Prop
  | life (l : Lifecycle.Label) (hl : l ≠ .driverReady) (h : Proofs.Step r.life l r'.life)
    (hloop : r'.loop = r.loop.map fun s => { s with signal := r'.life.signal }) :
    Moves r r' (.life l)
  | startLoop (hnone : r.loop = none) (hlife : r'.life = r.life)
    (hloop : r'.loop = some (.start r.opts true r.life.signal)) : Moves r r' .startLoop
  | loop (l : ControlLoop.Label) (s s' : ControlLoop.State) (hl : Running.isLoopStep l = true)
    (hs : r.loop = some s) (h : ControlLoop.Step r.opts s l s')
    (hlife : r'.life = { r.life with driverReady := s'.phase = .stopped })
    (hloop : r'.loop = some s') : Moves r r' (.loop l)
  | bound (hlife : r'.life = r.life) (hloop : r'.loop = r.loop) : Moves r r' (.bind none)
  | unbound (reason : String) (h : Proofs.Step r.life (.serverEnd (.failed reason)) r'.life)
    (hloop : r'.loop = r.loop.map fun s => { s with signal := r'.life.signal }) :
    Moves r r' (.bind (some reason))

section Steps

variable {r r' : Running} {l : Label}

lemma moves_of_stepLife {l : Lifecycle.Label} (h : r.stepLife l = some r') :
    Moves r r' (.life l) := by
  unfold Running.stepLife at h
  split at h
  next => cases h
  next name =>
    obtain ⟨life, hlife, rfl⟩ := Option.map_eq_some_iff.mp h
    exact .life _ nofun (Proofs.step_of_eq_some hlife) rfl
  next hready _ =>
    obtain ⟨life, hlife, rfl⟩ := Option.map_eq_some_iff.mp h
    exact .life _ hready (Proofs.step_of_eq_some hlife) rfl

theorem moves_of_step (h : r.step l = some r') : Moves r r' l := by
  cases l with
  | life l => exact moves_of_stepLife h
  | startLoop =>
    simp only [Running.step] at h
    split at h
    next => cases h
    next hnone =>
      split at h
      next =>
        cases h
        exact .startLoop hnone rfl rfl
      next => cases h
  | loop l =>
    simp only [Running.step] at h
    split at h
    next s hs =>
      split at h
      next hl =>
        obtain ⟨s', hstep, rfl⟩ := Option.map_eq_some_iff.mp h
        rw [Bool.and_eq_true] at hl
        exact .loop l s s' hl.2 hs (ControlLoop.step_of_eq_some hstep) rfl rfl
      next => cases h
    next => cases h
  | bind fault =>
    simp only [Running.step] at h
    split at h
    next => cases h
    next =>
      cases fault with
      | none =>
        cases h
        exact .bound rfl rfl
      | some reason =>
        obtain ⟨life, hlife, rfl⟩ := Option.map_eq_some_iff.mp h
        exact .unbound reason (Proofs.step_of_eq_some hlife) rfl
    next => cases h

end Steps

section Runs

variable {r : Running} {course : List Label}

lemma run_eq_foldlM (r : Running) (course : List Label) :
    r.run course = course.foldlM Running.step r := by
  induction course generalizing r with
  | nil => rfl
  | cons l rest ih =>
    simp only [Running.run, ih, List.foldlM_cons]
    rfl

/-- What holds at the start and is kept by each step holds after each run. -/
theorem run_induction {r₀ : Running} {P : List Label → Running → Prop} (hinit : P [] r₀)
    (hstep : ∀ ls l r r', r₀.run ls = some r → P ls r → Moves r r' l → P (ls ++ [l]) r')
    (h : r₀.run course = some r) : P course r := by
  simp only [run_eq_foldlM] at h hstep
  exact Runs.foldlM_induction hinit
    (fun ls l r r' hr ih hl => hstep ls l r r' hr ih (moves_of_step hl)) h

end Runs

/-! ### What a step of either machine leaves alone -/

section Frames

variable {s s' : Lifecycle.State} {l : Lifecycle.Label}

lemma driverReady_of_step (h : Proofs.Step s l s') (hl : l ≠ .driverReady) :
    s'.driverReady = s.driverReady := by
  cases h with
  | driverReady => exact absurd rfl hl
  | _ => rfl

/-- A driver that the coordinator has seen return was ready to. -/
lemma ready_of_returned (h : Proofs.Step s l s') (hl : l ≠ .driverReady)
    (hs : s.driverReturned = true → s.driverReady = true) :
    s'.driverReturned = true → s'.driverReady = true := by
  rw [driverReady_of_step h hl]
  cases h with
  | returnEarly hstage hd | returnLate hstage hd => exact fun _ => hd
  | _ => exact hs

lemma calm_of_step (h : Proofs.Step s l s') (hl : l ≠ .terminate .panicked)
    (hs : Proofs.resolved? s.watcher ≠ some .panicked) :
    Proofs.resolved? s'.watcher ≠ some .panicked := by
  intro hpanicked
  rcases (Proofs.resolved?_iff_of_step h .panicked).mpr hpanicked with hbefore | heq
  · exact hs hbefore
  · exact hl heq.symm

/-- A signal releases only once it is closed, if nobody lets go of the watcher or panics. -/
lemma closed_of_releases (hs : Proofs.SignalLinked s) (ha : s.watcherHandle.aborted = false)
    (hp : Proofs.resolved? s.watcher ≠ some .panicked) (hr : s.signal.releases = true) :
    s.signal.closed = true := by
  rw [StopSignal.releases, Bool.or_eq_true] at hr
  rcases hr with hclosed | hlost
  · exact hclosed
  · refine hs.closed.mpr ?_
    cases hw : s.watcher with
    | waiting =>
      have hcontrolled := hs.controlled.mpr hw
      rw [hcontrolled] at hlost
      cases hlost
    | cancelled =>
      have haborted := hs.cancelled hw
      rw [ha] at haborted
      cases haborted
    | ending t | finished t =>
      rw [hw] at hp
      exact ⟨t, rfl, fun ht => hp (by rw [ht]; rfl)⟩

/-- Whether the driver is ready matters to no invariant of a life. -/
lemma lawful_driverReady (hs : Proofs.Lawful s) (ready : Bool) :
    Proofs.Lawful { s with driverReady := ready } := by
  obtain ⟨ho, hl, hh⟩ := hs
  exact ⟨⟨ho.published, ho.announced, ho.ready, ho.returned, ho.released⟩,
    ⟨hl.controlled, hl.closed, hl.cancelled⟩,
    ⟨hh.undecided, hh.joining, hh.decided, hh.turned, hh.server⟩⟩

end Frames

section LoopFrames

variable {opts : ControlLoop.RunOptions} {s s' : ControlLoop.State} {l : ControlLoop.Label}

lemma signal_of_step (h : ControlLoop.Step opts s l s') (hl : Running.isLoopStep l = true) :
    s'.signal = s.signal := by
  cases h with
  | close | closeAgain | abandon => cases hl
  | _ => rfl

lemma stopped_of_step (h : ControlLoop.Step opts s l s') (hs : s.phase = .stopped) :
    s'.phase = .stopped := by
  cases h with
  | elapse | close | closeAgain | abandon => exact hs
  | quit => rfl
  | tick hp | beginPass _ _ hp | beginEmpty hp | nextScan _ _ _ _ hp | lastScan _ _ hp =>
    rw [hs] at hp
    cases hp

lemma releases_of_stopping (h : ControlLoop.Step opts s l s') (hs : s.phase ≠ .stopped)
    (hs' : s'.phase = .stopped) : s.signal.releases = true := by
  cases h with
  | elapse | close | closeAgain | abandon => exact absurd hs' hs
  | quit hr => exact hr
  | _ => cases hs'

end LoopFrames

/-! ### What a run keeps -/

/-- What a run keeps if the wait for a termination does not panic: the loop sees the coordinator's
signal, it is ready to return where it has stopped, and it stops only once the signal is closed. -/
structure Joined (r : Running) : Prop where
  lawful : Proofs.Lawful r.life
  signal : ∀ s, r.loop = some s → s.signal = r.life.signal
  ready : r.life.driverReady = true ↔ ∃ s, r.loop = some s ∧ s.phase = .stopped
  returned : r.life.driverReturned = true → r.life.driverReady = true
  heeded : r.life.driverReady = true → r.life.signal.closed = true
  kept : r.life.watcherHandle.aborted = false ∧ r.life.stage ≠ .probing
  calm : Proofs.resolved? r.life.watcher ≠ some .panicked

section Joined

variable {r r' : Running}

lemma joined_ofLaunch (s : Settings) (opts : ControlLoop.RunOptions) :
    Joined (.ofLaunch s opts) where
  lawful := ⟨Proofs.outward_born 0, Proofs.signalLinked_born 0, Proofs.handled_born 0⟩
  signal := nofun
  ready := ⟨nofun, fun ⟨_, h, _⟩ => nomatch h⟩
  returned := nofun
  heeded := nofun
  kept := ⟨rfl, nofun⟩
  calm := nofun

lemma Joined.moveLife (hr : Joined r) {l : Lifecycle.Label} (h : Proofs.Step r.life l r'.life)
    (hready : l ≠ .driverReady) (hpanicked : l ≠ .terminate .panicked)
    (hloop : r'.loop = r.loop.map fun s => { s with signal := r'.life.signal }) : Joined r' := by
  have hsame := driverReady_of_step h hready
  refine ⟨hr.lawful.step h, ?_, ?_, ready_of_returned h hready hr.returned, ?_, ?_,
    calm_of_step h hpanicked hr.calm⟩
  · intro s hs
    rw [hloop] at hs
    obtain ⟨s₀, -, rfl⟩ := Option.map_eq_some_iff.mp hs
    rfl
  · rw [hsame, hr.ready, hloop]
    simp
  · intro hd
    rw [hsame] at hd
    exact Proofs.closed_of_step h (hr.heeded hd)
  · exact Proofs.notAborted_of_step hr.lawful h (fun hd => hr.heeded (hr.returned hd)) hr.kept.1
      hr.kept.2

lemma Joined.startLoop (hr : Joined r) (hnone : r.loop = none) (hlife : r'.life = r.life)
    (hloop : r'.loop = some (.start r.opts true r.life.signal)) : Joined r' := by
  have hready : r.life.driverReady ≠ true := by
    rw [Ne, hr.ready, hnone]
    rintro ⟨s, hs, -⟩
    cases hs
  rw [← hlife] at hready
  refine ⟨hlife ▸ hr.lawful, ?_, ?_, hlife ▸ hr.returned, hlife ▸ hr.heeded, hlife ▸ hr.kept,
    hlife ▸ hr.calm⟩
  · intro s hs
    rw [hloop] at hs
    cases hs
    rw [hlife]
    rfl
  · refine ⟨fun hd => absurd hd hready, ?_⟩
    rintro ⟨s, hs, hphase⟩
    rw [hloop] at hs
    cases hs
    cases hphase

lemma Joined.moveLoop (hr : Joined r) {l : ControlLoop.Label} {s s' : ControlLoop.State}
    (hl : Running.isLoopStep l = true) (hs : r.loop = some s) (h : ControlLoop.Step r.opts s l s')
    (hlife : r'.life = { r.life with driverReady := s'.phase = .stopped })
    (hloop : r'.loop = some s') : Joined r' := by
  have hsignal : s.signal = r.life.signal := hr.signal s hs
  have hready : r.life.driverReady = true ↔ s.phase = .stopped := by
    rw [hr.ready, hs]
    simp
  refine ⟨?_, ?_, ?_, ?_, ?_, ?_, ?_⟩
  · rw [hlife]
    exact lawful_driverReady hr.lawful _
  · intro s₁ hs₁
    rw [hloop] at hs₁
    cases hs₁
    rw [signal_of_step h hl, hsignal, hlife]
  · rw [hlife, hloop]
    simp
  · rw [hlife]
    intro hd
    simpa using stopped_of_step h (hready.mp (hr.returned hd))
  · rw [hlife]
    intro hd
    by_cases hphase : s.phase = .stopped
    · exact hr.heeded (hready.mpr hphase)
    · have hreleases := releases_of_stopping h hphase (by simpa using hd)
      rw [hsignal] at hreleases
      have hclosed := closed_of_releases hr.lawful.linked hr.kept.1 hr.calm hreleases
      exact hclosed
  · rw [hlife]
    exact hr.kept
  · rw [hlife]
    exact hr.calm

theorem Joined.step (hr : Joined r) {l : Label} (h : Moves r r' l)
    (hl : l ≠ .life (.terminate .panicked)) : Joined r' := by
  cases h with
  | life l hready h hloop =>
    exact hr.moveLife h hready (fun heq => hl (by rw [heq])) hloop
  | startLoop hnone hlife hloop => exact hr.startLoop hnone hlife hloop
  | loop l s s' hown hs h hlife hloop => exact hr.moveLoop hown hs h hlife hloop
  | bound hlife hloop =>
    exact ⟨hlife ▸ hr.lawful, by rw [hlife, hloop]; exact hr.signal,
      by rw [hlife, hloop]; exact hr.ready, hlife ▸ hr.returned, hlife ▸ hr.heeded,
      hlife ▸ hr.kept, hlife ▸ hr.calm⟩
  | unbound reason h hloop => exact hr.moveLife h nofun nofun hloop

theorem joined_of_run {s : Settings} {opts : ControlLoop.RunOptions} {course : List Label}
    (h : (Running.ofLaunch s opts).run course = some r)
    (hp : .life (.terminate .panicked) ∉ course) : Joined r := by
  refine run_induction (P := fun ls r => .life (.terminate .panicked) ∉ ls → Joined r) ?_ ?_ h hp
  · intro _
    exact joined_ofLaunch s opts
  · intro ls l r r' _ ih hmoves hp
    rw [List.mem_append, List.mem_singleton, not_or] at hp
    exact (ih hp.1).step hmoves (Ne.symm hp.2)

end Joined

/-! ### What ends a run -/

section Ends

variable {s : Settings} {opts : ControlLoop.RunOptions} {course : List Label} {r : Running}

/-- A termination of the process is one of the coordinator's life. -/
lemma terminate_mem_iff (h : (Running.ofLaunch s opts).run course = some r) (t : Lifecycle.Termination) :
    .life (.terminate t) ∈ course ↔ Proofs.resolved? r.life.watcher = some t := by
  refine run_induction (P := fun ls r =>
    .life (.terminate t) ∈ ls ↔ Proofs.resolved? r.life.watcher = some t) ?_ ?_ h
  · simp [Running.ofLaunch, Proofs.resolved?]
  · intro ls l r r' _ ih hmoves
    rw [List.mem_append, List.mem_singleton, ih]
    cases hmoves with
    | life l hready h =>
      rw [Label.life.injEq]
      exact Proofs.resolved?_iff_of_step h t
    | unbound reason h =>
      rw [← Proofs.resolved?_iff_of_step h t]
      simp
    | startLoop _ hlife | loop _ _ _ _ _ _ hlife | bound hlife => simp [hlife]

end Ends

end Autoscaler.Daemon
