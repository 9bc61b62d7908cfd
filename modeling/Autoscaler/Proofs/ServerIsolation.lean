import Autoscaler.Proofs.LifecycleInvariant
import Mathlib.Data.List.Infix

/-!
# The server has no say

Two lives of one process whose servers fare differently, and in which all others take the same
steps, cannot be told apart but by the server: they publish the same, the stop signal closes and
the driver returns at the same step, and the outcome is the same. A life waits for its server only
once the server was told to end.
-/

namespace Autoscaler.Proofs
open Lifecycle

/-- Whether a step is the server's own. -/
def byServer : Label → Bool
  | .serverEnd _ => true
  | .serverCancel => true
  | _ => false

/-- The steps of a life without those of the server. -/
def otherSteps (ls : List Label) : List Label := ls.filter fun l => !byServer l

lemma otherSteps_append (ls ls' : List Label) :
    otherSteps (ls ++ ls') = otherSteps ls ++ otherSteps ls' := List.filter_append ls ls'

lemma otherSteps_cons_server {l : Label} (hl : byServer l = true) (ls : List Label) :
    otherSteps (l :: ls) = otherSteps ls := by
  simp [otherSteps, hl]

lemma otherSteps_cons_other {l : Label} (hl : byServer l = false) (ls : List Label) :
    otherSteps (l :: ls) = l :: otherSteps ls := by
  simp [otherSteps, hl]

lemma otherSteps_eq_nil_iff {ls : List Label} :
    otherSteps ls = [] ↔ ∀ l ∈ ls, byServer l = true := by
  simp [otherSteps]

lemma otherSteps_eq_cons {l : Label} {ls others : List Label} (h : otherSteps ls = l :: others) :
    ∃ quiet rest, ls = quiet ++ l :: rest ∧ otherSteps quiet = [] ∧ otherSteps rest = others := by
  obtain ⟨quiet, rest, hls, hquiet, -, hrest⟩ := List.filter_eq_cons_iff.mp h
  exact ⟨quiet, rest, hls, otherSteps_eq_nil_iff.mpr (by simpa using hquiet), hrest⟩

def tellsOfServer (e : Log.Event) : Bool :=
  e.message == "Metrics server failed" || e.message == "Metrics server task failed"

/-- A state as it looks to someone who does not see the server. -/
def apart (s : State) : State :=
  { s with server := .running, log := s.log.filter fun e => !tellsOfServer e }

lemma announcements_apart (s : State) : announcements (apart s).log = announcements s.log := by
  unfold announcements apart
  rw [List.filterMap_filter]
  congr 2
  funext e
  by_cases htells : tellsOfServer e = true
  · have hmessage : e.message ≠ "Lifecycle state changed" := by
      simp only [tellsOfServer, Bool.or_eq_true, beq_iff_eq] at htells
      rcases htells with h | h <;> simp [h]
    simp [htells, announced?_eq_none hmessage]
  · simp [htells]

lemma apart_watch (s : State) (t : Termination) : apart (s.watch t) = (apart s).watch t := by
  have hclose : tellsOfServer StopSignal.closeLog = false := by decide
  have hlog : t.log.filter (fun e => !tellsOfServer e) = t.log := by
    cases t <;> simp [Termination.log, tellsOfServer]
  cases hclosed : (t.act s.signal).2 <;> simp [apart, State.watch, hclosed, hclose, hlog]

lemma apart_noteEarlyReturn (s : State) :
    apart s.noteEarlyReturn = (apart s).noteEarlyReturn := by
  have hnote : tellsOfServer State.earlyReturnLog = false := by decide
  cases hclosed : s.signal.closed <;> simp [apart, State.noteEarlyReturn, hclosed, hnote]

lemma apart_of_serverStep {s m : State} {l : Label} (h : Step s l m) (hl : byServer l = true) :
    apart m = apart s := by
  cases h with
  | serverEnd e => cases e <;> simp [apart, ServerEnd.log, tellsOfServer]
  | serverCancel => simp [apart]
  | _ => cases hl

/-- The others take their steps in the same way if the server is not seen. -/
lemma apart_step {s m : State} {l : Label} (h : Step s l m) (hl : byServer l = false)
    (hjoin : l ≠ .joinServer) : Step (apart s) l (apart m) := by
  cases h with
  | spawn h => exact .spawn h
  | announce h => exact .announce h
  | terminate t h hw =>
    rw [apart_watch]
    exact .terminate t h hw
  | watcherFinish t hw => exact .watcherFinish t hw
  | watcherCancel hw ha => exact .watcherCancel hw ha
  | driverReady => exact .driverReady
  | pollPending h hd => exact .pollPending h hd
  | returnEarly h hd => exact .returnEarly h hd
  | returnLate h hd => exact .returnLate h hd
  | seeStop h hr => exact .seeStop h hr
  | noteReturn h =>
    rw [apart_noteEarlyReturn]
    exact .noteReturn h
  | judgeClosed h hc => exact .judgeClosed h hc
  | judgeOpen h hc => exact .judgeOpen h hc
  | probeFinished h hw => exact .probeFinished h hw
  | probeBusy h hw => exact .probeBusy h hw
  | turn o h => exact .turn o h
  | joinWatcher o h hw => exact .joinWatcher o h hw
  | serverEnd | serverCancel => cases hl
  | joinEnded | joinCancelled => exact absurd rfl hjoin

/-- What the others can do if the server is not seen they can do. -/
lemma step_of_apart {s a : State} {l : Label} (h : Step (apart s) l a) (hl : byServer l = false)
    (hjoin : l ≠ .joinServer) : ∃ m, Step s l m := by
  cases h with
  | spawn h => exact ⟨_, .spawn h⟩
  | announce h => exact ⟨_, .announce h⟩
  | terminate t h hw => exact ⟨_, .terminate t h hw⟩
  | watcherFinish t hw => exact ⟨_, .watcherFinish t hw⟩
  | watcherCancel hw ha => exact ⟨_, .watcherCancel hw ha⟩
  | driverReady => exact ⟨_, .driverReady⟩
  | pollPending h hd => exact ⟨_, .pollPending h hd⟩
  | returnEarly h hd => exact ⟨_, .returnEarly h hd⟩
  | returnLate h hd => exact ⟨_, .returnLate h hd⟩
  | seeStop h hr => exact ⟨_, .seeStop h hr⟩
  | noteReturn h => exact ⟨_, .noteReturn h⟩
  | judgeClosed h hc => exact ⟨_, .judgeClosed h hc⟩
  | judgeOpen h hc => exact ⟨_, .judgeOpen h hc⟩
  | probeFinished h hw => exact ⟨_, .probeFinished h hw⟩
  | probeBusy h hw => exact ⟨_, .probeBusy h hw⟩
  | turn o h => exact ⟨_, .turn o h⟩
  | joinWatcher o h hw => exact ⟨_, .joinWatcher o h hw⟩
  | serverEnd | serverCancel => cases hl
  | joinEnded | joinCancelled => exact absurd rfl hjoin

lemma apart_of_join {s m : State} (h : Step s .joinServer m) :
    ∃ o, s.stage = .joiningServer o ∧ apart m = (apart s).conclude o := by
  have hstopped : tellsOfServer Published.stopped.event = false := by decide
  cases h with
  | joinEnded o e hstage hs =>
    have hlog : (e.joinLog s.serverTask).filter (fun e => !tellsOfServer e) = [] := by
      cases e <;> simp [ServerEnd.joinLog, tellsOfServer]
    exact ⟨o, hstage, by simp [apart, State.conclude, State.enter, hstopped, hlog]⟩
  | joinCancelled o hstage hs =>
    exact ⟨o, hstage, by simp [apart, State.conclude, State.enter, hstopped]⟩

lemma step_unique {s m m' : State} {l : Label} (h : Step s l m) (h' : Step s l m') : m = m' := by
  rw [← step_eq_some_iff] at h h'
  exact Option.some.inj (h.symm.trans h')

lemma stage_of_apart {s s' : State} (h : apart s = apart s') : s.stage = s'.stage := by
  have hstage : (apart s).stage = (apart s').stage := by rw [h]
  exact hstage

lemma signal_of_apart {s s' : State} (h : apart s = apart s') : s.signal = s'.signal := by
  have hsignal : (apart s).signal = (apart s').signal := by rw [h]
  exact hsignal

lemma driverReturned_of_apart {s s' : State} (h : apart s = apart s') :
    s.driverReturned = s'.driverReturned := by
  have hreturned : (apart s).driverReturned = (apart s').driverReturned := by rw [h]
  exact hreturned

/-- States that are the same apart from the server stay so if one of the others takes a step. -/
lemma apart_eq_of_step {s s' m m' : State} {l : Label} (hsame : apart s = apart s')
    (h : Step s l m) (h' : Step s' l m') (hl : byServer l = false) : apart m = apart m' := by
  by_cases hjoin : l = .joinServer
  · subst hjoin
    obtain ⟨o, hstage, hm⟩ := apart_of_join h
    obtain ⟨o', hstage', hm'⟩ := apart_of_join h'
    have ho : Stage.joiningServer o = .joiningServer o' := by
      rw [← hstage, ← hstage', stage_of_apart hsame]
    cases ho
    rw [hm, hm', hsame]
  · have hs := apart_step h hl hjoin
    have hs' := apart_step h' hl hjoin
    rw [hsame] at hs
    exact step_unique hs hs'

/-- Only the join hangs on the server: it must be through. -/
lemma exists_step_of_apart {s s' m : State} {l : Label} (hsame : apart s = apart s')
    (h : Step s l m) (hl : byServer l = false)
    (hjoin : l = .joinServer → s'.server ≠ .running) : ∃ m', Step s' l m' := by
  by_cases heq : l = .joinServer
  · subst heq
    obtain ⟨o, hstage, -⟩ := apart_of_join h
    rw [stage_of_apart hsame] at hstage
    cases hserver : s'.server with
    | running => exact absurd hserver (hjoin rfl)
    | cancelled => exact ⟨_, .joinCancelled o hstage hserver⟩
    | ended e => exact ⟨_, .joinEnded o e hstage hserver⟩
  · have hs := apart_step h hl heq
    rw [hsame] at hs
    exact step_of_apart hs hl heq

lemma run_cons {s s' : State} {l : Label} {ls : List Label} :
    s.run (l :: ls) = some s' ↔ ∃ m, Step s l m ∧ m.run ls = some s' := by
  simp only [State.run, Option.bind_eq_some_iff, step_eq_some_iff]

lemma apart_of_serverRun {s s' : State} {ls : List Label} (h : s.run ls = some s')
    (hls : otherSteps ls = []) : apart s' = apart s := by
  rw [otherSteps_eq_nil_iff] at hls
  induction ls generalizing s with
  | nil =>
    cases h
    rfl
  | cons l rest ih =>
    obtain ⟨m, hstep, hrest⟩ := run_cons.mp h
    obtain ⟨hl, hall⟩ := List.forall_mem_cons.mp hls
    rw [ih hrest hall, apart_of_serverStep hstep hl]

/-- Lives in which the others take the same steps end up the same apart from the server. -/
theorem apart_eq_of_run {s s' a a' : State} {ls ls' : List Label} (hsame : apart s = apart s')
    (h : s.run ls = some a) (h' : s'.run ls' = some a') (hls : otherSteps ls' = otherSteps ls) :
    apart a = apart a' := by
  induction ls generalizing s s' ls' with
  | nil =>
    cases h
    rw [hsame, apart_of_serverRun h' hls]
  | cons l rest ih =>
    obtain ⟨m, hstep, hrest⟩ := run_cons.mp h
    cases hl : byServer l with
    | true =>
      rw [otherSteps_cons_server hl] at hls
      exact ih ((apart_of_serverStep hstep hl).trans hsame) hrest h' hls
    | false =>
      rw [otherSteps_cons_other hl] at hls
      obtain ⟨quiet, rest', rfl, hquiet, hothers⟩ := otherSteps_eq_cons hls
      rw [run_append, Option.bind_eq_some_iff] at h'
      obtain ⟨t, ht, h'⟩ := h'
      obtain ⟨m', hstep', hrest'⟩ := run_cons.mp h'
      have ht' : apart s = apart t := hsame.trans (apart_of_serverRun ht hquiet).symm
      exact ih (apart_eq_of_step ht' hstep hstep' hl) hrest hrest' hothers

/-- The server ends by itself in no other way than the given one, and only once the stop signal has
closed. -/
def EndsWhenStopped (e : ServerEnd) (s : State) (ls : List Label) : Prop :=
  ∀ before e' after, ls = before ++ .serverEnd e' :: after →
    e' = e ∧ ∀ m ∈ s.run before, m.signal.closed = true

lemma endsWhenStopped_cons {e : ServerEnd} {s m : State} {l : Label} {ls : List Label}
    (h : Step s l m) (hl : ∀ e', l = .serverEnd e' → e' = e ∧ s.signal.closed = true)
    (hls : EndsWhenStopped e m ls) : EndsWhenStopped e s (l :: ls) := by
  intro before e' after heq
  cases before with
  | nil =>
    obtain ⟨rfl, -⟩ := List.cons_eq_cons.mp heq
    obtain ⟨he, hclosed⟩ := hl e' rfl
    refine ⟨he, ?_⟩
    rintro m ⟨⟩
    exact hclosed
  | cons l' before =>
    obtain ⟨rfl, hrest⟩ := List.cons_eq_cons.mp heq
    obtain ⟨he, hclosed⟩ := hls before e' after hrest
    refine ⟨he, ?_⟩
    intro m' hm'
    obtain ⟨t, ht, hrun⟩ := run_cons.mp hm'
    rw [step_unique ht h] at hrun
    exact hclosed m' hrun

/-- A server that the coordinator waits for can come to an end: it was told to. -/
lemma exists_end_of_join {s : State} (hs : Lawful s) {o : Outcome}
    (hstage : s.stage = .joiningServer o) (hserver : s.server = .running) (e : ServerEnd) :
    ∃ l m, byServer l = true ∧ Step s l m ∧ m.server ≠ .running ∧
      ∀ e', l = .serverEnd e' → e' = e ∧ s.signal.closed = true := by
  rcases hs.handled.turned o hstage with hclosed | haborted
  · refine ⟨.serverEnd e, _, rfl, .serverEnd e (by simp [hstage]) hserver, by simp, ?_⟩
    rintro e' ⟨⟩
    exact ⟨rfl, hclosed⟩
  · exact ⟨.serverCancel, _, rfl, .serverCancel hserver haborted, by simp, nofun⟩

/-- Whatever the others do next in one life they can do in another that is the same so far, where
the server ends as it will, and no sooner than it is told to. -/
theorem exists_run_of_apart {s s' a : State} {ls : List Label} (hsame : apart s = apart s')
    (hs' : Lawful s') (h : s.run ls = some a) (e : ServerEnd) :
    ∃ rest a', EndsWhenStopped e s' rest ∧ s'.run rest = some a' ∧
      otherSteps rest = otherSteps ls ∧ apart a = apart a' := by
  induction ls generalizing s s' with
  | nil =>
    cases h
    exact ⟨[], s', by simp [EndsWhenStopped], rfl, rfl, hsame⟩
  | cons l ls ih =>
    obtain ⟨m, hstep, hrun⟩ := run_cons.mp h
    cases hl : byServer l with
    | true =>
      obtain ⟨rest, a', hends, hrest, hothers, ha⟩ :=
        ih ((apart_of_serverStep hstep hl).trans hsame) hs' hrun
      exact ⟨rest, a', hends, hrest, by rw [otherSteps_cons_server hl, hothers], ha⟩
    | false =>
      have hgo : ∀ t, apart s = apart t → Lawful t → (l = .joinServer → t.server ≠ .running) →
          ∃ rest a', EndsWhenStopped e t rest ∧ t.run rest = some a' ∧
            otherSteps rest = otherSteps (l :: ls) ∧ apart a = apart a' := by
        intro t ht hlawful hready
        obtain ⟨t', hstep'⟩ := exists_step_of_apart ht hstep hl hready
        obtain ⟨rest, a', hends, hrest, hothers, ha⟩ :=
          ih (apart_eq_of_step ht hstep hstep' hl) (hlawful.step hstep') hrun
        have hnot : ∀ e', l = .serverEnd e' → e' = e ∧ t.signal.closed = true := by
          rintro e' rfl
          cases hl
        exact ⟨l :: rest, a', endsWhenStopped_cons hstep' hnot hends,
          run_cons.mpr ⟨t', hstep', hrest⟩,
          by rw [otherSteps_cons_other hl, otherSteps_cons_other hl, hothers], ha⟩
      by_cases hwaits : l = .joinServer ∧ s'.server = .running
      · -- the join waits for the server, which ends first
        obtain ⟨rfl, hserver⟩ := hwaits
        obtain ⟨o, hstage, -⟩ := apart_of_join hstep
        rw [stage_of_apart hsame] at hstage
        obtain ⟨l, t, hl', ht, hdone, hend⟩ := exists_end_of_join hs' hstage hserver e
        have hquiet := apart_of_serverStep ht hl'
        obtain ⟨rest, a', hends, hrest, hothers, ha⟩ :=
          hgo t (hsame.trans hquiet.symm) (hs'.step ht) (fun _ => hdone)
        exact ⟨l :: rest, a', endsWhenStopped_cons ht hend hends, run_cons.mpr ⟨t, ht, hrest⟩,
          by rw [otherSteps_cons_server hl', hothers], ha⟩
      · exact hgo s' hsame hs' (fun heq hserver => hwaits ⟨heq, hserver⟩)

/-- A property of states comes to hold with a step of a life, after some steps of the others. -/
def ComesToHold (p : State → Prop) (n : Nat) (ls before : List Label) (l : Label) : Prop :=
  ∃ pre post m m', ls = pre ++ l :: post ∧ otherSteps pre = before ∧ (born n).run pre = some m ∧
    m.step l = some m' ∧ ¬p m ∧ p m'

/-- What does not hang on the server comes to hold at the same step of two lives. -/
lemma comesToHold_of_otherSteps {p : State → Prop} {n : Nat} {ls ls' before : List Label}
    {l : Label} {s' : State} (hp : ∀ m m', apart m = apart m' → p m → p m')
    (h' : (born n).run ls' = some s') (hls : otherSteps ls' = otherSteps ls)
    (h : ComesToHold p n ls before l) : ComesToHold p n ls' before l := by
  obtain ⟨pre, post, m, m', rfl, rfl, hpre, hstep, hnot, hholds⟩ := h
  rw [step_eq_some_iff] at hstep
  cases hl : byServer l with
  | true => exact absurd (hp m' m (apart_of_serverStep hstep hl) hholds) hnot
  | false =>
    rw [otherSteps_append, otherSteps_cons_other hl] at hls
    obtain ⟨first, second, rfl, hfirst, hsecond⟩ := List.filter_eq_append_iff.mp hls
    obtain ⟨quiet, post', rfl, hquiet, -⟩ := otherSteps_eq_cons hsecond
    have hothers : otherSteps (first ++ quiet) = otherSteps pre := by
      rw [otherSteps_append, hquiet, List.append_nil]
      exact hfirst
    rw [← List.append_assoc, run_append, Option.bind_eq_some_iff] at h'
    obtain ⟨t, ht, hrest⟩ := h'
    obtain ⟨t', hstep', -⟩ := run_cons.mp hrest
    have hsame : apart m = apart t := apart_eq_of_run rfl hpre ht hothers
    have hsame' : apart m' = apart t' := apart_eq_of_step hsame hstep hstep' hl
    exact ⟨first ++ quiet, post', t, t', by simp, hothers, ht, step_eq_some_iff.mpr hstep',
      fun hbefore => hnot (hp t m hsame.symm hbefore), hp m' t' hsame' hholds⟩

lemma comesToHold_iff {p : State → Prop} {n : Nat} {ls ls' before : List Label} {l : Label}
    {s s' : State} (hp : ∀ m m', apart m = apart m' → p m → p m') (h : (born n).run ls = some s)
    (h' : (born n).run ls' = some s') (hls : otherSteps ls' = otherSteps ls) :
    ComesToHold p n ls' before l ↔ ComesToHold p n ls before l :=
  ⟨comesToHold_of_otherSteps hp h hls.symm, comesToHold_of_otherSteps hp h' hls⟩

lemma exists_split_of_otherSteps {ls ls' : List Label} (h : otherSteps ls' <+: otherSteps ls) :
    ∃ pre post, ls = pre ++ post ∧ otherSteps pre = otherSteps ls' := by
  obtain ⟨others, hothers⟩ := h
  obtain ⟨pre, post, hls, hpre, -⟩ := List.filter_eq_append_iff.mp hothers.symm
  exact ⟨pre, post, hls, hpre⟩

/-- A life that has been in line with another one so far can be in line with it to its end. -/
lemma exists_rest_of_otherSteps {n : Nat} {ls ls' : List Label} {s s' : State}
    (h : (born n).run ls = some s) (h' : (born n).run ls' = some s')
    (hls : otherSteps ls' <+: otherSteps ls) (e : ServerEnd) :
    ∃ rest s'', EndsWhenStopped e s' rest ∧ s'.run rest = some s'' ∧
      otherSteps (ls' ++ rest) = otherSteps ls ∧ apart s'' = apart s := by
  obtain ⟨pre, post, rfl, hpre⟩ := exists_split_of_otherSteps hls
  rw [run_append, Option.bind_eq_some_iff] at h
  obtain ⟨m, hm, hpost⟩ := h
  have hsame : apart m = apart s' := apart_eq_of_run rfl hm h' hpre.symm
  obtain ⟨rest, s'', hends, hrest, hothers, hs''⟩ :=
    exists_run_of_apart hsame (lawful_of_run h') hpost e
  exact ⟨rest, s'', hends, hrest, by rw [otherSteps_append, otherSteps_append, hothers, hpre],
    hs''.symm⟩

/-- Two lives of a process with any servers, in which the others take the same steps. They come to
the same stage with the same outcome, announce the same states, and look the same but for the
server; the signal closes and the driver returns at the same step. If one of them has gone some way,
then the other can go it too, however its server ends, where the server need not end by itself
before the stop signal has closed. And no step of a server closes the signal or ends the driver. -/
theorem server_isolation {n : Nat} {ls ls' : List Label} {s s' : State}
    (h : (born n).run ls = some s) (h' : (born n).run ls' = some s') :
    (otherSteps ls' = otherSteps ls →
      s'.stage = s.stage ∧ announcements s'.log = announcements s.log ∧ apart s' = apart s ∧
      ∀ before l,
        (ComesToHold (fun m => m.signal.closed = true) n ls' before l ↔
          ComesToHold (fun m => m.signal.closed = true) n ls before l) ∧
        (ComesToHold (fun m => m.driverReturned = true) n ls' before l ↔
          ComesToHold (fun m => m.driverReturned = true) n ls before l)) ∧
    (otherSteps ls' <+: otherSteps ls → ∀ e, ∃ rest s'',
      EndsWhenStopped e s' rest ∧ s'.run rest = some s'' ∧
      otherSteps (ls' ++ rest) = otherSteps ls ∧ apart s'' = apart s) ∧
    (∀ l m, byServer l = true → s.step l = some m →
      m.signal = s.signal ∧ m.driverReturned = s.driverReturned) := by
  refine ⟨?_, exists_rest_of_otherSteps h h', ?_⟩
  · intro hls
    have hsame : apart s' = apart s := (apart_eq_of_run rfl h h' hls).symm
    refine ⟨stage_of_apart hsame, ?_, hsame, ?_⟩
    · rw [← announcements_apart s', ← announcements_apart s, hsame]
    · intro before l
      refine ⟨comesToHold_iff ?_ h h' hls, comesToHold_iff ?_ h h' hls⟩
      · intro m m' hm hclosed
        rwa [← signal_of_apart hm]
      · intro m m' hm hreturned
        rwa [← driverReturned_of_apart hm]
  · intro l m hl hstep
    have hsame := apart_of_serverStep (step_of_eq_some hstep) hl
    exact ⟨signal_of_apart hsame, driverReturned_of_apart hsame⟩

/-- A life whose server serves until it is told to stop. -/
def servedLife : List Label := [
  .spawn, .announce, .terminate (.signal "SIGTERM"), .seeStop, .driverReady, .pollDriver,
  .watcherFinish, .proceed, .joinWatcher, .proceed, .serverEnd .finished, .joinServer]

/-- The same life with a server that panics before anything else happens. -/
def unservedLife : List Label := [
  .spawn, .serverEnd (.panicked "boom"), .announce, .terminate (.signal "SIGTERM"), .seeStop,
  .driverReady, .pollDriver, .watcherFinish, .proceed, .joinWatcher, .proceed, .joinServer]

theorem server_isolation_unservedLife : ∃ s s', (born 0).run servedLife = some s ∧
    (born 0).run unservedLife = some s' ∧ s.stage = .returned (.ok ()) ∧
    s'.stage = .returned (.ok ()) ∧ s'.log ≠ s.log ∧
    announcements s'.log = [.running, .shuttingDown, .stopped] := by
  have h : (born 0).run servedLife = some (((born 0).run servedLife).get rfl) := rfl
  have h' : (born 0).run unservedLife = some (((born 0).run unservedLife).get rfl) := rfl
  obtain ⟨hstage, hannounced, -⟩ := (server_isolation h h').1 (by decide)
  have hreturned : (((born 0).run servedLife).get rfl).stage = .returned (.ok ()) := rfl
  refine ⟨_, _, h, h', hreturned, hstage.trans hreturned, ?_, hannounced.trans rfl⟩
  decide

end Autoscaler.Proofs
