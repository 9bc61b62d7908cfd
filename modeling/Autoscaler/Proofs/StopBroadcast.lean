import Autoscaler.Proofs.Runs
import Autoscaler.StopSignal

/-!
# The stop signal as a broadcast

Whatever is done with a signal and its views, and in whatever order: only the first close closes, all
views agree on whether the signal is closed, and a wait is over if and only if the signal was closed
or its controller is gone. The invariant behind it is what a wait on its way to sleep has seen: the
version before the close, so that a close is a change that it finds, and asleep it is woken.
-/

namespace Autoscaler.StopSignal

/-- The only change of a signal is its close. -/
def Counted (s : StopSignal) : Prop := s.version = if s.closed then 1 else 0

namespace View

/-- What the wait on a view has seen. It went on from a look at the open signal, and it sleeps unwoken
only while nothing has happened. -/
def Keeps (s : StopSignal) (v : View) : Prop :=
  match v.wait with
  | none => True
  | some .looking => True
  | some .asking => v.seen = 0
  | some (.asleep woken) => v.seen = 0 ∧ (woken = false → s.releases = false)

/-- A bound on the steps after which a wait on a released signal is over. -/
def stepsLeft (s : StopSignal) (v : View) : Nat :=
  match v.wait with
  | none => 0
  | some .looking => if s.closed then 1 else 3
  | some .asking => 2
  | some (.asleep _) => 3

variable {s s' : StopSignal} {v : View}

lemma keeps_of_none (h : v.wait = none) : v.Keeps s := by
  rw [Keeps, h]
  trivial

lemma keeps_wake (h : v.Keeps s) : v.wake.Keeps s' := by
  obtain ⟨seen, _ | _ | _ | woken⟩ := v
  · trivial
  · trivial
  · exact h
  · exact ⟨h.1, nofun⟩

lemma stepsLeft_wake : v.wake.stepsLeft s = v.stepsLeft s := by
  obtain ⟨seen, _ | _ | _ | woken⟩ := v <;> rfl

lemma stepsLeft_congr (h : s'.closed = s.closed) : v.stepsLeft s' = v.stepsLeft s := by
  obtain ⟨seen, _ | _ | _ | woken⟩ := v <;> simp only [stepsLeft, h]

lemma stepsLeft_le (v : View) : v.stepsLeft s ≤ 3 := by
  obtain ⟨seen, _ | _ | _ | woken⟩ := v <;> simp only [stepsLeft] <;> grind

lemma stepsLeft_pos (h : v.wait.isSome = true) : 0 < v.stepsLeft s := by
  obtain ⟨seen, _ | _ | _ | woken⟩ := v <;> simp only [stepsLeft] <;> grind

lemma keeps_proceed (hs : s.Counted) (h : v.Keeps s) : (v.proceed s).Keeps s := by
  obtain ⟨seen, _ | _ | _ | _ | _⟩ := v
  · trivial
  · -- A look at the open signal sees the version before the close.
    cases hclosed : s.closed <;> simp_all [Counted, Keeps, proceed]
  · by_cases hseen : s.version = seen <;> cases hcontrolled : s.controlled <;>
      simp_all [Counted, Keeps, proceed, releases]
  · exact h
  · exact h.1

lemma keeps_poll (hs : s.Counted) (h : v.Keeps s) : (v.poll s).Keeps s := by
  have hsteps (n : Nat) : (Nat.repeat (proceed s) n v).Keeps s := by
    induction n with
    | zero => exact h
    | succ n ih => exact keeps_proceed hs ih
  exact hsteps 5

lemma releases_of_proceed (hw : v.wait.isSome = true) (h : (v.proceed s).wait = none) :
    s.releases = true := by
  obtain ⟨seen, _ | _ | _ | _ | _⟩ := v <;> simp [proceed] at h hw
  · simp [releases, h]
  · split at h <;> simp_all [releases]

lemma poll_eq_none_iff (hs : s.Counted) (hk : v.Keeps s) (hw : v.wait.isSome = true) :
    (v.poll s).wait = none ↔ s.releases = true := by
  obtain ⟨closed, controlled, version⟩ := s
  obtain ⟨seen, _ | _ | _ | _ | _⟩ := v <;> cases closed <;> cases controlled <;>
    simp_all [Counted, Keeps, poll, Nat.repeat, proceed, releases]

/-- A poll that does not end a wait leaves it asleep, to be woken by what comes. -/
lemma poll_asleep (hs : s.Counted) (hk : v.Keeps s) (hw : v.wait.isSome = true)
    (hr : s.releases = false) : (v.poll s).wait = some (.asleep false) := by
  obtain ⟨closed, controlled, version⟩ := s
  obtain ⟨seen, _ | _ | _ | _ | _⟩ := v <;> cases closed <;> cases controlled <;>
    simp_all [Counted, Keeps, poll, Nat.repeat, proceed, releases]

lemma stepsLeft_proceed (hs : s.Counted) (hk : v.Keeps s) (hr : s.releases = true)
    (hw : v.wait.isSome = true) : (v.proceed s).stepsLeft s < v.stepsLeft s := by
  obtain ⟨closed, controlled, version⟩ := s
  obtain ⟨seen, _ | _ | _ | _ | _⟩ := v <;> cases closed <;> cases controlled <;>
    simp_all [Counted, Keeps, proceed, releases, stepsLeft]

end View

namespace Hub

/-! ### Views in a hub -/

section Views

variable {h : Hub} {i j : Nat} {v w : View}

lemma mem_of_view? (hv : h.view? i = some v) : some v ∈ h.views :=
  List.mem_of_getElem? (Option.join_eq_some_iff.mp hv)

lemma mem_setView (hw : some w ∈ (h.setView i v).views) : w = v ∨ some w ∈ h.views :=
  (List.mem_or_eq_of_mem_set hw).symm.imp_left Option.some.inj

lemma view?_setView_self (hw : h.view? i = some w) : (h.setView i v).view? i = some v := by
  obtain ⟨hi, -⟩ := List.getElem?_eq_some_iff.mp (Option.join_eq_some_iff.mp hw)
  rw [view?, setView, List.getElem?_set_self hi]
  rfl

lemma view?_setView_ne (hij : i ≠ j) : (h.setView i v).view? j = h.view? j := by
  rw [view?, setView, List.getElem?_set_ne hij]
  rfl

lemma view?_wakeAll : h.wakeAll.view? i = (h.view? i).map View.wake := by
  simp only [view?, wakeAll, List.getElem?_map]
  cases h.views[i]? <;> rfl

lemma mem_wakeAll (hw : some w ∈ h.wakeAll.views) : ∃ v, some v ∈ h.views ∧ v.wake = w := by
  obtain ⟨_ | v, hv, hwake⟩ := List.mem_map.mp hw
  · cases hwake
  · exact ⟨v, hv, Option.some.inj hwake⟩

/-- A view that is added without a wait is not one that is waited on. -/
lemma view?_addView (hv : v.wait = none) (hw : (h.addView v).1.view? i = some w)
    (hwait : w.wait.isSome = true) : h.view? i = some w := by
  rcases Nat.lt_or_ge i h.views.length with hi | hi
  · rwa [view?, addView, List.getElem?_append_left hi] at hw
  · rw [view?, addView, List.getElem?_append_right hi, List.getElem?_singleton] at hw
    split at hw
    · obtain rfl := Option.some.inj hw
      rw [hv] at hwait
      cases hwait
    · cases hw

lemma mem_addView (hw : some w ∈ (h.addView v).1.views) : w = v ∨ some w ∈ h.views := by
  rcases List.mem_append.mp hw with hw | hw
  · exact .inr hw
  · exact .inl (Option.some.inj (List.mem_singleton.mp hw))

lemma view?_drop (hw : (h.drop i).view? j = some w) : h.view? j = some w := by
  rcases eq_or_ne i j with rfl | hij
  · rw [view?, drop, List.getElem?_set_self'] at hw
    cases hi : h.views[i]? <;> simp [hi] at hw
  · rwa [view?, drop, List.getElem?_set_ne hij] at hw

lemma mem_drop (hw : some w ∈ (h.drop i).views) : some w ∈ h.views :=
  (List.mem_or_eq_of_mem_set hw).resolve_right nofun

end Views

/-! ### What calls do -/

/-- What a call does and replies. -/
inductive Step (h : Hub) : Call → Hub → Reply → Prop
  | close (hc : h.signal.controlled = true) (ho : h.signal.closed = false) :
    Step h .close
      { h.wakeAll with
        signal := { h.signal with closed := true, version := h.signal.version + 1 }
        log := closeLog :: h.log }
      (.flag true)
  | closeAgain (hc : h.signal.controlled = true) (ho : h.signal.closed = true) :
    Step h .close h (.flag false)
  | dropController : Step h .dropController h.dropController .nothing
  | subscribe (hc : h.signal.controlled = true) :
    Step h .subscribe (h.addView h.signal.subscribe).1 (.view h.views.length)
  | clone (i : Nat) (v : View) (hv : h.view? i = some v) :
    Step h (.clone i) (h.addView { v with wait := none }).1 (.view h.views.length)
  | check (i : Nat) (v : View) (hv : h.view? i = some v) :
    Step h (.check i) h (.flag h.signal.closed)
  | begin (i : Nat) (v : View) (hv : h.view? i = some v) (hw : v.wait = none) :
    Step h (.begin i) (h.setView i { v with wait := some .looking }) .nothing
  | proceed (i : Nat) (v : View) (hv : h.view? i = some v) (hw : v.wait.isSome = true) :
    Step h (.proceed i) (h.setView i (v.proceed h.signal)) (.flag (v.proceed h.signal).wait.isNone)
  | poll (i : Nat) (v : View) (hv : h.view? i = some v) (hw : v.wait.isSome = true) :
    Step h (.poll i) (h.setView i (v.poll h.signal)) (.flag (v.poll h.signal).wait.isNone)
  | abandon (i : Nat) (v : View) (hv : h.view? i = some v) :
    Step h (.abandon i) (h.setView i { v with wait := none }) .nothing
  | drop (i : Nat) : Step h (.drop i) (h.drop i) .nothing

section Step

variable {h h' : Hub} {c : Call} {r : Reply} {i : Nat} {v : View}

lemma move?_eq_some {move : StopSignal → View → View} {ended : Bool} :
    h.move? move i = some (h', ended) ↔ ∃ v, h.view? i = some v ∧ v.wait.isSome = true ∧
      h' = h.setView i (move h.signal v) ∧ ended = (move h.signal v).wait.isNone := by
  rw [move?, Option.bind_eq_some_iff]
  refine exists_congr fun v => and_congr_right fun _ => ?_
  cases v.wait.isSome <;> simp [eq_comm]

lemma step_of_call? (hcall : h.call? c = some (h', r)) : Step h c h' r := by
  cases c with
  | close =>
    obtain ⟨⟨m, first⟩, hclose, heq⟩ := Option.map_eq_some_iff.mp hcall
    cases heq
    rw [close?] at hclose
    split at hclose
    next hc =>
      cases ho : h.signal.closed with
      | false =>
        rw [StopSignal.close, ho] at hclose
        cases hclose
        exact .close hc ho
      | true =>
        rw [StopSignal.close, ho] at hclose
        cases hclose
        exact .closeAgain hc ho
    next => cases hclose
  | dropController => cases hcall; exact .dropController
  | subscribe =>
    obtain ⟨⟨m, n⟩, hsubscribe, heq⟩ := Option.map_eq_some_iff.mp hcall
    cases heq
    rw [subscribe?] at hsubscribe
    split at hsubscribe
    next hc => cases hsubscribe; exact .subscribe hc
    next => cases hsubscribe
  | clone i =>
    obtain ⟨⟨m, n⟩, hclone, heq⟩ := Option.map_eq_some_iff.mp hcall
    cases heq
    obtain ⟨v, hv, heq⟩ := Option.map_eq_some_iff.mp hclone
    cases heq
    exact .clone i v hv
  | check i =>
    obtain ⟨b, hcheck, heq⟩ := Option.map_eq_some_iff.mp hcall
    cases heq
    obtain ⟨v, hv, rfl⟩ := Option.map_eq_some_iff.mp hcheck
    exact .check i v hv
  | begin i =>
    obtain ⟨m, hbegin, heq⟩ := Option.map_eq_some_iff.mp hcall
    cases heq
    obtain ⟨v, hv, hbegin⟩ := Option.bind_eq_some_iff.mp hbegin
    split at hbegin
    next => cases hbegin
    next hw => cases hbegin; exact .begin i v hv (by simpa using hw)
  | proceed i =>
    obtain ⟨⟨m, ended⟩, hmove, heq⟩ := Option.map_eq_some_iff.mp hcall
    cases heq
    obtain ⟨v, hv, hw, rfl, rfl⟩ := move?_eq_some.mp hmove
    exact .proceed i v hv hw
  | poll i =>
    obtain ⟨⟨m, ended⟩, hmove, heq⟩ := Option.map_eq_some_iff.mp hcall
    cases heq
    obtain ⟨v, hv, hw, rfl, rfl⟩ := move?_eq_some.mp hmove
    exact .poll i v hv hw
  | abandon i =>
    obtain ⟨m, habandon, heq⟩ := Option.map_eq_some_iff.mp hcall
    cases heq
    obtain ⟨v, hv, rfl⟩ := Option.map_eq_some_iff.mp habandon
    exact .abandon i v hv
  | drop i => cases hcall; exact .drop i

lemma run_concat {calls : List Call} {h₀ : Hub} : h₀.run (calls ++ [c]) = some h' ↔
    ∃ h, h₀.run calls = some h ∧ ∃ r, h.call? c = some (h', r) := by
  rw [run, Runs.foldlM_concat]
  simp only [Option.map_eq_some_iff, Prod.exists, exists_and_right, exists_eq_right]
  rfl

lemma run_append {calls calls' : List Call} {h₀ h : Hub} (hrun : h₀.run calls = some h)
    (hrun' : h.run calls' = some h') : h₀.run (calls ++ calls') = some h' := by
  rw [run, List.foldlM_append]
  exact Option.bind_eq_some_iff.mpr ⟨h, hrun, hrun'⟩

/-- What holds at the start and is kept by each call holds after each run. -/
lemma run_induction {h₀ : Hub} {P : List Call → Hub → Prop} (hinit : P [] h₀)
    (hstep : ∀ calls c h h' r, h₀.run calls = some h → P calls h → Step h c h' r →
      P (calls ++ [c]) h')
    {calls : List Call} (hrun : h₀.run calls = some h) : P calls h := by
  refine Runs.foldlM_induction hinit (fun calls c m m' hm ih hnext => ?_) hrun
  obtain ⟨⟨next, r⟩, hcall, rfl⟩ := Option.map_eq_some_iff.mp hnext
  exact hstep calls c m next r hm ih (step_of_call? hcall)

end Step

/-! ### The invariant -/

/-- What a hub shows of the calls that were made. -/
structure Broadcast (calls : List Call) (h : Hub) : Prop where
  closed : h.signal.closed = true ↔ .close ∈ calls
  controlled : h.signal.controlled = true ↔ .dropController ∉ calls
  counted : h.signal.Counted
  keeps : ∀ v, some v ∈ h.views → v.Keeps h.signal

section Broadcast

variable {calls : List Call} {h h' : Hub} {c : Call} {r : Reply} {i : Nat} {v : View}

lemma broadcast_start : Broadcast [] {} where
  closed := by decide
  controlled := by decide
  counted := rfl
  keeps v hv := by
    obtain rfl := Option.some.inj (List.mem_singleton.mp hv)
    trivial

lemma Broadcast.releases_iff (hb : Broadcast calls h) :
    h.signal.releases = true ↔ .close ∈ calls ∨ .dropController ∈ calls := by
  rw [releases, Bool.or_eq_true, hb.closed, Bool.not_eq_true', ← Bool.not_eq_true, hb.controlled,
    not_not]

/-- A call that leaves the signal alone and adds no view that would not keep. -/
lemma Broadcast.same_signal (hb : Broadcast calls h) (hc : c ≠ .close) (hd : c ≠ .dropController)
    (hsignal : h'.signal = h.signal)
    (hviews : ∀ w, some w ∈ h'.views → w.Keeps h.signal ∨ some w ∈ h.views) :
    Broadcast (calls ++ [c]) h' where
  closed := by simp [hsignal, hb.closed, hc.symm]
  controlled := by simp [hsignal, hb.controlled, hd.symm]
  counted := by rw [hsignal]; exact hb.counted
  keeps w hw := by
    rw [hsignal]
    exact (hviews w hw).elim id (hb.keeps w)

lemma Broadcast.step (hb : Broadcast calls h) (hstep : Step h c h' r) :
    Broadcast (calls ++ [c]) h' := by
  have hset {v w : View} {i : Nat} (hv : v.Keeps h.signal) (hw : some w ∈ (h.setView i v).views) :
      w.Keeps h.signal ∨ some w ∈ h.views := by
    rcases mem_setView hw with rfl | hw
    · exact .inl hv
    · exact .inr hw
  have hadd {v w : View} (hv : v.wait = none) (hw : some w ∈ (h.addView v).1.views) :
      w.Keeps h.signal ∨ some w ∈ h.views := by
    rcases mem_addView hw with rfl | hw
    · exact .inl (View.keeps_of_none hv)
    · exact .inr hw
  have hwake {s : StopSignal} : ∀ w, some w ∈ h.wakeAll.views → w.Keeps s := fun w hw => by
    obtain ⟨v, hv, rfl⟩ := mem_wakeAll hw
    exact View.keeps_wake (hb.keeps v hv)
  cases hstep with
  | close hc ho =>
    have hversion : h.signal.version = 0 := by simpa [Counted, ho] using hb.counted
    exact ⟨by simp, by simp [hb.controlled], by simp [Counted, hversion], hwake⟩
  | closeAgain hc ho =>
    exact ⟨by simp [ho], by simp [hb.controlled], hb.counted, hb.keeps⟩
  | dropController =>
    refine ⟨?_, by simp [Hub.dropController, StopSignal.dropController], hb.counted, hwake⟩
    simpa [Hub.dropController, StopSignal.dropController] using hb.closed
  | subscribe hc => exact hb.same_signal nofun nofun rfl fun w => hadd rfl
  | clone i v hv => exact hb.same_signal nofun nofun rfl fun w => hadd rfl
  | check i v hv => exact hb.same_signal nofun nofun rfl fun w hw => .inr hw
  | begin i v hv hw =>
    have hkeeps : View.Keeps h.signal { v with wait := some .looking } := trivial
    exact hb.same_signal nofun nofun rfl fun w => hset hkeeps
  | proceed i v hv hw =>
    have hkeeps := View.keeps_proceed hb.counted (hb.keeps v (mem_of_view? hv))
    exact hb.same_signal nofun nofun rfl fun w => hset hkeeps
  | poll i v hv hw =>
    have hkeeps := View.keeps_poll hb.counted (hb.keeps v (mem_of_view? hv))
    exact hb.same_signal nofun nofun rfl fun w => hset hkeeps
  | abandon i v hv => exact hb.same_signal nofun nofun rfl fun w => hset (View.keeps_of_none rfl)
  | drop i => exact hb.same_signal nofun nofun rfl fun w hw => .inr (mem_drop hw)

lemma broadcast_of_run (hrun : Hub.run {} calls = some h) : Broadcast calls h :=
  run_induction broadcast_start (fun _ _ _ _ _ _ hb hstep => hb.step hstep) hrun

/-- Once the signal is released, whatever is done brings a wait no further from its end, and each of
its own steps brings it nearer. -/
lemma stepsLeft_of_step (hb : Broadcast calls h) (hr : h.signal.releases = true)
    (hstep : Step h c h' r) (hc : c ≠ .begin i) {v' : View} (hv' : h'.view? i = some v')
    (hw' : v'.wait.isSome = true) : ∃ v, h.view? i = some v ∧ v.wait.isSome = true ∧
      [c].count (.proceed i) + v'.stepsLeft h'.signal ≤ v.stepsLeft h.signal := by
  have hsame (hv : h.view? i = some v') (hcount : [c].count (.proceed i) = 0) :
      ∃ v, h.view? i = some v ∧ v.wait.isSome = true ∧
        [c].count (.proceed i) + v'.stepsLeft h.signal ≤ v.stepsLeft h.signal :=
    ⟨v', hv, hw', by omega⟩
  cases hstep with
  | close hcontrolled ho => simp [releases, hcontrolled, ho] at hr
  | closeAgain hcontrolled ho => exact hsame hv' rfl
  | dropController =>
    have hwake : (h.view? i).map View.wake = some v' := view?_wakeAll.symm.trans hv'
    obtain ⟨v, hv, rfl⟩ := Option.map_eq_some_iff.mp hwake
    have hsteps : v.wake.stepsLeft h.dropController.signal = v.stepsLeft h.signal :=
      View.stepsLeft_wake.trans (View.stepsLeft_congr rfl)
    have hwait : v.wait.isSome = true := by simpa [View.wake] using hw'
    exact ⟨v, hv, hwait, by rw [hsteps]; exact Nat.le_of_eq (Nat.zero_add _)⟩
  | subscribe hcontrolled => exact hsame (view?_addView rfl hv' hw') rfl
  | clone j v hv => exact hsame (view?_addView rfl hv' hw') (by simp)
  | check j v hv => exact hsame hv' (by simp)
  | begin j v hv hw =>
    have hij : j ≠ i := fun hij => hc (hij ▸ rfl)
    rw [view?_setView_ne hij] at hv'
    exact hsame hv' (by simp)
  | proceed j v hv hw =>
    by_cases hij : j = i
    · subst hij
      obtain rfl := Option.some.inj ((view?_setView_self hv).symm.trans hv')
      have hkeeps := hb.keeps v (mem_of_view? hv)
      have hnearer : (v.proceed h.signal).stepsLeft h.signal < v.stepsLeft h.signal :=
        View.stepsLeft_proceed hb.counted hkeeps hr hw
      refine ⟨v, hv, hw, ?_⟩
      rw [List.count_singleton_self]
      exact Nat.one_add_le_iff.mpr hnearer
    · rw [view?_setView_ne hij] at hv'
      exact hsame hv' (by simp [hij])
  | poll j v hv hw =>
    by_cases hij : j = i
    · subst hij
      obtain rfl := Option.some.inj ((view?_setView_self hv).symm.trans hv')
      have hkeeps := hb.keeps v (mem_of_view? hv)
      rw [(View.poll_eq_none_iff hb.counted hkeeps hw).mpr hr] at hw'
      cases hw'
    · rw [view?_setView_ne hij] at hv'
      exact hsame hv' (by simp)
  | abandon j v hv =>
    by_cases hij : j = i
    · subst hij
      obtain rfl := Option.some.inj ((view?_setView_self hv).symm.trans hv')
      cases hw'
    · rw [view?_setView_ne hij] at hv'
      exact hsame hv' (by simp)
  | drop j => exact hsame (view?_drop hv') (by simp)

lemma wait?_isSome_iff : (h.wait? i).isSome = true ↔
    ∃ v, h.view? i = some v ∧ v.wait.isSome = true := by
  rw [wait?]
  cases h.view? i <;> simp

/-- A wait on a released signal is over before it has taken three steps. -/
lemma count_proceed_lt (hrun : Hub.run {} calls = some h) (hr : h.signal.releases = true)
    {more : List Call} (hmore : h.run more = some h') (hbegin : .begin i ∉ more)
    (hw' : (h'.wait? i).isSome = true) : more.count (.proceed i) < 3 := by
  have hsteps : ∀ v', h'.view? i = some v' → v'.wait.isSome = true →
      more.count (.proceed i) + v'.stepsLeft h'.signal ≤ 3 := by
    refine run_induction (P := fun more m => .begin i ∉ more → ∀ v', m.view? i = some v' →
      v'.wait.isSome = true → more.count (.proceed i) + v'.stepsLeft m.signal ≤ 3) ?_ ?_ hmore hbegin
    · intro _ v' _ _
      rw [List.count_nil, Nat.zero_add]
      exact View.stepsLeft_le v'
    · intro more c m m' r hm ih hstep hbegin v' hv' hw'
      rw [List.mem_append, not_or, List.mem_singleton] at hbegin
      have hb := broadcast_of_run (run_append hrun hm)
      have hreleased : m.signal.releases = true := by
        rw [hb.releases_iff, List.mem_append, List.mem_append]
        exact ((broadcast_of_run hrun).releases_iff.mp hr).imp .inl .inl
      obtain ⟨v, hv, hw, hnearer⟩ := stepsLeft_of_step hb hreleased hstep (Ne.symm hbegin.2) hv' hw'
      have hbefore := ih hbegin.1 v hv hw
      rw [List.count_append]
      omega
  obtain ⟨v', hv', hwait⟩ := wait?_isSome_iff.mp hw'
  have hpos : 0 < v'.stepsLeft h'.signal := View.stepsLeft_pos hwait
  have hle := hsteps v' hv' hwait
  omega

lemma reply?_close (hb : Broadcast calls h) : h.reply? .close =
    if .dropController ∈ calls then none else some (.flag (decide (.close ∉ calls))) := by
  have hcontrolled : h.signal.controlled = decide (.dropController ∉ calls) := by
    rw [Bool.eq_iff_iff, hb.controlled, decide_eq_true_iff]
  have hclosed : h.signal.closed = decide (.close ∈ calls) := by
    rw [Bool.eq_iff_iff, hb.closed, decide_eq_true_iff]
  rw [reply?, call?, close?, hcontrolled, StopSignal.close, hclosed]
  by_cases hdropped : .dropController ∈ calls <;> by_cases hcalled : .close ∈ calls <;>
    simp [hdropped, hcalled]

lemma move?_of_wait {move : StopSignal → View → View} (hv : h.view? i = some v)
    (hw : v.wait.isSome = true) :
    h.move? move i = some (h.setView i (move h.signal v), (move h.signal v).wait.isNone) :=
  move?_eq_some.mpr ⟨v, hv, hw, rfl, rfl⟩

end Broadcast

/-- A call gives the number of a new view, on which nothing waits, and leaves the others as they
are. -/
def Yields (h : Hub) (c : Call) : Prop :=
  ∃ h' i v, h.call? c = some (h', .view i) ∧ h.view? i = none ∧ h'.view? i = some v ∧
    v.wait = none ∧ ∀ j, j ≠ i → h'.view? j = h.view? j

lemma yields_of_addView {h : Hub} {c : Call} {v : View} (hv : v.wait = none)
    (hcall : h.call? c = some ((h.addView v).1, .view h.views.length)) : h.Yields c := by
  refine ⟨_, _, v, hcall, ?_, ?_, hv, ?_⟩
  · simp [view?]
  · simp [view?, addView]
  · intro j hj
    rcases Nat.lt_or_gt_of_ne hj with hlt | hgt
    · rw [view?, addView, List.getElem?_append_left hlt, view?]
    · have hlen : (h.views ++ [some v]).length ≤ j := by
        rw [List.length_append]
        exact hgt
      rw [view?, addView, List.getElem?_eq_none hlen, view?,
        List.getElem?_eq_none (Nat.le_of_lt hgt)]

/-- Whatever was done with a signal, its controller and its views, in any order. While there is the
controller, a close tells that it is the first exactly if it is, and a further view can be had from
it; another can be had from any view. Every view says that the signal is closed exactly if it was
closed. A wait can begin on any view and always go on. A poll ends it exactly if the signal was closed
or the controller is gone, and else leaves it asleep; between two steps of a wait anything may happen,
and still no step ends it before that, no wait sleeps on after it, and once it has happened the wait
is over before it has taken three more steps, whatever else is done meanwhile. -/
theorem stop_broadcast {calls : List Call} {h : Hub} (hrun : Hub.run {} calls = some h) :
    h.reply? .close =
      (if .dropController ∈ calls then none else some (.flag (decide (.close ∉ calls)))) ∧
    (∀ i v, h.view? i = some v → h.reply? (.check i) = some (.flag (decide (.close ∈ calls)))) ∧
    (.dropController ∉ calls → h.Yields .subscribe) ∧
    (∀ i v, h.view? i = some v → h.Yields (.clone i)) ∧
    (∀ i v, h.view? i = some v → v.wait = none → h.reply? (.begin i) = some .nothing) ∧
    ∀ i, (h.wait? i).isSome = true →
      h.reply? (.poll i) =
        some (.flag (decide (.close ∈ calls ∨ .dropController ∈ calls))) ∧
      (∀ h', h.call? (.poll i) = some (h', .flag false) → h'.wait? i = some (.asleep false)) ∧
      (∃ ended, h.reply? (.proceed i) = some (.flag ended) ∧
        (ended = true → .close ∈ calls ∨ .dropController ∈ calls)) ∧
      (h.wait? i = some (.asleep false) → ¬(.close ∈ calls ∨ .dropController ∈ calls)) ∧
      (.close ∈ calls ∨ .dropController ∈ calls → ∀ more h', h.run more = some h' →
        .begin i ∉ more → (h'.wait? i).isSome = true → more.count (.proceed i) < 3) := by
  have hb := broadcast_of_run hrun
  refine ⟨reply?_close hb, fun i v hv => ?_, fun hdrop => ?_, fun i v hv => ?_,
    fun i v hv hw => ?_, fun i hwait => ?_⟩
  · have hclosed : h.signal.closed = decide (.close ∈ calls) := by
      rw [Bool.eq_iff_iff, hb.closed, decide_eq_true_iff]
    rw [reply?, call?, isClosed?, hv, ← hclosed]
    rfl
  · have hcontrolled : h.signal.controlled = true := hb.controlled.mpr hdrop
    refine yields_of_addView (v := h.signal.subscribe) rfl ?_
    rw [call?, subscribe?, if_pos hcontrolled]
    rfl
  · refine yields_of_addView (v := { v with wait := none }) rfl ?_
    rw [call?, clone?, hv]
    rfl
  · rw [reply?, call?, begin?, hv, Option.bind_some, hw]
    rfl
  · obtain ⟨v, hv, hw⟩ := wait?_isSome_iff.mp hwait
    have hkeeps := hb.keeps v (mem_of_view? hv)
    refine ⟨?_, fun h' hpoll => ?_, ⟨(v.proceed h.signal).wait.isNone, ?_, fun hended => ?_⟩,
      fun hasleep hreleased => ?_, fun hreleased more h' hmore hbegin hw' => ?_⟩
    · have hended : (v.poll h.signal).wait.isNone =
          decide (.close ∈ calls ∨ .dropController ∈ calls) := by
        rw [Bool.eq_iff_iff, Option.isNone_iff_eq_none, View.poll_eq_none_iff hb.counted hkeeps hw,
          hb.releases_iff, decide_eq_true_iff]
      rw [reply?, call?, move?_of_wait hv hw, ← hended]
      rfl
    · rw [call?, move?_of_wait hv hw, Option.map_some, Option.some.injEq, Prod.mk.injEq] at hpoll
      obtain ⟨rfl, hpending⟩ := hpoll
      have hreleased : h.signal.releases = false := by
        rw [← Bool.not_eq_true, ← View.poll_eq_none_iff hb.counted hkeeps hw,
          ← Option.isNone_iff_eq_none, Reply.flag.inj hpending]
        decide
      rw [wait?, view?_setView_self hv]
      exact View.poll_asleep hb.counted hkeeps hw hreleased
    · rw [reply?, call?, move?_of_wait hv hw]
      rfl
    · rw [← hb.releases_iff]
      exact View.releases_of_proceed hw (Option.isNone_iff_eq_none.mp hended)
    · rw [wait?, hv, Option.bind_some] at hasleep
      rw [View.Keeps, hasleep] at hkeeps
      rw [← hb.releases_iff, hkeeps.2 rfl] at hreleased
      cases hreleased
    · exact count_proceed_lt hrun (hb.releases_iff.mpr hreleased) hmore hbegin hw'

/-- Two waits, one asleep and one that has seen the signal open. -/
def twoWaits : List Call := [.begin 0, .poll 0, .clone 0, .begin 1, .proceed 1]

/-- The signal is closed while the two waits are under way. -/
theorem stop_broadcast_twoWaits : ∃ early h h', Hub.run {} twoWaits = some early ∧
    early.wait? 0 = some (.asleep false) ∧ ¬(.close ∈ twoWaits ∨ .dropController ∈ twoWaits) ∧
    Hub.run {} (twoWaits ++ [.close]) = some h ∧
    h.wait? 0 = some (.asleep true) ∧ h.wait? 1 = some .asking ∧
    h.reply? .close = some (.flag false) ∧ h.reply? (.check 1) = some (.flag true) ∧
    h.reply? (.poll 0) = some (.flag true) ∧ h.reply? (.poll 1) = some (.flag true) ∧
    h.run [.proceed 0, .dropController, .proceed 0] = some h' ∧ h'.wait? 0 = some .looking ∧
    [Call.proceed 0, .dropController, .proceed 0].count (.proceed 0) < 3 := by
  have hearly : Hub.run {} twoWaits = some ((Hub.run {} twoWaits).get rfl) := rfl
  have hrun : Hub.run {} (twoWaits ++ [.close]) =
      some ((Hub.run {} (twoWaits ++ [.close])).get rfl) := rfl
  obtain ⟨-, -, -, -, -, hwaits⟩ := stop_broadcast hearly
  obtain ⟨hclose, hcheck, -, -, -, hclosed⟩ := stop_broadcast hrun
  obtain ⟨-, -, -, hasleep, -⟩ := hwaits 0 rfl
  obtain ⟨hpoll, -, -, -, hsteps⟩ := hclosed 0 rfl
  obtain ⟨hpoll', -⟩ := hclosed 1 rfl
  exact ⟨_, _, _, hearly, rfl, hasleep rfl, hrun, rfl, rfl, hclose, hcheck 1 _ rfl, hpoll, hpoll', rfl,
    rfl, hsteps (by decide) [.proceed 0, .dropController, .proceed 0] _ rfl (by decide) rfl⟩

end Hub
end Autoscaler.StopSignal
