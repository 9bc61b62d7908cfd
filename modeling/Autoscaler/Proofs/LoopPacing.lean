import Autoscaler.Proofs.LoopStop

/-!
# The pace of the control loop

A tick is due one period after the one before it was due, or one period after that was taken if it
was taken late. The loop takes it once it is due and the pass before it has ended. So passes do not
overlap and are not made up for, and the instants at which they begin are a function of how long
they last.
-/

namespace Autoscaler.ControlLoop

lemma le_nextDue_add (period due taken : Nat) :
    taken + period ≤ nextDue period due taken + lateness := by
  unfold nextDue
  split <;> omega

lemma nextDue_le_add {due taken : Nat} (period : Nat) (h : due ≤ taken) :
    nextDue period due taken ≤ taken + period := by
  unfold nextDue
  split <;> omega

/-- When the next tick is due, and since when the loop is free to take it. -/
structure Pace where
  due : Nat
  free : Nat

namespace Pace

/-- When the next tick is taken and its pass begins. -/
def start (timer : Timer) (q : Pace) : Nat := max (timer.fires q.due) q.free

/-- The pace after a pass of a duration. -/
def next (timer : Timer) (period : Nat) (q : Pace) (duration : Nat) : Pace where
  due := nextDue period q.due (q.start timer)
  free := q.start timer + duration

/-- The pace after passes of some durations, if the first tick is due at an instant. -/
def after (timer : Timer) (period due : Nat) (durations : List Nat) : Pace :=
  durations.foldl (next timer period) ⟨due, 0⟩

variable (timer : Timer) (period : Nat) (q : Pace) (duration : Nat)

lemma due_le_start : q.due ≤ q.start timer := (timer.le_fires q.due).trans (le_max_left _ _)

lemma after_concat (due : Nat) (durations : List Nat) :
    after timer period due (durations ++ [duration]) =
      (after timer period due durations).next timer period duration := by
  simp [after, List.foldl_append]

/-- A late tick shifts the next one, so that the lateness allowed is all that a pass can gain on the
one before it. -/
lemma start_add_period_le :
    q.start timer + period ≤ (q.next timer period duration).start timer + lateness := by
  have hdue := due_le_start timer (q.next timer period duration)
  have hnext := le_nextDue_add period q.due (q.start timer)
  simp only [next] at hdue ⊢
  omega

lemma start_next_lt : (q.next timer period duration).start timer <
    q.start timer + max period duration + timerResolution := by
  have hfires := timer.fires_lt (nextDue period q.due (q.start timer))
  have hnext := nextDue_le_add period (q.due_le_start timer)
  have hresolution : 0 < timerResolution := by decide
  simp only [start, next] at hfires hnext ⊢
  omega

lemma free_le_start_next :
    q.start timer + duration ≤ (q.next timer period duration).start timer := le_max_right _ _

end Pace

/-! ### Passes that keep the pace -/

def lasted (begun ended : List Nat) : List Nat :=
  List.zipWith (fun completed begun => completed - begun) ended begun

/-- Passes that begin and end at some instants keep the pace: each begins when the durations of
those before it say, and at most one of them goes on. -/
structure Paced (timer : Timer) (period due : Nat) (begun ended : List Nat) : Prop where
  begins : ∀ k t : Nat, begun[k]? = some t →
    t = (Pace.after timer period due ((lasted begun ended).take k)).start timer
  ends : ∀ k e : Nat, ended[k]? = some e → ∃ b, begun[k]? = some b ∧ b ≤ e
  one : begun.length ≤ ended.length + 1

section Passes

variable {timer : Timer} {period due b e : Nat} {begun ended : List Nat}

lemma getElem?_concat_cases {xs : List Nat} {x y k : Nat} (h : (xs ++ [x])[k]? = some y) :
    xs[k]? = some y ∨ k = xs.length ∧ y = x := by
  rw [List.getElem?_append] at h
  split at h
  next => exact .inl h
  next hk =>
    rw [List.getElem?_singleton, Option.ite_none_right_eq_some, Option.some.injEq] at h
    exact .inr ⟨by omega, h.2.symm⟩

lemma length_lasted (h : begun.length = ended.length) :
    (lasted begun ended).length = ended.length := by
  simp [lasted, h]

lemma lasted_begin (h : begun.length = ended.length) :
    lasted (begun ++ [b]) ended = lasted begun ended := by
  rw [lasted, ← List.append_nil ended, List.zipWith_append h.symm]
  simp [lasted]

lemma lasted_finish (h : begun.length = ended.length) :
    lasted (begun ++ [b]) (ended ++ [e]) = lasted begun ended ++ [e - b] := by
  rw [lasted, List.zipWith_append h.symm]
  rfl

lemma Paced.begin (h : Paced timer period due begun ended) (hlen : begun.length = ended.length)
    (hb : b = (Pace.after timer period due (lasted begun ended)).start timer) :
    Paced timer period due (begun ++ [b]) ended := by
  refine ⟨?_, ?_, by simp [hlen]⟩
  · intro k t ht
    rw [lasted_begin hlen]
    rcases getElem?_concat_cases ht with hold | ⟨rfl, rfl⟩
    · exact h.begins k t hold
    · have hall : (lasted begun ended).length ≤ begun.length := by rw [length_lasted hlen, hlen]
      rw [List.take_of_length_le hall, hb]
  · intro k e he
    obtain ⟨b', hb', hle⟩ := h.ends k e he
    have hk : k < begun.length := (List.getElem?_eq_some_iff.mp hb').1
    exact ⟨b', by rw [List.getElem?_append_left hk, hb'], hle⟩

lemma Paced.finish (h : Paced timer period due (begun ++ [b]) ended)
    (hlen : begun.length = ended.length) (hle : b ≤ e) :
    Paced timer period due (begun ++ [b]) (ended ++ [e]) := by
  refine ⟨?_, ?_, by simp [hlen]⟩
  · intro k t ht
    have hk := (List.getElem?_eq_some_iff.mp ht).1
    rw [List.length_append, List.length_singleton] at hk
    have hle' : k ≤ (lasted begun ended).length := by
      rw [length_lasted hlen]
      omega
    have hbegins := h.begins k t ht
    rw [lasted_begin hlen] at hbegins
    rw [lasted_finish hlen, List.take_append_of_le_length hle', hbegins]
  · intro k e' he
    rcases getElem?_concat_cases he with hold | ⟨rfl, rfl⟩
    · exact h.ends k e' hold
    · exact ⟨b, by rw [← hlen, List.getElem?_concat_length], hle⟩

/-- Each pass but the first follows one that has ended. -/
lemma Paced.pred {k t : Nat} (h : Paced timer period due begun ended)
    (ht : begun[k + 1]? = some t) :
    ∃ b e, begun[k]? = some b ∧ ended[k]? = some e ∧ b ≤ e ∧
      ∃ q : Pace, b = q.start timer ∧ t = (q.next timer period (e - b)).start timer := by
  have hk := (List.getElem?_eq_some_iff.mp ht).1
  have hended : k < ended.length := by have := h.one; omega
  obtain ⟨b, hb, hle⟩ := h.ends k ended[k] (List.getElem?_eq_getElem hended)
  refine ⟨b, ended[k], hb, List.getElem?_eq_getElem hended, hle,
    Pace.after timer period due ((lasted begun ended).take k), h.begins k b hb, ?_⟩
  have hlasted : (lasted begun ended)[k]? = some (ended[k] - b) := by
    simp [lasted, List.getElem?_zipWith, hb, hended]
  rw [h.begins (k + 1) t ht, List.take_add_one, hlasted, Option.toList_some, Pace.after_concat]

end Passes

/-! ### The passes of a run -/

/-- The loop in a state keeps the pace, after passes that began and ended at some instants: as it
waits it is free and not beyond the next start, and otherwise it is in a pass that began in time. -/
def State.KeepsPace (timer : Timer) (period due : Nat) (begun ended : List Nat) (s : State) :
    Prop :=
  let q := Pace.after timer period due (lasted begun ended)
  match s.phase with
  | .waiting => begun.length = ended.length ∧ s.due = q.due ∧ q.free ≤ s.now ∧ s.now ≤ q.start timer
  | .ticked => begun.length = ended.length ∧ s.due = nextDue period q.due s.now ∧
      s.now = q.start timer
  | .scanning p => ∃ older, begun = older ++ [p.begun] ∧ older.length = ended.length ∧
      p.begun ≤ s.now ∧ p.begun = q.start timer ∧ s.due = nextDue period q.due p.begun
  | .stopped => True

variable {opts : RunOptions} {s s' : State} {l : Label} {ls : List Label} {timer : Timer}
  {period due : Nat}

/-- A run up to a state has kept the pace. -/
structure PacedRun (timer : Timer) (period due : Nat) (begun ended : List Nat) (s : State) :
    Prop where
  timer_eq : s.timer = timer
  passes : Paced timer period due begun ended
  keeps : s.KeepsPace timer period due begun ended

section Steps

variable {begun ended : List Nat}

lemma PacedRun.elapse (hs : PacedRun timer period due begun ended s) {nanos : Nat}
    (h : s.mayReach (s.now + nanos) = true) :
    PacedRun timer period due begun ended { s with now := s.now + nanos } := by
  obtain ⟨htimer, hpasses, hkeeps⟩ := hs
  refine ⟨htimer, hpasses, ?_⟩
  unfold State.KeepsPace at hkeeps ⊢
  unfold State.mayReach at h
  cases hphase : s.phase with
  | waiting =>
    simp only [hphase, Bool.and_eq_true, decide_eq_true_eq, htimer] at h hkeeps ⊢
    obtain ⟨hlen, hdue, hfree, -⟩ := hkeeps
    rw [hdue] at h
    exact ⟨hlen, hdue, by omega, h.2.trans (le_max_left _ _)⟩
  | ticked => simp [hphase] at h
  | scanning p =>
    simp only [hphase] at hkeeps ⊢
    obtain ⟨older, hbegun, hlen, hle, hrest⟩ := hkeeps
    exact ⟨older, hbegun, hlen, by omega, hrest⟩
  | stopped => trivial

lemma PacedRun.tick (hs : PacedRun timer period due begun ended s) (hp : s.phase = .waiting)
    (hd : s.timer.fires s.due ≤ s.now) :
    PacedRun timer period due begun ended
      { s with phase := .ticked, due := nextDue period s.due s.now } := by
  obtain ⟨htimer, hpasses, hkeeps⟩ := hs
  refine ⟨htimer, hpasses, ?_⟩
  simp only [State.KeepsPace, hp] at hkeeps ⊢
  obtain ⟨hlen, hdue, hfree, hstart⟩ := hkeeps
  rw [htimer, hdue] at hd
  -- time has not passed beyond the start, and the tick is due: it is taken just then
  exact ⟨hlen, by rw [hdue], le_antisymm hstart (max_le hd hfree)⟩

lemma PacedRun.beginPass (hs : PacedRun timer period due begun ended s) (hp : s.phase = .ticked)
    (group : NodeGroup.Spec) (rest : List NodeGroup.Spec) :
    PacedRun timer period due (begun ++ [s.now]) ended (s.startScan s.now {} group rest) := by
  obtain ⟨htimer, hpasses, hkeeps⟩ := hs
  simp only [State.KeepsPace, hp] at hkeeps
  obtain ⟨hlen, hdue, hnow⟩ := hkeeps
  refine ⟨htimer, hpasses.begin hlen hnow, ?_⟩
  simp only [State.KeepsPace, State.startScan_phase, lasted_begin hlen]
  exact ⟨begun, rfl, hlen, le_rfl, hnow, hdue⟩

lemma PacedRun.finish {m : State} {b : Nat} (htimer : m.timer = timer)
    (hpasses : Paced timer period due (begun ++ [b]) ended) (hlen : begun.length = ended.length)
    (hle : b ≤ m.now) (hb : b = (Pace.after timer period due (lasted begun ended)).start timer)
    (hdue : m.due = nextDue period (Pace.after timer period due (lasted begun ended)).due b)
    (tally : Tally) :
    PacedRun timer period due (begun ++ [b]) (ended ++ [m.now]) (m.endPass b tally) := by
  refine ⟨htimer, hpasses.finish hlen hle, ?_⟩
  simp only [State.KeepsPace, State.endPass_phase, lasted_finish hlen, Pace.after_concat]
  have hfree : ((Pace.after timer period due (lasted begun ended)).next timer period
      (m.now - b)).free = m.now := by
    simp only [Pace.next, ← hb]
    omega
  refine ⟨by simp [hlen], ?_, hfree.le, ?_⟩
  · simp only [Pace.next, ← hb]
    exact hdue
  · exact hfree.symm.le.trans (le_max_right _ _)

end Steps

lemma completion?_of_phase {t : Transition} (h : t.after.phase = t.before.phase) :
    t.completion? = none := by
  unfold Transition.completion?
  rw [h]
  cases t.before.phase <;> rfl

lemma pacedRun_of_step {tr : List Transition}
    (hs : PacedRun timer opts.scanInterval.nanos due (beginnings tr) (completions tr) s)
    (h : Step opts s l s') :
    PacedRun timer opts.scanInterval.nanos due (beginnings (tr ++ [⟨s, l, s'⟩]))
      (completions (tr ++ [⟨s, l, s'⟩])) s' := by
  rw [beginnings_concat, completions_concat]
  cases h with
  | elapse nanos hm =>
    rw [completion?_of_phase rfl]
    simpa [Transition.beginning?] using hs.elapse hm
  | close | closeAgain | abandon =>
    rw [completion?_of_phase rfl]
    simpa [Transition.beginning?] using ⟨hs.timer_eq, hs.passes, hs.keeps⟩
  | tick hp hd => simpa [Transition.beginning?, Transition.completion?, hp] using hs.tick hp hd
  | beginPass group rest hp hg =>
    simpa [Transition.beginning?, Transition.completion?, hp] using hs.beginPass hp group rest
  | beginEmpty hp hg =>
    obtain ⟨htimer, hpasses, hkeeps⟩ := hs
    simp only [State.KeepsPace, hp] at hkeeps
    obtain ⟨hlen, hdue, hnow⟩ := hkeeps
    -- a pass without groups begins and ends in one step
    simpa [Transition.beginning?, Transition.completion?, hp] using
      PacedRun.finish htimer (hpasses.begin hlen hnow) hlen le_rfl hnow hdue {}
  | nextScan p o group rest hp hg =>
    obtain ⟨htimer, hpasses, hkeeps⟩ := hs
    simp only [State.KeepsPace, hp] at hkeeps
    simpa [Transition.beginning?, Transition.completion?, hp] using ⟨htimer, hpasses, hkeeps⟩
  | lastScan p o hp hg =>
    obtain ⟨htimer, hpasses, hkeeps⟩ := hs
    simp only [State.KeepsPace, hp] at hkeeps
    obtain ⟨older, hbegun, hlen, hle, hstart, hdue⟩ := hkeeps
    rw [hbegun] at hpasses hstart hdue ⊢
    rw [lasted_begin hlen] at hstart hdue
    have hfinish := PacedRun.finish (m := s.takeOutcome opts p.group o) htimer hpasses hlen hle
      hstart hdue (p.tally.add o)
    simpa [Transition.beginning?, Transition.completion?, hp] using hfinish
  | quit hr hp =>
    have hquiet : Transition.completion? ⟨s, .quit, { s with phase := .stopped }.emit
        [State.stopLog]⟩ = none := by
      cases hphase : s.phase <;> simp [Transition.completion?, hphase]
    simpa [Transition.beginning?, hquiet] using ⟨hs.timer_eq, hs.passes, trivial⟩

variable {immediately : Bool} {signal : StopSignal}

lemma pacedRun_of_run (h : (State.start opts immediately signal timer).run opts ls = some s) :
    let tr := (State.start opts immediately signal timer).trace opts ls
    PacedRun timer opts.scanInterval.nanos (if immediately then 0 else opts.scanInterval.nanos)
      (beginnings tr) (completions tr) s := by
  refine run_induction (P := fun tr s => PacedRun timer opts.scanInterval.nanos
    (if immediately then 0 else opts.scanInterval.nanos) (beginnings tr) (completions tr) s)
    ⟨rfl, ⟨by simp [beginnings], by simp [completions], by simp [beginnings]⟩, ?_⟩
    (fun _ _ _ _ => pacedRun_of_step) h
  exact ⟨rfl, rfl, le_rfl, Nat.zero_le _⟩

lemma beginnings_trace_of_ne (h : s.run opts ls = some s') (hl : ∀ l ∈ ls, l ≠ .begin) :
    beginnings (s.trace opts ls) = [] := by
  rw [beginnings, List.filterMap_eq_nil_iff]
  intro t ht
  rw [← map_label_trace h, List.forall_mem_map] at hl
  have hne := hl t ht
  unfold Transition.beginning?
  split
  next hb => exact absurd hb hne
  next => rfl

lemma beginnings_trace_concat (h : s.run opts (ls ++ [.begin]) = some s')
    (hl : ∀ l ∈ ls, l ≠ .begin) : beginnings (s.trace opts (ls ++ [.begin])) = [s'.now] := by
  obtain ⟨m, hm, hstep⟩ := run_concat.mp h
  have hnow : s'.now = m.now := by cases hstep <;> rfl
  rw [trace_concat hm hstep, beginnings_concat, beginnings_trace_of_ne hm hl, hnow]
  rfl

/-- As long as the signal is open, no time passes beyond the next start, and the next pass can begin
at it. -/
lemma PacedRun.begins {begun ended : List Nat}
    (hs : PacedRun timer period due begun ended s) (hr : s.signal.releases = false)
    (hp : s.phase ≠ .stopped) (hlen : begun.length = ended.length) :
    let next := (Pace.after timer period due (lasted begun ended)).start timer
    s.now ≤ next ∧ ∃ rest s', (∀ l ∈ rest, l ≠ .close ∧ l ≠ .abandon) ∧
      s.run opts rest = some s' ∧ beginnings (s.trace opts rest) = [next] := by
  obtain ⟨htimer, -, hkeeps⟩ := hs
  have hgoes : s.GoesOn opts := goesOn_of_open hr hp
  unfold State.KeepsPace at hkeeps
  unfold State.GoesOn at hgoes
  cases hphase : s.phase with
  | stopped => exact absurd hphase hp
  | scanning p =>
    simp only [hphase] at hkeeps
    obtain ⟨older, hbegun, holder, -⟩ := hkeeps
    simp [hbegun, holder] at hlen
  | ticked =>
    simp only [hphase] at hkeeps hgoes
    obtain ⟨-, -, hnow⟩ := hkeeps
    obtain ⟨s', hstep⟩ := hgoes
    have hrun : s.run opts ([] ++ [.begin]) = some s' :=
      run_concat.mpr ⟨s, rfl, step_of_eq_some hstep⟩
    have hnow' : s'.now = s.now := by cases step_of_eq_some hstep <;> rfl
    refine ⟨hnow.le, [.begin], s', by simp, hrun, ?_⟩
    rw [← hnow, ← hnow']
    exact beginnings_trace_concat hrun (by simp)
  | waiting =>
    simp only [hphase] at hkeeps hgoes
    obtain ⟨-, hdue, hfree, hstart⟩ := hkeeps
    obtain ⟨wait, s', hwait, hrun, hnow⟩ := hgoes
    have hnext : s'.now = (Pace.after timer period due (lasted begun ended)).start timer := by
      simp only [Pace.start, htimer, hdue] at hnow hstart ⊢
      omega
    have hlabels : ∀ l ∈ wait ++ [Label.tick], l ≠ .begin ∧ l ≠ .close ∧ l ≠ .abandon := by
      rw [List.forall_mem_append]
      refine ⟨?_, by simp⟩
      intro l hl
      obtain ⟨nanos, rfl⟩ := hwait l hl
      simp
    rw [show [Label.tick, Label.begin] = [.tick] ++ [.begin] from rfl, ← List.append_assoc] at hrun
    refine ⟨hstart, (wait ++ [.tick]) ++ [.begin], s', ?_, hrun, ?_⟩
    · rw [List.forall_mem_append]
      exact ⟨fun l hl => (hlabels l hl).2, by simp⟩
    · rw [← hnext]
      exact beginnings_trace_concat hrun fun l hl => (hlabels l hl).1

/-- Every run, whatever the groups, the scans and the signal do. The first pass begins with the
first tick. Each other pass follows one that has ended: it begins at most the lateness allowed
sooner than one period after it, and as soon as the period and the pass are over. When a pass begins
is a function of how long those before it have lasted, so that runs with equal durations begin
their passes at equal instants. While the signal is open, no time passes beyond the next start. -/
theorem pacing (h : (State.start opts immediately signal timer).run opts ls = some s) :
    let tr := (State.start opts immediately signal timer).trace opts ls
    let period := opts.scanInterval.nanos
    let due := if immediately then 0 else period
    (∀ t, (beginnings tr)[0]? = some t →
      t = timer.fires due ∧ due ≤ t ∧ t < due + timerResolution) ∧
    (∀ k t, (beginnings tr)[k + 1]? = some t → ∃ b e, (beginnings tr)[k]? = some b ∧
      (completions tr)[k]? = some e ∧ b ≤ e ∧ e ≤ t ∧ b + period ≤ t + lateness ∧
      t < b + max period (e - b) + timerResolution) ∧
    (∀ k t, (beginnings tr)[k]? = some t →
      t = (Pace.after timer period due ((durations tr).take k)).start timer) ∧
    (∀ opts' signal' ls' s', opts'.scanInterval = opts.scanInterval →
      (State.start opts' immediately signal' timer).run opts' ls' = some s' →
      let tr' := (State.start opts' immediately signal' timer).trace opts' ls'
      ∀ k t t', (durations tr').take k = (durations tr).take k →
        (beginnings tr)[k]? = some t → (beginnings tr')[k]? = some t' → t' = t) ∧
    (s.signal.releases = false → (beginnings tr).length = (completions tr).length →
      let next := (Pace.after timer period due (durations tr)).start timer
      s.now ≤ next ∧ ∃ rest s', (∀ l ∈ rest, l ≠ .close ∧ l ≠ .abandon) ∧
        s.run opts rest = some s' ∧ beginnings (s.trace opts rest) = [next]) := by
  have hs := pacedRun_of_run h
  have hend := endLawful_of_run h
  intro tr period due
  refine ⟨?_, ?_, hs.passes.begins, ?_, ?_⟩
  · intro t ht
    have hfirst : t = timer.fires due := by
      rw [hs.passes.begins 0 t ht]
      exact max_eq_left (Nat.zero_le _)
    rw [hfirst]
    exact ⟨rfl, timer.le_fires due, timer.fires_lt due⟩
  · intro k t ht
    obtain ⟨b, e, hb, he, hle, q, rfl, rfl⟩ := hs.passes.pred ht
    have hfree := q.free_le_start_next timer opts.scanInterval.nanos (e - q.start timer)
    exact ⟨_, e, hb, he, hle, by omega, q.start_add_period_le timer period _,
      q.start_next_lt timer period _⟩
  · intro opts' signal' ls' s' hinterval h' tr' k t t' hdurations ht ht'
    have hs' := pacedRun_of_run h'
    rw [hs.passes.begins k t ht, hs'.passes.begins k t' ht', hinterval]
    exact congrArg (fun d => (Pace.after timer period due d).start timer) hdurations
  · intro hr hlen
    have hp : s.phase ≠ .stopped := fun hp => by simp [hend.released hp] at hr
    exact hs.begins hr hp hlen

/-- A first pass that takes longer than the interval, with a scan that fails, and then a short
one. -/
def slowPass : List Label :=
  [.tick, .begin, .elapse 61000000000, .scanned (.error (.other "timeout")), .scanned (.ok {}),
    .tick, .begin, .scanned (.ok {}), .scanned (.ok {}), .elapse 60000000000, .tick, .begin]

/-- The third pass begins one period after the second, not after the instant at which that was
due. -/
theorem pacing_slowPass : ∃ s, (State.start twoPools true {}).run twoPools slowPass = some s ∧
    (beginnings ((State.start twoPools true {}).trace twoPools slowPass))[2]? =
      some 121000000000 ∧
    121000000000 = (Pace.after .wholeMillis 60000000000 0 [61000000000, 0]).start .wholeMillis := by
  have hrun : (State.start twoPools true {}).run twoPools slowPass =
    some (((State.start twoPools true {}).run twoPools slowPass).get rfl) := rfl
  obtain ⟨-, -, hbegins, -⟩ := pacing hrun
  exact ⟨_, hrun, rfl, hbegins 2 _ rfl⟩

end Autoscaler.ControlLoop
