import Mathlib.Data.List.Induction

/-!
# Runs of machines

A machine that takes its labels one after another folds a partial step over them. What a run reaches
is what its last step reaches from where the steps before it end, so a fact about runs is shown by
induction from their ends.
-/

namespace Autoscaler.Runs

variable {σ ℓ : Type} {step : σ → ℓ → Option σ} {s₀ s : σ} {l : ℓ} {ls : List ℓ}

lemma foldlM_concat : (ls ++ [l]).foldlM step s₀ = some s ↔
    ∃ m, ls.foldlM step s₀ = some m ∧ step m l = some s := by
  rw [List.foldlM_append, Option.bind_eq_bind, Option.bind_eq_some_iff]
  simp

/-- What holds at the start and is kept by each step holds after each run. -/
theorem foldlM_induction {P : List ℓ → σ → Prop} (hinit : P [] s₀)
    (hstep : ∀ ls l s s', ls.foldlM step s₀ = some s → P ls s → step s l = some s' →
      P (ls ++ [l]) s')
    (h : ls.foldlM step s₀ = some s) : P ls s := by
  induction ls using List.reverseRecOn generalizing s with
  | nil =>
    cases h
    exact hinit
  | append_singleton ls l ih =>
    obtain ⟨m, hm, hl⟩ := foldlM_concat.mp h
    exact hstep ls l m s hm (ih hm) hl

end Autoscaler.Runs
