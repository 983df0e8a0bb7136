import Mathlib.Logic.Basic

/-!
# Runs of a system

A system takes steps, one event after the other; a step that is not possible has no
next state.  What holds at the start and is kept by every step holds in every state
that is reached, and a list of events that can be replayed ends in such a state.
-/

namespace Rovs

section Runs

variable {σ ε : Type} {step : σ → ε → Option σ} {start s s' : σ}

/-- The states that events lead to from a start. -/
inductive Reaches (step : σ → ε → Option σ) (start : σ) : σ → Prop where
  | start : Reaches step start start
  | step {s s' : σ} (e : ε) (hs : Reaches step start s) (h : step s e = some s') :
      Reaches step start s'

theorem Reaches.run (hs : Reaches step start s) {events : List ε}
    (h : events.foldlM step s = some s') : Reaches step start s' := by
  induction events generalizing s with
  | nil =>
    cases h
    exact hs
  | cons e events ih =>
    rw [List.foldlM_cons] at h
    rcases Option.bind_eq_some_iff.mp h with ⟨s₁, hstep, hrest⟩
    exact ih (.step e hs hstep) hrest

/-- The invariant rule. -/
theorem Reaches.invariant (hs : Reaches step start s) {inv : σ → Prop} (hstart : inv start)
    (hstep : ∀ s s' e, inv s → step s e = some s' → inv s') : inv s := by
  induction hs with
  | start => exact hstart
  | step e _ h ih => exact hstep _ _ e ih h

end Runs

end Rovs
