import Mathlib

/-!
# Transition systems

A system is a step relation on its states. This module gives the states a system reaches
from its initial ones, the rule that proves a property of all of them (an invariant: it holds
initially and every step keeps it), and the interleaving of processes that each take steps on
a shared state and on a state of their own, one process at a time.

A run that is to be exhibited (a counterexample) is built with `Reachable.init` and
`Reachable.step`, one constructor per step.
-/

namespace Transition

section Reach

variable {σ : Type*} {init : σ → Prop} {step : σ → σ → Prop}

/-- The states `step` reaches from a state satisfying `init`. -/
inductive Reachable (init : σ → Prop) (step : σ → σ → Prop) : σ → Prop where
  /-- An initial state. -/
  | init {s : σ} : init s → Reachable init step s
  /-- A step from a reachable state. -/
  | step {s t : σ} : Reachable init step s → step s t → Reachable init step t

/-- **The invariant rule**: a property of the initial states that every step keeps holds of
every reachable state. -/
theorem Reachable.inv (I : σ → Prop) (h₀ : ∀ s, init s → I s)
    (h₁ : ∀ s t, I s → step s t → I t) {s : σ} (h : Reachable init step s) : I s := by
  induction h with
  | init hs => exact h₀ _ hs
  | step _ hst ih => exact h₁ _ _ ih hst

/-- A run from the state a step leads to is a run from the state before the step. -/
theorem Reachable.head {s s' t : σ} (h : step s s') (ht : Reachable (· = s') step t) :
    Reachable (· = s) step t := by
  induction ht with
  | init hs => exact .step (.init rfl) (hs ▸ h)
  | step _ hst ih => exact .step ih hst

/-- A run from a reachable state ends in a reachable state. -/
theorem Reachable.trans {s t : σ} (hs : Reachable init step s) (ht : Reachable (· = s) step t) :
    Reachable init step t := by
  induction ht with
  | init h => exact h ▸ hs
  | step _ hst ih => exact .step ih hst

end Reach

section Interleaving

variable {ι G L : Type*} [DecidableEq ι]

/-- **Interleaving**: process `i` takes a step of `proc i` on the shared state and its own
state; every other process stands still. -/
inductive Interleave (proc : ι → G × L → G × L → Prop) : G × (ι → L) → G × (ι → L) → Prop where
  /-- Process `i` steps. -/
  | step (i : ι) {g g' : G} {ps : ι → L} {l' : L} :
      proc i (g, ps i) (g', l') → Interleave proc (g, ps) (g', Function.update ps i l')

variable {proc : ι → G × L → G × L → Prop}

/-- What an interleaved step is: one process's step, the others unchanged. -/
theorem Interleave.iff {s t : G × (ι → L)} :
    Interleave proc s t ↔
      ∃ i g' l', proc i (s.1, s.2 i) (g', l') ∧ t = (g', Function.update s.2 i l') := by
  constructor
  · rintro ⟨i, h⟩
    exact ⟨i, _, _, h, rfl⟩
  · rintro ⟨i, g', l', h, rfl⟩
    exact Interleave.step i h

end Interleaving

end Transition
