import Mathlib.Logic.Relation

/-!
# Runs of labelled transition systems

A system is a set of start states and a labelled step relation. A run records
its labels in order, so that a property may speak about the whole past and not
only about the current state. Invariants are proved once over a run, from the
start states and one step; a simulation carries every run of one system over to
another. Nothing here depends on what the states or the labels are.
-/

namespace Runs

universe u v w
variable {σ : Type u} {α : Type v} {τ : Type w}

/-- Start states and labelled steps. Steps need be neither total nor
deterministic: a system that stops has no step. -/
structure System (σ : Type u) (α : Type v) where
  start : σ → Prop
  step : σ → α → σ → Prop

namespace System

/-- The states a system comes to, with the labels of the run, oldest first. -/
inductive Reaches (system : System σ α) : List α → σ → Prop where
  | start (state : σ) (started : system.start state) : Reaches system [] state
  | step (past : List α) (state after : σ) (label : α)
      (reached : Reaches system past state) (stepped : system.step state label after) :
      Reaches system (past ++ [label]) after

/-- Keep only the steps whose condition on the state before them holds. -/
def restrict (system : System σ α) (condition : σ → α → Prop) : System σ α where
  start := system.start
  step state label after := condition state label ∧ system.step state label after

/-- An invariant holds at the start and is preserved by every step. It may
mention the labels of the run so far. -/
structure Invariant (system : System σ α) (holds : List α → σ → Prop) : Prop where
  initially : ∀ state, system.start state → holds [] state
  preserved : ∀ past state after label, holds past state → system.step state label after →
    holds (past ++ [label]) after

/-- An invariant holds wherever a run arrives. -/
theorem Invariant.reached {system : System σ α} {holds : List α → σ → Prop}
    (invariant : Invariant system holds) {past : List α} {state : σ}
    (reached : system.Reaches past state) : holds past state := by
  induction reached with
  | start state started => exact invariant.initially state started
  | step past state after label _ stepped ih =>
    exact invariant.preserved past state after label ih stepped

/-- One system simulates another when related states start together and every
step of the concrete one is matched by an abstract step with the same label. -/
structure Simulation (concrete : System σ α) (abstract : System τ α)
    (related : σ → τ → Prop) : Prop where
  initially : ∀ state, concrete.start state → ∃ view, abstract.start view ∧ related state view
  matched : ∀ state after label view, related state view → concrete.step state label after →
    ∃ next, abstract.step view label next ∧ related after next

/-- A simulation carries a whole run over, label by label. -/
theorem Simulation.reached {concrete : System σ α} {abstract : System τ α}
    {related : σ → τ → Prop} (simulation : Simulation concrete abstract related)
    {past : List α} {state : σ} (reached : concrete.Reaches past state) :
    ∃ view, abstract.Reaches past view ∧ related state view := by
  induction reached with
  | start state started =>
    obtain ⟨view, begun, together⟩ := simulation.initially state started
    exact ⟨view, .start view begun, together⟩
  | step past state after label _ stepped ih =>
    obtain ⟨view, abstractRun, together⟩ := ih
    obtain ⟨next, abstractStep, still⟩ := simulation.matched state after label view together stepped
    exact ⟨next, .step past view next label abstractRun abstractStep, still⟩

end System

end Runs
