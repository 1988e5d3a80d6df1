import Mathlib.Logic.Relation

/-!
Contract: transition systems, the states their runs reach, and the rules by
which a property of one step becomes a property of every run.

Owns: runs, reachable states, and the invariant rules.

Does not own: any concrete system.
-/

namespace MhWallet.Effect

/-- Where the runs of a system start, and its steps. -/
structure Transition (S : Type) where
  initial : S → Prop
  step : S → S → Prop

namespace Transition

variable {S : Type}

/-- Finitely many steps. -/
def Runs (system : Transition S) : S → S → Prop :=
  Relation.ReflTransGen system.step

def Reachable (system : Transition S) (state : S) : Prop :=
  ∃ start, system.initial start ∧ system.Runs start state

/-- The system with only the steps that stay inside a set of states. -/
def within (system : Transition S) (allowed : S → Prop) : Transition S where
  initial := system.initial
  step before after := system.step before after ∧ allowed after

variable {system : Transition S} {property : S → Prop}

theorem Reachable.of_initial {state : S} (initial : system.initial state) :
    system.Reachable state :=
  ⟨state, initial, .refl⟩

theorem Reachable.next {before after : S} (reachable : system.Reachable before)
    (step : system.step before after) : system.Reachable after := by
  obtain ⟨start, initial, ran⟩ := reachable
  exact ⟨start, initial, ran.tail step⟩

/-- A property that every step keeps holds at the end of a run. -/
theorem Runs.keeps (kept : ∀ before after, property before → system.step before after →
    property after) {before after : S} (ran : system.Runs before after)
    (start : property before) : property after := by
  induction ran with
  | refl => exact start
  | tail _ step inductionHypothesis => exact kept _ _ inductionHypothesis step

/-- What holds at the start and is kept by every step from a reachable state
holds of every reachable state. -/
theorem Reachable.invariant (start : ∀ state, system.initial state → property state)
    (kept : ∀ before after, system.Reachable before → property before →
      system.step before after → property after) {state : S}
    (reachable : system.Reachable state) : property state := by
  obtain ⟨first, initial, ran⟩ := reachable
  induction ran with
  | refl => exact start first initial
  | tail earlier step inductionHypothesis =>
      exact kept _ _ ⟨first, initial, earlier⟩ inductionHypothesis step

end Transition

end MhWallet.Effect
