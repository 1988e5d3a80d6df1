import Mathlib.Tactic.Common

/-!
Contract: computations that act on a state and either return a value or stop.

An `Action` keeps the state it has reached when it stops, so a caller that
catches the stop sees every update made before it.  `focus` runs an action on
one component of a larger state, through a lawful `Lens`.

Owns: the monad, its run equations, and lenses.

Does not own: any concrete state, any concrete reason for stopping.
-/

namespace MhWallet.Effect

/-- A computation over `S` that returns an `α` or stops with an `ε`. -/
structure Action (ε S α : Type) where
  run : S → Except ε α × S

namespace Action

variable {ε S α β : Type}

instance : Monad (Action ε S) where
  pure value := ⟨fun state => (.ok value, state)⟩
  bind first next := ⟨fun state =>
    match first.run state with
    | (.ok value, reached) => (next value).run reached
    | (.error reason, reached) => (.error reason, reached)⟩

/-- Give up with a reason; the state stays as it is. -/
def stop (reason : ε) : Action ε S α :=
  ⟨fun state => (.error reason, state)⟩

/-- The current state. -/
def read : Action ε S S :=
  ⟨fun state => (.ok state, state)⟩

/-- Replace the state by its image. -/
def update (change : S → S) : Action ε S Unit :=
  ⟨fun state => (.ok (), change state)⟩

/-- Run `body`; where it stops with a reason that `handler` accepts, go on with
the handler in the state that `body` reached. -/
def recover (body : Action ε S α) (handler : ε → Option (Action ε S α)) :
    Action ε S α :=
  ⟨fun state =>
    match body.run state with
    | (.ok value, reached) => (.ok value, reached)
    | (.error reason, reached) =>
        match handler reason with
        | some next => next.run reached
        | none => (.error reason, reached)⟩

/-- The value of an option, or stop. -/
def ofOption (reason : ε) : Option α → Action ε S α
  | some value => pure value
  | none => stop reason

@[ext] theorem ext {left right : Action ε S α}
    (same : ∀ state, left.run state = right.run state) : left = right := by
  cases left
  cases right
  congr
  funext state
  exact same state

/-! ## Run equations -/

@[simp] theorem run_pure (value : α) (state : S) :
    (pure value : Action ε S α).run state = (.ok value, state) := rfl

theorem run_bind (first : Action ε S α) (next : α → Action ε S β) (state : S) :
    (first >>= next).run state =
      match first.run state with
      | (.ok value, reached) => (next value).run reached
      | (.error reason, reached) => (.error reason, reached) := rfl

theorem run_map (change : α → β) (action : Action ε S α) (state : S) :
    (change <$> action).run state =
      match action.run state with
      | (.ok value, reached) => (.ok (change value), reached)
      | (.error reason, reached) => (.error reason, reached) := rfl

theorem run_map_state (change : α → β) (action : Action ε S α) (state : S) :
    ((change <$> action).run state).2 = (action.run state).2 := by
  rw [run_map]
  rcases action.run state with ⟨outcome | outcome, reached⟩ <;> rfl

theorem run_bind_ok {first : Action ε S α} {state reached : S} {value : α}
    (ran : first.run state = (.ok value, reached)) (next : α → Action ε S β) :
    (first >>= next).run state = (next value).run reached := by
  rw [run_bind, ran]

theorem run_bind_error {first : Action ε S α} {state reached : S} {reason : ε}
    (ran : first.run state = (.error reason, reached))
    (next : α → Action ε S β) :
    (first >>= next).run state = (.error reason, reached) := by
  rw [run_bind, ran]

/-- A sequence returns only if its first action does. -/
theorem of_run_bind_ok {first : Action ε S α} {next : α → Action ε S β} {state reached : S}
    {value : β} (ran : (first >>= next).run state = (.ok value, reached)) :
    ∃ part between, first.run state = (.ok part, between) ∧
      (next part).run between = (.ok value, reached) := by
  rcases start : first.run state with ⟨reason | part, between⟩
  · rw [run_bind_error start] at ran
    cases (Prod.mk.inj ran).1
  · exact ⟨part, between, rfl, (run_bind_ok start next).symm.trans ran⟩

/-- A run with this outcome. -/
theorem run_of_outcome {action : Action ε S α} {state : S} {value : α}
    (outcome : (action.run state).1 = .ok value) :
    action.run state = (.ok value, (action.run state).2) := by
  rw [← outcome]

@[simp] theorem run_stop (reason : ε) (state : S) :
    (stop reason : Action ε S α).run state = (.error reason, state) := rfl

@[simp] theorem run_read (state : S) :
    (read : Action ε S S).run state = (.ok state, state) := rfl

@[simp] theorem run_update (change : S → S) (state : S) :
    (update change : Action ε S Unit).run state = (.ok (), change state) := rfl

theorem run_ofOption (reason : ε) (value : Option α) (state : S) :
    (ofOption reason value : Action ε S α).run state =
      match value with
      | some found => (.ok found, state)
      | none => (.error reason, state) := by
  cases value <;> rfl

theorem of_run_ofOption_ok {reason : ε} {option : Option α} {state reached : S} {value : α}
    (ran : (ofOption reason option : Action ε S α).run state = (.ok value, reached)) :
    option = some value ∧ state = reached := by
  cases option with
  | none => cases (Prod.mk.inj ran).1
  | some found =>
      obtain ⟨same, unchanged⟩ := Prod.mk.inj ran
      exact ⟨congrArg some (Except.ok.inj same), unchanged⟩

theorem run_ite (condition : Prop) [Decidable condition]
    (left right : Action ε S α) (state : S) :
    (if condition then left else right).run state =
      if condition then left.run state else right.run state := by
  split <;> rfl

theorem run_recover (body : Action ε S α)
    (handler : ε → Option (Action ε S α)) (state : S) :
    (body.recover handler).run state =
      match body.run state with
      | (.ok value, reached) => (.ok value, reached)
      | (.error reason, reached) =>
          match handler reason with
          | some next => next.run reached
          | none => (.error reason, reached) := rfl

private theorem id_map_action {α : Type} (action : Action ε S α) :
    id <$> action = action := by
  ext1 state
  change (match action.run state with
    | (.ok value, reached) => _
    | (.error reason, reached) => _) = _
  rcases action.run state with ⟨outcome | outcome, reached⟩ <;> rfl

private theorem bind_assoc_action {α β γ : Type} (first : Action ε S α)
    (second : α → Action ε S β) (third : β → Action ε S γ) :
    first >>= second >>= third = first >>= fun value => second value >>= third := by
  ext1 state
  simp only [run_bind]
  rcases first.run state with ⟨outcome | outcome, reached⟩ <;> rfl

instance : LawfulMonad (Action ε S) :=
  LawfulMonad.mk' _ id_map_action (fun _ _ => rfl) bind_assoc_action

end Action

/-! ## Components of a state -/

/-- A component `T` of a state `S`, with the laws that make reading it back
and writing it twice behave as for a field. -/
structure Lens (S T : Type) where
  get : S → T
  put : T → S → S
  get_put : ∀ part state, get (put part state) = part
  put_get : ∀ state, put (get state) state = state
  put_put : ∀ first second state, put second (put first state) = put second state

namespace Action

variable {ε S T α β : Type}

/-- Run an action on a component of the state. -/
def focus (lens : Lens S T) (inner : Action ε T α) : Action ε S α :=
  ⟨fun state =>
    ((inner.run (lens.get state)).1, lens.put (inner.run (lens.get state)).2 state)⟩

@[simp] theorem run_focus (lens : Lens S T) (inner : Action ε T α) (state : S) :
    (inner.focus lens).run state =
      ((inner.run (lens.get state)).1,
        lens.put (inner.run (lens.get state)).2 state) := rfl

end Action

end MhWallet.Effect
