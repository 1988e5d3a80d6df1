import MhWallet.Effect.Action

/-!
Contract: the judgement that an action moves its state along a relation.

It speaks of the runs that return and of the runs that stop with a reason that
counts.  For a reflexive and transitive relation the judgement composes: every
construct of an action is within the relation if its parts are.

Owns: what it takes for a judgement to compose, this judgement and its rules, and
the reasons that an action never stops with.

Does not own: any concrete relation.
-/

namespace MhWallet.Effect

namespace Action

variable {ε S T α β : Type}

/-- A judgement on actions that holds of the plain ones, and of one action after
another if it holds of both. -/
structure Composes (judgement : {α : Type} → Action ε S α → Prop) : Prop where
  pure : ∀ {α : Type} (value : α), judgement (Pure.pure value)
  stop : ∀ {α : Type} (reason : ε), judgement (Action.stop reason : Action ε S α)
  bind : ∀ {α β : Type} {first : Action ε S α} {next : α → Action ε S β},
    judgement first → (∀ value, judgement (next value)) → judgement (first >>= next)

namespace Composes

variable {judgement : {α : Type} → Action ε S α → Prop}

theorem ofOption (composes : Composes judgement) (reason : ε) (value : Option α) :
    judgement (Action.ofOption reason value : Action ε S α) := by
  cases value with
  | none => exact composes.stop reason
  | some value => exact composes.pure value

theorem map (composes : Composes judgement) {action : Action ε S α}
    (judged : judgement action) (change : α → β) : judgement (change <$> action) := by
  rw [map_eq_pure_bind]
  exact composes.bind judged fun value => composes.pure (change value)

end Composes

/-- An outcome that a judgement speaks of. -/
def Counts (counted : ε → Prop) : Except ε α → Prop
  | .ok _ => True
  | .error reason => counted reason

/-- Every run of the action that counts moves the state along the relation. -/
def Within (counted : ε → Prop) (relation : S → S → Prop) (action : Action ε S α) : Prop :=
  ∀ state, Counts counted (action.run state).1 → relation state (action.run state).2

/-- A relation along which one can stay and go on. -/
structure Walk (relation : S → S → Prop) : Prop where
  stay : ∀ state, relation state state
  go : ∀ {first second third}, relation first second → relation second third →
    relation first third

/-- The relation that keeps a property. -/
def Keeps (property : S → Prop) (before after : S) : Prop :=
  property before → property after

theorem Keeps.walk (property : S → Prop) : Walk (Keeps property) where
  stay _ := id
  go first second holds := second (first holds)

namespace Within

variable {counted : ε → Prop} {relation : S → S → Prop}

/-- An action that leaves the state alone. -/
theorem still (walk : Walk relation) {action : Action ε S α}
    (same : ∀ state, (action.run state).2 = state) : Within counted relation action := by
  intro state _
  rw [same]
  exact walk.stay state

theorem pure (walk : Walk relation) (value : α) :
    Within counted relation (Pure.pure value : Action ε S α) :=
  still walk fun _ => rfl

theorem stop (walk : Walk relation) (reason : ε) :
    Within counted relation (Action.stop reason : Action ε S α) :=
  still walk fun _ => rfl

theorem bind (walk : Walk relation) {first : Action ε S α} {next : α → Action ε S β}
    (firstWithin : Within counted relation first)
    (nextWithin : ∀ value, Within counted relation (next value)) :
    Within counted relation (first >>= next) := by
  intro state counts
  have moved := firstWithin state
  rcases ran : first.run state with ⟨reason | value, reached⟩
  · rw [run_bind_error ran] at counts ⊢
    rw [ran] at moved
    exact moved counts
  · rw [run_bind_ok ran] at counts ⊢
    rw [ran] at moved
    exact walk.go (moved trivial) (nextWithin value reached counts)

theorem composes (walk : Walk relation) :
    Composes fun {α : Type} (action : Action ε S α) => Within counted relation action where
  pure := pure walk
  stop := stop walk
  bind := bind walk

theorem ofOption (walk : Walk relation) (reason : ε) (value : Option α) :
    Within counted relation (Action.ofOption reason value : Action ε S α) :=
  (composes walk).ofOption reason value

theorem map (walk : Walk relation) {action : Action ε S α}
    (within : Within counted relation action) (change : α → β) :
    Within counted relation (change <$> action) :=
  (composes walk).map within change

/-- A handler goes on after reasons that count. -/
theorem recover (walk : Walk relation) {body : Action ε S α}
    {handler : ε → Option (Action ε S α)} (bodyWithin : Within counted relation body)
    (handled : ∀ reason next, handler reason = some next →
      counted reason ∧ Within counted relation next) :
    Within counted relation (body.recover handler) := by
  intro state counts
  have moved := bodyWithin state
  rcases ran : body.run state with ⟨reason | value, reached⟩
  · rw [ran] at moved
    rcases answer : handler reason with _ | next
    · simp only [run_recover, ran, answer] at counts ⊢
      exact moved counts
    · simp only [run_recover, ran, answer] at counts ⊢
      obtain ⟨reasonCounts, nextWithin⟩ := handled reason next answer
      exact walk.go (moved reasonCounts) (nextWithin reached counts)
  · simp only [run_recover, ran]
    rw [ran] at moved
    exact moved trivial

end Within

/-- No run of the action stops with this reason. -/
def Avoids (reason : ε) (action : Action ε S α) : Prop :=
  ∀ state, (action.run state).1 ≠ .error reason

namespace Avoids

variable {reason : ε}

theorem pure (value : α) : Avoids reason (Pure.pure value : Action ε S α) := by
  intro state
  simp

theorem update (change : S → S) : Avoids reason (Action.update change) := by
  intro state
  simp

theorem stop {other : ε} (differ : other ≠ reason) :
    Avoids reason (Action.stop other : Action ε S α) :=
  fun _ same => differ (Except.error.inj same)

theorem bind {first : Action ε S α} {next : α → Action ε S β} (avoids : Avoids reason first)
    (nextAvoids : ∀ value, Avoids reason (next value)) : Avoids reason (first >>= next) := by
  intro state
  have avoided := avoids state
  rcases ran : first.run state with ⟨other | value, reached⟩
  · rw [ran] at avoided
    rw [run_bind_error ran]
    exact fun same => avoided (congrArg Except.error (Except.error.inj same))
  · rw [run_bind_ok ran]
    exact nextAvoids value reached

theorem ofOption {other : ε} (differ : other ≠ reason) (value : Option α) :
    Avoids reason (Action.ofOption other value : Action ε S α) := by
  cases value with
  | none => exact stop differ
  | some value => exact pure value

theorem map {action : Action ε S α} (avoids : Avoids reason action) (change : α → β) :
    Avoids reason (change <$> action) := by
  rw [map_eq_pure_bind]
  exact avoids.bind fun value => pure (change value)

end Avoids

end Action

end MhWallet.Effect
