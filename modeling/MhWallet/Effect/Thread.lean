import MhWallet.Effect.Action

/-!
Contract: actions as sequences of labelled atomic steps, between which other
threads can act on the same state.

A step changes the state and decides how to go on from the state it found.  A
thread that runs alone is an `Action`, and every construct of threads runs alone
as the construct of actions.

Owns: threads, their runs alone, the states in which they take a step, and the
judgement that a thread keeps to a protocol.

Does not own: who else acts on the state.
-/

namespace MhWallet.Effect

/-- A computation that still has to do these steps. -/
inductive Thread (ε L S α : Type) where
  | done (outcome : Except ε α)
  | step (label : L) (change : S → S) (next : S → Thread ε L S α)

namespace Thread

variable {ε L S T α β : Type}

/-- Go on with the outcome of a thread. -/
def andThen (first : Thread ε L S α) (next : Except ε α → Thread ε L S β) : Thread ε L S β :=
  match first with
  | done outcome => next outcome
  | step label change rest => step label change fun state => (rest state).andThen next

/-- Stop with the reason of a thread that stopped. -/
def onValue (next : α → Thread ε L S β) : Except ε α → Thread ε L S β
  | .ok value => next value
  | .error reason => done (.error reason)

instance : Monad (Thread ε L S) where
  pure value := done (.ok value)
  bind first next := first.andThen (onValue next)

/-- An action as one step. -/
def atomic (label : L) (action : Action ε S α) : Thread ε L S α :=
  step label (fun state => (action.run state).2) fun state => done (action.run state).1

/-- Where the thread stops with a reason that `handler` accepts, go on with the
handler. -/
def recover (body : Thread ε L S α) (handler : ε → Option (Thread ε L S α)) :
    Thread ε L S α :=
  body.andThen fun
    | .ok value => done (.ok value)
    | .error reason => (handler reason).getD (done (.error reason))

/-- A thread on a component of the state. -/
def focus (lens : Lens S T) : Thread ε L T α → Thread ε L S α
  | done outcome => done outcome
  | step label change next =>
      step label (fun state => lens.put (change (lens.get state)) state)
        fun state => (next (lens.get state)).focus lens

/-- The thread without any other: all its steps, one after another. -/
def alone : Thread ε L S α → Action ε S α
  | done outcome => ⟨fun state => (outcome, state)⟩
  | step _ change next => ⟨fun state => (next state).alone.run (change state)⟩

/-! ## What a thread does alone -/

@[simp] theorem alone_done (outcome : Except ε α) (state : S) :
    (done outcome : Thread ε L S α).alone.run state = (outcome, state) := rfl

theorem alone_andThen (first : Thread ε L S α) (next : Except ε α → Thread ε L S β)
    (state : S) :
    (first.andThen next).alone.run state =
      (next (first.alone.run state).1).alone.run (first.alone.run state).2 := by
  induction first generalizing state with
  | done outcome => rfl
  | step label change rest inductionHypothesis =>
      exact inductionHypothesis state (change state)

@[simp] theorem alone_pure (value : α) :
    (pure value : Thread ε L S α).alone = pure value := rfl

@[simp] theorem alone_atomic (label : L) (action : Action ε S α) :
    (atomic label action).alone = action := rfl

@[simp] theorem alone_bind (first : Thread ε L S α) (next : α → Thread ε L S β) :
    (first >>= next).alone = first.alone >>= fun value => (next value).alone := by
  ext1 state
  show (first.andThen (onValue next)).alone.run state = _
  rw [alone_andThen, Action.run_bind]
  rcases first.alone.run state with ⟨reason | value, reached⟩ <;> rfl

@[simp] theorem alone_map (change : α → β) (thread : Thread ε L S α) :
    (change <$> thread).alone = change <$> thread.alone :=
  (alone_bind thread (pure ∘ change)).trans (map_eq_pure_bind change thread.alone).symm

@[simp] theorem alone_recover (body : Thread ε L S α)
    (handler : ε → Option (Thread ε L S α)) :
    (body.recover handler).alone =
      body.alone.recover fun reason => (handler reason).map alone := by
  ext1 state
  rw [recover, alone_andThen, Action.run_recover]
  rcases body.alone.run state with ⟨reason | value, reached⟩
  · dsimp only
    cases handler reason <;> rfl
  · rfl

@[simp] theorem alone_focus (lens : Lens S T) (thread : Thread ε L T α) :
    (thread.focus lens).alone = thread.alone.focus lens := by
  ext1 state
  induction thread generalizing state with
  | done outcome =>
      rw [Action.run_focus, alone_done, lens.put_get]
      rfl
  | step label change next inductionHypothesis =>
      have rest := inductionHypothesis (lens.get state)
        (lens.put (change (lens.get state)) state)
      rw [Action.run_focus, lens.get_put, lens.put_put] at rest
      exact rest

/-! ## Where a thread takes its steps alone -/

/-- The states in which the thread, running alone, takes the steps with this
label. -/
def entries [DecidableEq L] (label : L) : Thread ε L S α → S → List S
  | done _, _ => []
  | step own change next, state =>
      (if own = label then [state] else []) ++ (next state).entries label (change state)

section Entries

variable [DecidableEq L] {label own : L} {state entry : S}

@[simp] theorem entries_done (outcome : Except ε α) :
    (done outcome : Thread ε L S α).entries label state = [] := rfl

theorem entries_atomic (action : Action ε S α) :
    (atomic own action).entries label state = if own = label then [state] else [] :=
  List.append_nil _

theorem entries_andThen (first : Thread ε L S α) (next : Except ε α → Thread ε L S β)
    (state : S) :
    (first.andThen next).entries label state = first.entries label state ++
      (next (first.alone.run state).1).entries label (first.alone.run state).2 := by
  induction first generalizing state with
  | done outcome => rfl
  | step own change rest inductionHypothesis =>
      have later := inductionHypothesis state (change state)
      show _ ++ ((rest state).andThen next).entries label (change state) = _
      rw [later, ← List.append_assoc]
      rfl

/-- A thread after another takes its steps where the first one returned. -/
theorem mem_entries_bind {first : Thread ε L S α} {next : α → Thread ε L S β} :
    entry ∈ (first >>= next).entries label state ↔ entry ∈ first.entries label state ∨
      ∃ value reached, first.alone.run state = (.ok value, reached) ∧
        entry ∈ (next value).entries label reached := by
  show entry ∈ (first.andThen (onValue next)).entries label state ↔ _
  rw [entries_andThen, List.mem_append]
  rcases first.alone.run state with ⟨reason | value, reached⟩ <;> simp [onValue]

theorem mem_entries_focus {lens : Lens S T} {thread : Thread ε L T α} :
    entry ∈ (thread.focus lens).entries label state ↔
      ∃ part ∈ thread.entries label (lens.get state), lens.put part state = entry := by
  induction thread generalizing state with
  | done outcome => simp [focus]
  | step own change next inductionHypothesis =>
      have later := @inductionHypothesis (lens.get state)
        (lens.put (change (lens.get state)) state)
      rw [lens.get_put] at later
      simp only [lens.put_put] at later
      simp only [focus, entries, List.mem_append, later, or_and_right, exists_or]
      by_cases same : own = label
      · simp [same, lens.put_get, eq_comm]
      · simp [same]

end Entries

/-! ## Threads that keep to a protocol -/

/-- Which steps are allowed in which phase, with the phase after them, and what a
step does to the state. -/
structure Protocol (L S P : Type) where
  advance : P → L → Option P
  moves : L → S → S → Prop

variable {P : Type} {protocol : Protocol L S P}

/-- From this phase every step that the thread can come to is allowed, and the
thread ends as `post` says. -/
def Follows (protocol : Protocol L S P) (post : Except ε α → P → Prop) (phase : P) :
    Thread ε L S α → Prop
  | done outcome => post outcome phase
  | step label change next =>
      (∀ state, protocol.moves label state (change state)) ∧
        ∃ after, protocol.advance phase label = some after ∧
          ∀ state, Follows protocol post after (next state)

theorem Follows.andThen {post : Except ε α → P → Prop} {last : Except ε β → P → Prop}
    {phase : P} {first : Thread ε L S α} {next : Except ε α → Thread ε L S β}
    (follows : Follows protocol post phase first)
    (continues : ∀ outcome after, post outcome after → Follows protocol last after (next outcome)) :
    Follows protocol last phase (first.andThen next) := by
  induction first generalizing phase with
  | done outcome => exact continues outcome phase follows
  | step label change rest inductionHypothesis =>
      obtain ⟨moves, after, advanced, follows⟩ := follows
      exact ⟨moves, after, advanced, fun state => inductionHypothesis state (follows state)⟩

theorem Follows.mono {post weaker : Except ε α → P → Prop} {phase : P}
    {thread : Thread ε L S α} (follows : Follows protocol post phase thread)
    (weakens : ∀ outcome after, post outcome after → weaker outcome after) :
    Follows protocol weaker phase thread := by
  induction thread generalizing phase with
  | done outcome => exact weakens outcome phase follows
  | step label change rest inductionHypothesis =>
      obtain ⟨moves, after, advanced, follows⟩ := follows
      exact ⟨moves, after, advanced, fun state => inductionHypothesis state (follows state)⟩

/-- From a phase of the set the thread stays in the set. -/
def Stays (protocol : Protocol L S P) (set : P → Prop) (thread : Thread ε L S α) : Prop :=
  ∀ phase, set phase → Follows protocol (fun _ after => set after) phase thread

namespace Stays

variable {set : P → Prop}

theorem pure (value : α) : Stays protocol set (Pure.pure value : Thread ε L S α) :=
  fun _ inSet => inSet

theorem andThen {first : Thread ε L S α} {next : Except ε α → Thread ε L S β}
    (stays : Stays protocol set first) (continues : ∀ outcome, Stays protocol set (next outcome)) :
    Stays protocol set (first.andThen next) :=
  fun phase inSet => (stays phase inSet).andThen fun outcome after => continues outcome after

theorem bind {first : Thread ε L S α} {next : α → Thread ε L S β}
    (stays : Stays protocol set first) (continues : ∀ value, Stays protocol set (next value)) :
    Stays protocol set (first >>= next) := by
  apply stays.andThen
  intro outcome
  cases outcome with
  | ok value => exact continues value
  | error reason => exact fun _ inSet => inSet

theorem atomic {label : L} {action : Action ε S α}
    (moves : ∀ state, protocol.moves label state (action.run state).2)
    (allowed : ∀ phase, set phase →
      ∃ after, protocol.advance phase label = some after ∧ set after) :
    Stays protocol set (Thread.atomic label action) := by
  intro phase inSet
  obtain ⟨after, advanced, stays⟩ := allowed phase inSet
  exact ⟨moves, after, advanced, fun _ => stays⟩

theorem recover {body : Thread ε L S α} {handler : ε → Option (Thread ε L S α)}
    (stays : Stays protocol set body)
    (handled : ∀ reason next, handler reason = some next → Stays protocol set next) :
    Stays protocol set (body.recover handler) := by
  apply stays.andThen
  intro outcome
  cases outcome with
  | ok value => exact fun _ inSet => inSet
  | error reason =>
      dsimp only
      cases answer : handler reason with
      | none => exact fun _ inSet => inSet
      | some next => exact handled reason next answer

/-- A component of the state, where its steps are steps of the whole. -/
theorem focus {inner : Protocol L T P} {lens : Lens S T} {thread : Thread ε L T α}
    (stays : Stays inner set thread) (same : inner.advance = protocol.advance)
    (lifted : ∀ label state moved, inner.moves label (lens.get state) moved →
      protocol.moves label state (lens.put moved state)) :
    Stays protocol set (thread.focus lens) := by
  intro phase inSet
  have follows := stays phase inSet
  clear stays inSet
  induction thread generalizing phase with
  | done outcome => exact follows
  | step label change next inductionHypothesis =>
      obtain ⟨moves, after, advanced, follows⟩ := follows
      rw [same] at advanced
      exact ⟨fun state => lifted label state _ (moves (lens.get state)), after, advanced,
        fun state => inductionHypothesis (lens.get state) after (follows (lens.get state))⟩

end Stays

end Thread

end MhWallet.Effect
