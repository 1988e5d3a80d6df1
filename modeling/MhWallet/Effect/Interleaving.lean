import Mathlib.Logic.Function.Basic
import MhWallet.Effect.Thread

/-!
Contract: clients that make calls on one state, with their steps in any order.

Owns: the step function of the clients together, its runs, and the rule that
each client keeps to the protocol of the calls.

Does not own: any protocol.
-/

namespace MhWallet.Effect

/-- The calls that clients can make, when a step can be taken, and which outcomes
bring a call back to its client. -/
structure Service (Op ε L S : Type) where
  call : Op → Thread ε L S Unit
  enabled : L → S → Bool
  ended : Except ε Unit → Bool

/-- A state, what each client still has to do, and the steps taken so far. -/
structure Machine (C ε L S : Type) where
  shared : S
  threads : C → Option (Thread ε L S Unit)
  trace : List (C × L)

inductive Turn (C Op : Type) where
  | call (client : C) (op : Op)
  | step (client : C)
  | return (client : C)

namespace Machine

variable {C Op ε L S : Type} [DecidableEq C]

/-- The step that a client is about to take. -/
def next? (machine : Machine C ε L S) (client : C) : Option L :=
  match machine.threads client with
  | some (.step label _ _) => some label
  | _ => none

/-- The machine after a turn; none if the client cannot take it. -/
def take (service : Service Op ε L S) (machine : Machine C ε L S) :
    Turn C Op → Option (Machine C ε L S)
  | .call client op =>
      match machine.threads client with
      | none => some { machine with
          threads := Function.update machine.threads client (some (service.call op)) }
      | some _ => none
  | .step client =>
      match machine.threads client with
      | some (.step label change next) =>
          if service.enabled label machine.shared then
            some {
              shared := change machine.shared
              threads := Function.update machine.threads client (some (next machine.shared))
              trace := machine.trace ++ [(client, label)] }
          else none
      | _ => none
  | .return client =>
      match machine.threads client with
      | some (.done outcome) =>
          if service.ended outcome then
            some { machine with threads := Function.update machine.threads client none }
          else none
      | _ => none

/-- The machines that can be reached by turns that are allowed. -/
inductive Runs (service : Service Op ε L S)
    (allowed : Machine C ε L S → Turn C Op → Bool) (start : Machine C ε L S) :
    Machine C ε L S → Prop
  | start : Runs service allowed start start
  | turn {machine after : Machine C ε L S} (earlier : Runs service allowed start machine)
      (turn : Turn C Op) (permitted : allowed machine turn = true)
      (taken : machine.take service turn = some after) : Runs service allowed start after

/-- These turns, as long as they are allowed and can be taken. -/
def play (service : Service Op ε L S) (allowed : Machine C ε L S → Turn C Op → Bool)
    (machine : Machine C ε L S) : List (Turn C Op) → Option (Machine C ε L S)
  | [] => some machine
  | turn :: turns =>
      if allowed machine turn then
        match machine.take service turn with
        | some after => after.play service allowed turns
        | none => none
      else none

theorem Runs.play {service : Service Op ε L S} {allowed : Machine C ε L S → Turn C Op → Bool}
    {start machine after : Machine C ε L S} (earlier : Runs service allowed start machine)
    (turns : List (Turn C Op)) (played : machine.play service allowed turns = some after) :
    Runs service allowed start after := by
  induction turns generalizing machine with
  | nil =>
      rw [Machine.play, Option.some.injEq] at played
      rwa [← played]
  | cons turn turns inductionHypothesis =>
      rw [Machine.play] at played
      split at played
      next permitted =>
        split at played
        next middle taken => exact inductionHypothesis (earlier.turn turn permitted taken) played
        next => simp at played
      next => simp at played

/-! ## Protocols -/

variable {P : Type}

/-- A client in a call follows the protocol from its phase, and any other client is
in the phase between two calls. -/
def Keeps (protocol : Thread.Protocol L S P) (post : Except ε Unit → P → Prop) (idle phase : P) :
    Option (Thread ε L S Unit) → Prop
  | none => phase = idle
  | some thread => thread.Follows protocol post phase

def Follow (protocol : Thread.Protocol L S P) (post : Except ε Unit → P → Prop) (idle : P)
    (machine : Machine C ε L S) (phases : C → P) : Prop :=
  ∀ client, Keeps protocol post idle (phases client) (machine.threads client)

/-- A step of a client, as the protocol sees it. -/
structure Advances (service : Service Op ε L S) (protocol : Thread.Protocol L S P)
    (phases : C → P) (machine after : Machine C ε L S) (client : C) (label : L) (phase : P) :
    Prop where
  next : machine.next? client = some label
  enabled : service.enabled label machine.shared = true
  advanced : protocol.advance (phases client) label = some phase
  moved : protocol.moves label machine.shared after.shared
  trace : after.trace = machine.trace ++ [(client, label)]

variable {service : Service Op ε L S} {protocol : Thread.Protocol L S P}
  {post : Except ε Unit → P → Prop} {idle : P} {machine after : Machine C ε L S}
  {phases : C → P}

private theorem Follow.update (follow : Follow protocol post idle machine phases) {client : C}
    {thread : Option (Thread ε L S Unit)} {phase : P}
    (threads : after.threads = Function.update machine.threads client thread)
    (own : Keeps protocol post idle phase thread) :
    Follow protocol post idle after (Function.update phases client phase) := by
  intro other
  rw [threads]
  by_cases same : other = client
  · subst same
    simp only [Function.update_self]
    exact own
  · simp only [Function.update_of_ne same]
    exact follow other

/-- The client is in another place of the same phase. -/
private theorem Follow.replace (follow : Follow protocol post idle machine phases) {client : C}
    {thread : Option (Thread ε L S Unit)}
    (threads : after.threads = Function.update machine.threads client thread)
    (own : Keeps protocol post idle (phases client) thread) :
    Follow protocol post idle after phases := by
  have updated := follow.update threads own
  rwa [Function.update_eq_self] at updated

/-- Every turn keeps the clients to the protocol: a call and a return change
neither state nor phase, and a step does what the protocol allows. -/
theorem take_follow (follow : Follow protocol post idle machine phases)
    (calls : ∀ op, (service.call op).Follows protocol post idle)
    (ends : ∀ outcome phase, service.ended outcome = true → post outcome phase → phase = idle)
    {turn : Turn C Op} (taken : machine.take service turn = some after) :
    (after.shared = machine.shared ∧ after.trace = machine.trace ∧
      Follow protocol post idle after phases) ∨
    ∃ client label phase, turn = .step client ∧
      Advances service protocol phases machine after client label phase ∧
      Follow protocol post idle after (Function.update phases client phase) := by
  cases turn with
  | call client op =>
      simp only [take] at taken
      split at taken
      next free =>
        have own := follow client
        rw [free] at own
        rw [Option.some.injEq] at taken
        subst taken
        refine .inl ⟨rfl, rfl, follow.replace rfl ?_⟩
        show Thread.Follows protocol post (phases client) (service.call op)
        rw [show phases client = idle from own]
        exact calls op
      next => simp at taken
  | step client =>
      simp only [take] at taken
      split at taken
      next label change next thread =>
        have own := follow client
        rw [thread] at own
        obtain ⟨moves, phase, advanced, follows⟩ := own
        split at taken
        next enabled =>
          rw [Option.some.injEq] at taken
          subst taken
          have upcoming : machine.next? client = some label := by rw [next?, thread]
          exact .inr ⟨client, label, phase, rfl,
            ⟨upcoming, enabled, advanced, moves machine.shared, rfl⟩,
            follow.update rfl (follows machine.shared)⟩
        next => simp at taken
      next => simp at taken
  | «return» client =>
      simp only [take] at taken
      split at taken
      next outcome thread =>
        have own := follow client
        rw [thread] at own
        split at taken
        next ended =>
          rw [Option.some.injEq] at taken
          subst taken
          exact .inl ⟨rfl, rfl, follow.replace rfl (ends outcome _ ended own)⟩
        next => simp at taken
      next => simp at taken

end Machine

end MhWallet.Effect
