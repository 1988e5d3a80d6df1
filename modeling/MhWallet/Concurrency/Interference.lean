import Mathlib.Data.List.Basic
import MhWallet.Concurrency.Guarding
import MhWallet.Effect.Interleaving
import MhWallet.Wallet.Flag

/-!
Contract: two clients that call the operations of one wallet.

The wallet's mutex keeps the clients apart, except where a `close` is called
without it.  As long as no such `close` gets at the device while the other client
holds the mutex, no attempt of `exchange` is cut in two.

Owns: the two clients as a machine, its invariant, and what cuts an attempt.
-/

namespace MhWallet

open MhWallet.Effect MhWallet.Method

inductive Client where
  | one
  | two
deriving DecidableEq, Repr

def Client.other : Client → Client
  | .one => .two
  | .two => .one

theorem Client.other_ne (client : Client) : client.other ≠ client := by
  cases client <;> decide

theorem Client.eq_other {client mover : Client} (different : mover ≠ client) :
    mover = client.other := by
  cases client <;> cases mover <;> first | rfl | exact absurd rfl different

/-- A critical section of a device. -/
def Label.onDevice : Label → Bool
  | .open | .close | .write | .read | .getError | .destroy => true
  | _ => false

/-- A step waits for the mutex that it takes. -/
def stepEnabled {σ : Type} (label : Label) (scene : Scene NanosWallet σ) : Bool :=
  match label with
  | .lock => .wallet ∉ scene.world.held
  | .open | .close | .write | .read | .getError =>
      scene.self.mFramer.mIo.mDevLock ∉ scene.world.held
  | _ => true

/-- The operations of a wallet, as a service. -/
def walletService {σ : Type} (tb : Toolbox) (hid : Hidapi σ) :
    Service WalletOp Stop Label (Scene NanosWallet σ) where
  call op := op.routine tb hid
  enabled := stepEnabled
  ended outcome := decide (Ended outcome)

/-- Two clients on one wallet. -/
abbrev Clients (σ : Type) := Machine Client Stop Label (Scene NanosWallet σ)

/-- No call has been made yet. -/
def Clients.start {σ : Type} (scene : Scene NanosWallet σ) : Clients σ where
  shared := scene
  threads := fun _ => none
  trace := []

/-- A client holds the wallet's mutex after these steps. -/
def holds (client : Client) (trace : List (Client × Label)) : Bool :=
  trace.foldl
    (fun held (mover, label) =>
      if mover = client then
        match label with
        | .lock => true
        | .unlock => false
        | _ => held
      else held)
    false

/-- No turn closes the device outside the mutex while the other client is
inside. -/
def Clients.considerate {σ : Type} (machine : Clients σ) : Turn Client WalletOp → Bool
  | .step client =>
      !(machine.next? client == some .close && !holds client machine.trace &&
        holds client.other machine.trace)
  | _ => true

/-- Between a write and a read of one attempt there is no step of the other client
on the device. -/
def Uncut (trace : List (Client × Label)) : Prop :=
  ∀ (client : Client) (before between after : List (Client × Label)),
    trace = before ++ (client, .write) :: between ++ (client, .read) :: after →
    (client, .begins) ∉ between →
    ∀ label : Label, label.onDevice = true → (client.other, label) ∉ between

/-! ## What a step does to the phase -/

namespace Phase

variable {phase after : Phase} {label : Label}

theorem of_lock (advanced : phase.advance .lock = some after) :
    phase = .outside ∧ after = .inside := by
  cases phase <;> simp [advance] at advanced
  exact ⟨rfl, advanced.symm⟩

theorem of_unlock (advanced : phase.advance .unlock = some after) :
    phase ≠ .outside ∧ after = .outside := by
  cases phase <;> simp [advance] at advanced <;> exact ⟨nofun, advanced.symm⟩

theorem of_other (noLock : label ≠ .lock) (noUnlock : label ≠ .unlock)
    (advanced : phase.advance label = some after) : after = .outside ↔ phase = .outside := by
  cases label
  case lock => exact absurd rfl noLock
  case unlock => exact absurd rfl noUnlock
  all_goals cases phase <;> simp [advance] at advanced <;> simp [← advanced]

theorem of_onDevice (onDevice : label.onDevice = true) (noClose : label ≠ .close)
    (advanced : phase.advance label = some after) : phase ≠ .outside := by
  rintro rfl
  cases label <;> simp [advance, Label.onDevice] at advanced onDevice noClose

theorem of_read (advanced : phase.advance .read = some after) : phase = .attempting := by
  cases phase <;> simp [advance] at advanced
  rfl

theorem of_attempting (noBegins : label ≠ .begins)
    (advanced : phase.advance label = some .attempting) : phase = .attempting := by
  cases label <;> cases phase <;> simp [advance] at advanced noBegins <;> rfl

end Phase

theorem holds_step (client mover : Client) (label : Label) (trace : List (Client × Label)) :
    holds client (trace ++ [(mover, label)]) =
      if mover = client then
        match label with
        | .lock => true
        | .unlock => false
        | _ => holds client trace
      else holds client trace := by
  rw [holds, List.foldl_append]
  rfl

/-! ## The invariant -/

/-- Since its last write in an attempt that goes on, the other client did not get
at the device. -/
def Sheltered (client : Client) (trace : List (Client × Label)) : Prop :=
  ∀ before between, trace = before ++ (client, .write) :: between →
    (client, .begins) ∉ between →
    ∀ label : Label, label.onDevice = true → (client.other, label) ∉ between

/-- Where the clients are, and what follows for the mutex and the trace. -/
structure Guarded {σ : Type} (machine : Clients σ) (phases : Client → Phase) : Prop where
  follow : machine.Follow (walletProtocol NanosWallet σ) Returned .outside phases
  holding : ∀ client, holds client machine.trace = true ↔ phases client ≠ .outside
  unheld : (∀ client, phases client = .outside) → machine.shared.world.walletHolds = 0
  held : ∀ client, phases client ≠ .outside →
    machine.shared.world.walletHolds = 1 ∧ phases client.other = .outside
  sheltered : ∀ client, phases client = .attempting → Sheltered client machine.trace
  uncut : Uncut machine.trace

section Step

variable {σ : Type} {tb : Toolbox} {hid : Hidapi σ} {machine after : Clients σ}
  {phases : Client → Phase} {mover : Client} {label : Label} {phase : Phase}

/-- A step of the other client that gets at the device meets a client that is
outside the mutex. -/
private theorem outside_of_onDevice (guarded : Guarded machine phases)
    (advances : machine.Advances (walletService tb hid) (walletProtocol NanosWallet σ) phases
      after mover label phase)
    (considerate : machine.considerate (.step mover) = true) (onDevice : label.onDevice = true) :
    phases mover.other = .outside := by
  by_cases inside : phases mover ≠ .outside
  · exact (guarded.held mover inside).2
  · have outside := not_not.mp inside
    by_cases closes : label = .close
    · by_contra otherInside
      have free : holds mover machine.trace = false := by
        rw [← Bool.not_eq_true, guarded.holding]
        exact inside
      have taken : holds mover.other machine.trace = true := (guarded.holding _).mpr otherInside
      simp [Clients.considerate, advances.next, closes, free, taken] at considerate
    · exact absurd outside (Phase.of_onDevice onDevice closes advances.advanced)

/-- The trace before the last step. -/
private theorem sheltered_step (guarded : Guarded machine phases)
    (advances : machine.Advances (walletService tb hid) (walletProtocol NanosWallet σ) phases
      after mover label phase)
    (considerate : machine.considerate (.step mover) = true) (client : Client)
    (attempting : Function.update phases mover phase client = .attempting) :
    Sheltered client after.trace := by
  intro before between split noBegins wanted onDevice member
  rw [advances.trace] at split
  rcases List.eq_nil_or_concat' between with rfl | ⟨earlier, last, rfl⟩
  · exact absurd member List.not_mem_nil
  · rw [← List.cons_append, ← List.append_assoc] at split
    obtain ⟨sameTrace, sameLast⟩ := List.append_inj' split rfl
    rw [List.cons.injEq] at sameLast
    obtain ⟨rfl, -⟩ := sameLast
    rw [List.mem_append, not_or] at noBegins
    have before : phases client = .attempting := by
      by_cases own : mover = client
      · subst own
        rw [Function.update_self] at attempting
        have noBegin : label ≠ .begins := by
          rintro rfl
          exact noBegins.2 List.mem_cons_self
        exact Phase.of_attempting noBegin (attempting ▸ advances.advanced)
      · rwa [Function.update_of_ne (Ne.symm own)] at attempting
    rcases List.mem_append.mp member with inEarlier | isLast
    · exact guarded.sheltered client before _ _ sameTrace noBegins.1 wanted onDevice inEarlier
    · rw [List.mem_singleton, Prod.mk.injEq] at isLast
      obtain ⟨rfl, rfl⟩ := isLast
      have outside := outside_of_onDevice guarded advances considerate onDevice
      rw [show client.other.other = client by cases client <;> rfl, before] at outside
      exact absurd outside nofun

private theorem uncut_step (guarded : Guarded machine phases)
    (advances : machine.Advances (walletService tb hid) (walletProtocol NanosWallet σ) phases
      after mover label phase) : Uncut after.trace := by
  intro client before between rest split noBegins wanted onDevice
  rw [advances.trace] at split
  rcases List.eq_nil_or_concat' rest with rfl | ⟨earlier, last, rfl⟩
  · obtain ⟨sameTrace, sameLast⟩ := List.append_inj' split rfl
    rw [List.cons.injEq, Prod.mk.injEq] at sameLast
    obtain ⟨⟨rfl, rfl⟩, -⟩ := sameLast
    have attempting := Phase.of_read advances.advanced
    exact guarded.sheltered mover attempting before between sameTrace noBegins wanted onDevice
  · rw [← List.cons_append, ← List.append_assoc] at split
    obtain ⟨sameTrace, -⟩ := List.append_inj' split rfl
    exact guarded.uncut client before between earlier sameTrace noBegins wanted onDevice

/-- The mutex after a step. -/
private theorem held_step (guarded : Guarded machine phases)
    (advances : machine.Advances (walletService tb hid) (walletProtocol NanosWallet σ) phases
      after mover label phase) :
    let moved := Function.update phases mover phase
    ((∀ client, moved client = .outside) → after.shared.world.walletHolds = 0) ∧
      ∀ client, moved client ≠ .outside →
        after.shared.world.walletHolds = 1 ∧ moved client.other = .outside := by
  intro moved
  have own : moved mover = phase := Function.update_self ..
  have theirs : moved mover.other = phases mover.other :=
    Function.update_of_ne mover.other_ne _ _
  have both : ∀ property : Client → Prop, property mover → property mover.other →
      ∀ client, property client := by
    intro property here there client
    by_cases same : client = mover
    · rwa [same]
    · rwa [Client.eq_other same]
  have back : mover.other.other = mover := by cases mover <;> rfl
  have moves := advances.moved
  by_cases locks : label = .lock
  · subst locks
    obtain ⟨outside, inside⟩ := Phase.of_lock advances.advanced
    have enabled : Mutex.wallet ∉ machine.shared.world.held := by
      simpa [walletService, stepEnabled] using advances.enabled
    have unheld : machine.shared.world.walletHolds = 0 := List.count_eq_zero.mpr enabled
    have taken : after.shared.world.walletHolds = 1 := moves unheld
    have otherOutside : phases mover.other = .outside := by
      by_contra otherInside
      have once := (guarded.held _ otherInside).1
      omega
    refine ⟨fun all => ?_, both _ (fun _ => ⟨taken, theirs.trans otherOutside⟩) fun otherIn => ?_⟩
    · have outsideAfter := all mover
      rw [own, inside] at outsideAfter
      exact absurd outsideAfter nofun
    · exact absurd (theirs.trans otherOutside) otherIn
  · by_cases unlocks : label = .unlock
    · subst unlocks
      obtain ⟨inside, outside⟩ := Phase.of_unlock advances.advanced
      obtain ⟨once, otherOutside⟩ := guarded.held mover inside
      have freed : after.shared.world.walletHolds = machine.shared.world.walletHolds - 1 := moves
      refine ⟨fun _ => by omega, both _ (fun ownIn => ?_) fun otherIn => ?_⟩
      · exact absurd (own.trans outside) ownIn
      · exact absurd (theirs.trans otherOutside) otherIn
    · have same : after.shared.world.walletHolds = machine.shared.world.walletHolds := by
        cases label <;> first | exact moves | contradiction
      have stays := Phase.of_other locks unlocks advances.advanced
      have iff : ∀ client, moved client = .outside ↔ phases client = .outside := by
        apply both
        · rw [own]
          exact stays
        · rw [theirs]
      refine ⟨fun all => ?_, fun client inside => ?_⟩
      · rw [same]
        exact guarded.unheld fun client => (iff client).mp (all client)
      · obtain ⟨once, otherOutside⟩ := guarded.held client fun outside =>
          inside ((iff client).mpr outside)
        exact ⟨by rw [same, once], (iff _).mpr otherOutside⟩

private theorem holding_step (guarded : Guarded machine phases)
    (advances : machine.Advances (walletService tb hid) (walletProtocol NanosWallet σ) phases
      after mover label phase) (client : Client) :
    holds client after.trace = true ↔ Function.update phases mover phase client ≠ .outside := by
  rw [advances.trace, holds_step]
  by_cases own : mover = client
  · subst own
    rw [if_pos rfl, Function.update_self]
    have before := guarded.holding mover
    by_cases locks : label = .lock
    · subst locks
      simp [Phase.of_lock advances.advanced]
    · by_cases unlocks : label = .unlock
      · subst unlocks
        simp [Phase.of_unlock advances.advanced]
      · have stays := Phase.of_other locks unlocks advances.advanced
        cases label
        case lock => exact absurd rfl locks
        case unlock => exact absurd rfl unlocks
        all_goals exact before.trans (not_congr stays.symm)
  · rw [if_neg own, Function.update_of_ne (Ne.symm own)]
    exact guarded.holding client

/-- Every considerate turn keeps the clients apart. -/
theorem Guarded.take (guarded : Guarded machine phases) {turn : Turn Client WalletOp}
    (considerate : machine.considerate turn = true)
    (taken : machine.take (walletService tb hid) turn = some after) :
    ∃ moved, Guarded after moved := by
  have ends : ∀ (outcome : Except Stop Unit) (phase : Phase),
      (walletService tb hid).ended outcome = true → Returned outcome phase → phase = .outside :=
    fun outcome phase ended returned => returned (of_decide_eq_true ended)
  rcases Machine.take_follow guarded.follow (fun op => op.routine_serves tb hid) ends taken with
    ⟨shared, trace, follow⟩ | ⟨mover, label, phase, rfl, advances, follow⟩
  · exact ⟨phases, follow, by rw [trace]; exact guarded.holding,
      by rw [shared]; exact guarded.unheld,
      by rw [shared]; exact guarded.held, by rw [trace]; exact guarded.sheltered,
      by rw [trace]; exact guarded.uncut⟩
  · obtain ⟨unheld, held⟩ := held_step guarded advances
    exact ⟨_, follow, holding_step guarded advances, unheld, held,
      sheltered_step guarded advances considerate, uncut_step guarded advances⟩

end Step

theorem Guarded.start {σ : Type} {scene : Scene NanosWallet σ} (idle : scene.world.held = []) :
    Guarded (Clients.start scene) fun _ => .outside where
  follow _ := rfl
  holding _ := by simp [Clients.start, holds]
  unheld _ := by simp [Clients.start, World.walletHolds, idle]
  held _ inside := absurd rfl inside
  sheltered _ attempting := absurd attempting nofun
  uncut := by
    intro client before between after split
    simp [Clients.start] at split

/-- In every run in which no `close` gets at the device from outside the mutex
while the other client is inside, no attempt is cut. -/
theorem exchange_uncut_when_considerate {σ : Type} (tb : Toolbox) (hid : Hidapi σ)
    {scene : Scene NanosWallet σ} (idle : scene.world.held = []) {machine : Clients σ}
    (reached : Machine.Runs (walletService tb hid) Clients.considerate (Clients.start scene)
      machine) : Uncut machine.trace := by
  have invariant : ∃ phases, Guarded machine phases := by
    induction reached with
    | start => exact ⟨_, .start idle⟩
    | turn _ turn permitted taken inductionHypothesis =>
        obtain ⟨phases, guarded⟩ := inductionHypothesis
        exact guarded.take permitted taken
  obtain ⟨phases, guarded⟩ := invariant
  exact guarded.uncut

/-- A wallet that is connected to a device that sends nothing. -/
def silentWallet : Scene NanosWallet Script :=
  (((WalletOp.init nanosPid).call Toolbox.reference Script.device).run
    (NanosWallet.first (.attachedWith []))).2

theorem silentWallet_reachable :
    WalletReachable Toolbox.reference Script.device silentWallet :=
  (NanosWallet.first_reachable (.attachedWith [])).step (.init nanosPid) trivial
    (by decide +kernel)

/-- The steps of an attempt up to its first read. -/
def attemptTrace : List (Client × Label) :=
  [(.one, .lock), (.one, .plain), (.one, .plain), (.one, .begins), (.one, .plain),
    (.one, .plain), (.one, .write), (.one, .plain), (.one, .read)]

/-- One client asks for a version, while the other one waits for the mutex. -/
theorem exchange_uncut_when_considerate_of_version : Uncut attemptTrace := by
  have traced : ((Clients.start silentWallet).play
      (walletService Toolbox.reference Script.device) Clients.considerate
      ([.call .two .getOpenedAppPid, .call .one (.getAppVersion 0)] ++
        List.replicate 9 (.step .one))).map Machine.trace = some attemptTrace := by
    decide +kernel
  obtain ⟨machine, played, same⟩ := Option.map_eq_some_iff.mp traced
  rw [← same]
  exact exchange_uncut_when_considerate Toolbox.reference Script.device
    silentWallet_reachable.settled.idle (Machine.Runs.start.play _ played)

/-- The steps of an attempt, with a `close` of the other client before its
read. -/
def cutTrace : List (Client × Label) :=
  attemptTrace.take 7 ++ [(.two, .plain), (.two, .close), (.one, .plain), (.one, .read)]

/-- One client asks for a version, and the other one calls `close` after the
request and before the response. -/
theorem close_cuts_exchange :
    ¬ ∀ (tb : Toolbox) (hid : Hidapi Script) (scene : Scene NanosWallet Script)
        (machine : Clients Script), WalletReachable tb hid scene →
        Machine.Runs (walletService tb hid) (fun _ _ => true) (Clients.start scene) machine →
        Uncut machine.trace := by
  intro uncut
  have traced : ((Clients.start silentWallet).play
      (walletService Toolbox.reference Script.device) (fun _ _ => true)
      ([.call .one (.getAppVersion 0)] ++ List.replicate 7 (.step .one) ++
        [.call .two .close, .step .two, .step .two] ++
        List.replicate 2 (.step .one))).map Machine.trace = some cutTrace := by
    decide +kernel
  obtain ⟨machine, played, same⟩ := Option.map_eq_some_iff.mp traced
  have whole := uncut Toolbox.reference Script.device silentWallet machine silentWallet_reachable
    (Machine.Runs.start.play _ played)
  rw [same] at whole
  exact whole .one (attemptTrace.take 6) [(.two, .plain), (.two, .close), (.one, .plain)] [] rfl
    (by decide) .close rfl (by decide)

end MhWallet
