import MhWallet.Framing.Receipt
import MhWallet.Wallet.Commands
import MhWallet.Wallet.Connection

/-!
Contract: the validity flag of a wallet and the handle of its device.

Between two calls no mutex is held and a wallet with a handle is valid.  A
valid wallet without a handle is left behind by `init` and `init_root` alone.

Owns: the invariant of every wallet run, and the exact condition under which a
call keeps the flag and the handle in agreement.
-/

namespace MhWallet

open MhWallet.Effect MhWallet.Method

namespace NanosWallet

variable {σ : Type} (tb : Toolbox) (hid : Hidapi σ) {scene : Scene NanosWallet σ}

/-- `m_valid` agrees with `m_framer.io().valid()`. -/
def Consistent (wallet : NanosWallet) : Prop :=
  wallet.mValid = true ↔ wallet.mFramer.mIo.valid = true

/-- A wallet with a handle is valid. -/
def Flagged (wallet : NanosWallet) : Prop :=
  wallet.mFramer.mIo.valid = true → wallet.mValid = true

/-- Every scene between two calls, and with `[.wallet]` every scene inside one
that is under the wallet's mutex. -/
structure Settled (held : List Mutex) (scene : Scene NanosWallet σ) : Prop where
  idle : scene.world.held = held
  room : scene.self.mFramer.mBuffer.length ≤ 64
  placed : scene.self.mFramer.Placed
  flagged : Flagged scene.self

namespace Settled

variable {held : List Mutex}

theorem entered (settled : Settled [] scene) : Settled [.wallet] (entered scene) :=
  ⟨by simp [NanosWallet.entered, World.acquire, settled.idle], settled.room, settled.placed,
    settled.flagged⟩

theorem left (settled : Settled [.wallet] scene) : Settled [] (left scene) :=
  ⟨by simp [NanosWallet.left, World.release, settled.idle], settled.room, settled.placed,
    settled.flagged⟩

theorem listed (settled : Settled held scene) (vendorId productId : UInt16) :
    Settled held (listed hid vendorId productId scene) :=
  ⟨settled.idle, settled.room, settled.placed, settled.flagged⟩

theorem dropped (settled : Settled held scene) : Settled held (dropped hid scene) := by
  refine ⟨by simp [settled.idle], ?_, ?_, ?_⟩
  · unfold NanosWallet.dropped
    split
    · exact settled.room
    · exact settled.room
  · unfold NanosWallet.dropped
    split
    · exact settled.placed
    · exact settled.placed
  · unfold NanosWallet.dropped
    split
    · intro valid
      simp [closed, withDevice, closedDevice, HidppDevice.valid] at valid
    · exact settled.flagged

theorem close (settled : Settled held scene)
    (free : scene.self.mFramer.mIo.mDevLock ∉ held) :
    Settled held ((NanosWallet.close hid).run scene).2 := by
  rw [close_run hid (by rw [settled.idle]; exact free)]
  refine ⟨by simp [settled.idle], settled.room, settled.placed, ?_⟩
  intro valid
  simp [closed, withDevice, closedDevice, HidppDevice.valid] at valid

theorem attempt (settled : Settled held scene) (vendorId productId : UInt16) :
    Settled held (attempt tb hid vendorId productId scene).2 := by
  refine ⟨by simp [settled.idle], Nat.le_of_eq (attempt_room ..), ?_, ?_⟩
  · unfold NanosWallet.attempt
    dsimp only
    split <;> exact .inl rfl
  intro valid
  rw [HidppDevice.valid, attempt_handle] at valid
  rw [attempt_valid]
  split at valid
  next opened => simp [opened]
  next => simp at valid

theorem initOutcome (settled : Settled held scene) (productId : UInt16) :
    Settled held (initOutcome tb hid productId scene).2 := by
  have looked := (settled.listed hid ledgerVid nanosPidRoot).listed hid ledgerVid productId
  rcases initOutcome_cases tb hid productId scene with same | ⟨_, _, same⟩
  · rw [same]
    exact looked
  · rw [same]
    exact looked.attempt tb hid _ _

theorem initRootOutcome (settled : Settled held scene) :
    Settled held (initRootOutcome tb hid scene).2 := by
  have looked := settled.listed hid ledgerVid nanosPidRoot
  rcases initRootOutcome_cases tb hid scene with same | ⟨_, _, same⟩
  · rw [same]
    exact looked
  · rw [same]
    exact looked.attempt tb hid _ _

theorem initExtOutcome (settled : Settled held scene) (productId : UInt16) :
    Settled held (initExtOutcome tb hid productId scene).2 := by
  have looked := settled.listed hid ledgerVid productId
  have lookedAgain := (looked.dropped hid).listed hid ledgerVid nanosPidRoot
  rcases initExtOutcome_cases tb hid productId scene with same | same | ⟨_, _, same⟩
  · rw [same]
    exact looked
  · rw [same]
    exact lookedAgain
  · rw [same]
    exact lookedAgain.attempt tb hid _ _

theorem initExtRootOutcome (settled : Settled held scene) :
    Settled held (initExtRootOutcome tb hid scene).2 := by
  have looked := settled.listed hid ledgerVid nanosPidRoot
  rcases initExtRootOutcome_cases tb hid scene with same | same | ⟨_, _, same⟩
  · rw [same]
    exact looked
  · rw [same]
    exact looked.dropped hid
  · rw [same]
    exact (looked.dropped hid).attempt tb hid _ _

end Settled

/-! ## The retry loop -/

private theorem flag_rule (apdu : Apdu) (resCode : Option UInt16) :
    LoopRule tb hid apdu resCode
      (fun wallet world => Settled [.wallet] ⟨wallet, world⟩ ∧ wallet.mValid = true)
      (fun outcome wallet world => Ended outcome →
        Settled [.wallet] ⟨wallet, world⟩ ∧ Consistent wallet) where
  broken := by
    intro wallet world ⟨settled, _⟩ null _
    have consistent : Consistent { wallet with mValid := false } := by
      simp [Consistent, HidppDevice.valid, null]
    exact ⟨⟨settled.idle, settled.room, settled.placed, consistent.mpr⟩, consistent⟩
  ended := by
    intro wallet world handle outcome framer reached ⟨settled, valid⟩ live ran _ ended
    have ready : Ready wallet world :=
      ⟨by rw [show world.held = _ from settled.idle]; simp [HidppDevice.mDevLock], settled.room⟩
    obtain ⟨readyAfter, sameDevice, env, reports, results, grown, _⟩ :=
      ready.afterAttempt tb hid live ran ended
    have consistent : Consistent { wallet with mFramer := framer } := by
      simp [Consistent, HidppDevice.valid, sameDevice, live, valid]
    have placed := FrameIoApdu.exchange_placed tb hid settled.placed live ready.free ready.room
      ran ended
    refine ⟨⟨?_, readyAfter.room, placed, consistent.mpr⟩, consistent⟩
    rw [grown]
    exact settled.idle
  retried := by
    intro wallet world handle expected given framer reached ⟨settled, valid⟩ live ran
    have ready : Ready wallet world :=
      ⟨by rw [show world.held = _ from settled.idle]; simp [HidppDevice.mDevLock], settled.room⟩
    obtain ⟨readyAfter, sameDevice, env, reports, results, grown, _⟩ :=
      ready.afterAttempt tb hid live ran trivial
    have liveAfter : ({ wallet with mFramer := framer } : NanosWallet).mFramer.mIo.mDev =
        some handle := by
      rw [show framer.mIo = _ from sameDevice, live]
    have placed := FrameIoApdu.exchange_placed tb hid settled.placed live ready.free ready.room
      ran trivial
    refine ⟨_, _, reopen_run hid liveAfter readyAfter.free,
      ⟨⟨?_, readyAfter.room, placed, ?_⟩, valid⟩,
      fun ended => ended.elim⟩
    · rw [HidppDevice.afterOpen_held, grown]
      exact settled.idle
    · exact fun _ => valid

/-- An exchange on a valid wallet that came back leaves the flag and the handle
in agreement; on an invalid one it changes nothing. -/
theorem exchange_settled (settled : Settled [] scene) (retries : Nat) (apdu : Apdu)
    (resCode : Option UInt16)
    (ended : Ended ((exchange tb hid retries apdu resCode).run scene).1) :
    let reached := ((exchange tb hid retries apdu resCode).run scene).2
    Settled [] reached ∧ (scene.self.mValid = true → Consistent reached.self) ∧
      (scene.self.mValid = false → reached.self = scene.self) := by
  have free : Mutex.wallet ∉ scene.world.held := World.free_of_idle settled.idle _
  rcases (flag_rule tb hid apdu resCode).call free (fun valid => ⟨settled.entered, valid⟩)
    retries with ⟨invalid, refused⟩ | ⟨outcome, next, after, valid, looped, called⟩
  · have same : (exchange tb hid retries apdu resCode).run scene = _ := refused
    rw [same]
    exact ⟨⟨settled.idle, settled.room, settled.placed, settled.flagged⟩, by simp [invalid],
      fun _ => rfl⟩
  · have same : (exchange tb hid retries apdu resCode).run scene = _ := called
    rw [same] at ended ⊢
    obtain ⟨inside, consistent⟩ := looped ended
    rw [if_pos ended]
    exact ⟨inside.left, fun _ => consistent, by simp [valid]⟩

/-! ## The other calls -/

theorem Consistent.flagged {wallet : NanosWallet} (consistent : Consistent wallet) :
    Flagged wallet := consistent.mpr

@[simp] theorem closed_consistent (wallet : NanosWallet) : Consistent wallet.closed := by
  simp [Consistent, closed, withDevice, closedDevice, HidppDevice.valid]

theorem dropped_consistent (scene : Scene NanosWallet σ) (consistent : Consistent scene.self) :
    Consistent (dropped hid scene).self ∧ (dropped hid scene).self.mValid = false := by
  unfold dropped
  split
  · exact ⟨closed_consistent _, rfl⟩
  next invalid => exact ⟨consistent, by simpa using invalid⟩

/-- An attempt leaves the flag and the handle in agreement exactly if it opened
a device or the wallet was not valid. -/
theorem attempt_consistent_iff (vendorId productId : UInt16) :
    Consistent (attempt tb hid vendorId productId scene).2.self ↔
      ¬ (scene.self.mValid = true ∧
        dialAnswer hid vendorId productId scene.world.env = false) := by
  rw [Consistent, HidppDevice.valid, attempt_handle, attempt_valid, attempt_fst]
  cases dialAnswer hid vendorId productId scene.world.env <;> cases scene.self.mValid <;> simp

theorem initExtOutcome_consistent (consistent : Consistent scene.self) (productId : UInt16) :
    Consistent (initExtOutcome tb hid productId scene).2.self := by
  obtain ⟨agreed, invalid⟩ := dropped_consistent hid
    (listed hid ledgerVid productId scene) consistent
  rcases initExtOutcome_cases tb hid productId scene with same | same | ⟨_, _, same⟩
  · rw [same]
    exact consistent
  · rw [same]
    exact agreed
  · rw [same]
    apply (attempt_consistent_iff tb hid _ _).mpr
    intro refused
    exact Bool.false_ne_true (invalid.symm.trans refused.1)

theorem initExtRootOutcome_consistent (consistent : Consistent scene.self) :
    Consistent (initExtRootOutcome tb hid scene).2.self := by
  obtain ⟨agreed, invalid⟩ := dropped_consistent hid
    (listed hid ledgerVid nanosPidRoot scene) consistent
  rcases initExtRootOutcome_cases tb hid scene with same | same | ⟨_, _, same⟩
  · rw [same]
    exact consistent
  · rw [same]
    exact agreed
  · rw [same]
    apply (attempt_consistent_iff tb hid _ _).mpr
    intro refused
    exact Bool.false_ne_true (invalid.symm.trans refused.1)

/-- `init` finds a device to open, and the open fails. -/
def InitRefused (hid : Hidapi σ) (productId : UInt16) (env : σ) : Prop :=
  let afterRoot := (hid.enumerate env).2
  found hid ledgerVid nanosPidRoot env = [] ∧
    ∃ device rest, found hid ledgerVid productId afterRoot = device :: rest ∧
      dialAnswer hid device.vendorId productId (hid.enumerate afterRoot).2 = false

/-- `init_root` finds a device to open, and the open fails. -/
def InitRootRefused (hid : Hidapi σ) (env : σ) : Prop :=
  ∃ device rest, found hid ledgerVid nanosPidRoot env = device :: rest ∧
    dialAnswer hid device.vendorId device.productId (hid.enumerate env).2 = false

theorem initOutcome_consistent_iff (consistent : Consistent scene.self) (productId : UInt16) :
    Consistent (initOutcome tb hid productId scene).2.self ↔
      ¬ (scene.self.mValid = true ∧ InitRefused hid productId scene.world.env) := by
  rw [initOutcome, InitRefused]
  split
  next root =>
    apply iff_of_true consistent
    intro refused
    exact root refused.2.1
  next noRoot =>
    split
    next noApp =>
      apply iff_of_true consistent
      rintro ⟨_, _, device, rest, apps, _⟩
      rw [listed_env, apps] at noApp
      simp at noApp
    next device rest apps =>
      rw [attempt_consistent_iff]
      apply not_congr
      constructor
      · rintro ⟨valid, refused⟩
        exact ⟨valid, not_not.mp noRoot, device, rest, apps, refused⟩
      · rintro ⟨valid, _, other, others, same, refused⟩
        rw [listed_env, same, List.cons.injEq] at apps
        obtain ⟨rfl, _⟩ := apps
        exact ⟨valid, refused⟩

theorem initRootOutcome_consistent_iff (consistent : Consistent scene.self) :
    Consistent (initRootOutcome tb hid scene).2.self ↔
      ¬ (scene.self.mValid = true ∧ InitRootRefused hid scene.world.env) := by
  rw [initRootOutcome, InitRootRefused]
  split
  next noRoot =>
    apply iff_of_true consistent
    rintro ⟨_, device, rest, found, _⟩
    rw [noRoot] at found
    simp at found
  next device rest devices =>
    rw [attempt_consistent_iff]
    apply not_congr
    constructor
    · rintro ⟨valid, refused⟩
      exact ⟨valid, device, rest, devices, refused⟩
    · rintro ⟨valid, other, others, same, refused⟩
      rw [devices, List.cons.injEq] at same
      obtain ⟨rfl, _⟩ := same
      exact ⟨valid, refused⟩

end NanosWallet

/-! ## Runs -/

namespace WalletOp

open NanosWallet

variable {σ : Type} (tb : Toolbox) (hid : Hidapi σ)

/-- A call that is not `init` or `init_root` on a valid wallet with an open that
fails. -/
def KeepsFlag (scene : Scene NanosWallet σ) : WalletOp → Prop
  | .init productId =>
      ¬ (scene.self.mValid = true ∧ InitRefused hid productId scene.world.env)
  | .initRoot => ¬ (scene.self.mValid = true ∧ InitRootRefused hid scene.world.env)
  | _ => True

/-- A judgement that composes holds of the calls without `init` and `init_root`
if it holds of those of them that are no commands. -/
theorem call_composes {judgement : {α : Type} → Method NanosWallet σ α → Prop}
    (composes : Action.Composes judgement)
    (exchanged : ∀ retries apdu resCode,
      judgement (NanosWallet.exchange tb hid retries apdu resCode))
    (enumerated : ∀ vendorId productId,
      judgement (enumerateDevices hid vendorId productId : Method NanosWallet σ _))
    (opened : judgement (NanosWallet.getOpenedAppPid hid))
    (closed : judgement (NanosWallet.close hid))
    (connected : ∀ productId, judgement (NanosWallet.initExt tb hid productId))
    (connectedRoot : judgement (NanosWallet.initExtRoot tb hid))
    (op : WalletOp) (noInit : ∀ productId, op ≠ .init productId) (noInitRoot : op ≠ .initRoot) :
    judgement (op.call tb hid) := by
  cases op with
  | init productId => exact absurd rfl (noInit productId)
  | initRoot => exact absurd rfl noInitRoot
  | initExt productId => exact composes.map (connected productId) _
  | initExtRoot => exact composes.map connectedRoot _
  | reopenWithApp productId =>
      exact composes.map (composes.bind closed fun _ => connected productId) _
  | close => exact closed
  | exchange retries apdu resCode => exact composes.map (exchanged retries apdu resCode) _
  | getAddress retries deriveIndex silent =>
      exact composes.map (getAddress_composes composes exchanged retries deriveIndex silent) _
  | signTx retries rawTx deriveIndex =>
      exact composes.map (signTx_composes composes exchanged retries rawTx deriveIndex) _
  | getAppVersion retries =>
      exact composes.map (getAppVersion_composes composes exchanged retries) _
  | getAppList retries => exact composes.map (getAppList_composes composes exchanged retries) _
  | runApp retries name =>
      exact composes.map (runApp_composes composes exchanged enumerated retries name) _
  | getOpenedAppPid => exact composes.map opened _

/-- What a call that came back keeps between calls. -/
abbrev Kept {α : Type} (property : Scene NanosWallet σ → Prop)
    (action : Method NanosWallet σ α) : Prop :=
  Action.Within Stop.Unwinds (Action.Keeps property) action

theorem counts_iff_ended {α : Type} (outcome : Except Stop α) :
    Action.Counts Stop.Unwinds outcome ↔ Ended outcome := by
  cases outcome <;> rfl

/-- A call with a known outcome under the wallet's mutex keeps what its outcome
keeps. -/
private theorem kept_of_run {α : Type} {property : Scene NanosWallet σ → Prop}
    {action : Method NanosWallet σ α} {outcome : Scene NanosWallet σ → α × Scene NanosWallet σ}
    (settled : ∀ scene, property scene → Settled [] scene)
    (ran : ∀ scene : Scene NanosWallet σ, scene.world.held = [] → action.run scene =
      (.ok (outcome (entered scene)).1, left (outcome (entered scene)).2))
    (keeps : ∀ scene, property scene → property (left (outcome (entered scene)).2)) :
    Kept property action := by
  intro scene _ holds
  rw [ran scene (settled scene holds).idle]
  exact keeps scene holds

theorem settled_kept (op : WalletOp) : Kept (Settled []) (op.call tb hid) := by
  have walk := Action.Keeps.walk (Settled [] : Scene NanosWallet σ → Prop)
  by_cases init : ∃ productId, op = .init productId
  · obtain ⟨productId, rfl⟩ := init
    exact .map walk (kept_of_run (fun _ => id) (fun _ idle => init_run tb hid idle productId)
      fun _ settled => (settled.entered.initOutcome tb hid productId).left) _
  · by_cases initRoot : op = .initRoot
    · rw [initRoot]
      exact .map walk (kept_of_run (fun _ => id) (fun _ idle => initRoot_run tb hid idle)
        fun _ settled => (settled.entered.initRootOutcome tb hid).left) _
    · apply call_composes tb hid (Action.Within.composes walk)
      · intro retries apdu resCode scene counts settled
        exact (exchange_settled tb hid settled retries apdu resCode
          ((counts_iff_ended _).mp counts)).1
      · exact fun vendorId productId _ _ settled => settled.listed hid vendorId productId
      · intro scene _ settled
        rw [getOpenedAppPid_run hid settled.idle]
        exact (settled.entered.listed hid _ _).left
      · exact fun scene _ settled => settled.close hid List.not_mem_nil
      · exact fun productId => kept_of_run (fun _ => id)
          (fun _ idle => initExt_run tb hid idle productId)
          fun _ settled => (settled.entered.initExtOutcome tb hid productId).left
      · exact kept_of_run (fun _ => id) (fun _ idle => initExtRoot_run tb hid idle)
          fun _ settled => (settled.entered.initExtRootOutcome tb hid).left
      · exact fun productId same => init ⟨productId, same⟩
      · exact initRoot

/-- Between calls, with the flag and the handle in agreement. -/
def Agreed (scene : Scene NanosWallet σ) : Prop :=
  Settled [] scene ∧ Consistent scene.self

theorem agreed_kept (op : WalletOp) (noInit : ∀ productId, op ≠ .init productId)
    (noInitRoot : op ≠ .initRoot) : Kept Agreed (op.call tb hid) := by
  refine call_composes tb hid (Action.Within.composes (Action.Keeps.walk _)) ?_ ?_ ?_ ?_ ?_ ?_
    op noInit noInitRoot
  · intro retries apdu resCode scene counts ⟨settled, consistent⟩
    obtain ⟨after, onValid, onInvalid⟩ := exchange_settled tb hid settled retries apdu resCode
      ((counts_iff_ended _).mp counts)
    refine ⟨after, ?_⟩
    rcases valid : scene.self.mValid with _ | _
    · rw [onInvalid valid]
      exact consistent
    · exact onValid valid
  · exact fun vendorId productId _ _ agreed =>
      ⟨agreed.1.listed hid vendorId productId, agreed.2⟩
  · intro scene _ agreed
    rw [getOpenedAppPid_run hid agreed.1.idle]
    exact ⟨(agreed.1.entered.listed hid _ _).left, agreed.2⟩
  · intro scene _ agreed
    refine ⟨agreed.1.close hid List.not_mem_nil, ?_⟩
    rw [close_run hid (by rw [agreed.1.idle]; exact List.not_mem_nil)]
    exact closed_consistent _
  · intro productId
    refine kept_of_run (fun _ => And.left) (fun _ idle => initExt_run tb hid idle productId) ?_
    intro scene ⟨settled, consistent⟩
    have inside : Consistent (entered scene).self := consistent
    exact ⟨(settled.entered.initExtOutcome tb hid productId).left,
      initExtOutcome_consistent tb hid inside productId⟩
  · refine kept_of_run (fun _ => And.left) (fun _ idle => initExtRoot_run tb hid idle) ?_
    intro scene ⟨settled, consistent⟩
    have inside : Consistent (entered scene).self := consistent
    exact ⟨(settled.entered.initExtRootOutcome tb hid).left,
      initExtRootOutcome_consistent tb hid inside⟩

/-- A call that came back keeps the agreement exactly if it meets the
condition. -/
theorem consistent_after_iff {scene : Scene NanosWallet σ} (agreed : Agreed scene)
    (op : WalletOp) (ended : Ended ((op.call tb hid).run scene).1) :
    Consistent ((op.call tb hid).run scene).2.self ↔ op.KeepsFlag hid scene := by
  have inside : Consistent (entered scene).self := agreed.2
  by_cases init : ∃ productId, op = .init productId
  · obtain ⟨productId, rfl⟩ := init
    rw [call, Action.run_map_state, init_run tb hid agreed.1.idle]
    exact initOutcome_consistent_iff tb hid inside productId
  · by_cases initRoot : op = .initRoot
    · subst initRoot
      rw [call, Action.run_map_state, initRoot_run tb hid agreed.1.idle]
      exact initRootOutcome_consistent_iff tb hid inside
    · have kept := agreed_kept tb hid op (fun productId same => init ⟨productId, same⟩) initRoot
        scene ((counts_iff_ended _).mpr ended) agreed
      apply iff_of_true kept.2
      cases op with
      | init productId => exact absurd ⟨productId, rfl⟩ init
      | initRoot => exact absurd rfl initRoot
      | _ => trivial

end WalletOp

namespace NanosWallet

variable {σ : Type} {tb : Toolbox} {hid : Hidapi σ} {scene : Scene NanosWallet σ}

theorem construct_agreed {env : σ} {wallet : NanosWallet} {world : World σ}
    (ran : (construct tb hid).run ⟨(), .initial env⟩ = (.ok wallet, ⟨(), world⟩)) :
    WalletOp.Agreed (⟨wallet, world⟩ : Scene NanosWallet σ) := by
  rw [construct_run tb hid List.not_mem_nil] at ran
  simp only [Prod.mk.injEq, Except.ok.injEq, Scene.mk.injEq, true_and] at ran
  obtain ⟨rfl, rfl⟩ := ran
  have consistent : Consistent { mFramer := .fresh tb (newDevice 1), mValid := false } := by
    simp [Consistent, newDevice, HidppDevice.valid]
  exact ⟨⟨rfl, by simp, .inl rfl, consistent.flagged⟩, consistent⟩

end NanosWallet

/-- Every scene between two calls is settled. -/
theorem WalletRun.settled {σ : Type} {tb : Toolbox} {hid : Hidapi σ}
    {scene : Scene NanosWallet σ} {Allowed : Scene NanosWallet σ → WalletOp → Prop}
    (reached : WalletRun tb hid Allowed scene) : NanosWallet.Settled [] scene := by
  induction reached with
  | construct ran => exact (NanosWallet.construct_agreed ran).1
  | step _ op _ ended inductionHypothesis =>
      exact op.settled_kept tb hid _ ((WalletOp.counts_iff_ended _).mpr ended)
        inductionHypothesis

namespace NanosWallet

variable {σ : Type} {tb : Toolbox} {hid : Hidapi σ} {scene : Scene NanosWallet σ}

/-- In a run in which no `init` or `init_root` on a valid wallet met a failing
open, the flag agrees with the handle, and the next call keeps it so exactly if
it is not such a call either. -/
theorem flag_agrees_with_handle (reached : WalletRun tb hid (fun scene op =>
    op.KeepsFlag hid scene) scene) :
    Consistent scene.self ∧ ∀ op : WalletOp, Ended ((op.call tb hid).run scene).1 →
      (Consistent ((op.call tb hid).run scene).2.self ↔ op.KeepsFlag hid scene) := by
  have agreed : WalletOp.Agreed scene := by
    induction reached with
    | construct ran => exact construct_agreed ran
    | step earlier op allowed ended inductionHypothesis =>
        exact ⟨op.settled_kept tb hid _ ((WalletOp.counts_iff_ended _).mpr ended)
          inductionHypothesis.1,
          (op.consistent_after_iff tb hid inductionHypothesis ended).mpr allowed⟩
  exact ⟨agreed.2, fun op ended => op.consistent_after_iff tb hid agreed ended⟩

/-- A wallet that opened its device agrees. -/
theorem flag_agrees_with_handle_of_init :
    Consistent ((WalletOp.init nanosPid).call Toolbox.reference Script.device |>.run
      (first (.attachedWith []))).2.self :=
  (flag_agrees_with_handle (.step (.construct rfl) (.init nanosPid)
    (fun refused => Bool.false_ne_true refused.1) (by decide +kernel))).1

/-- The device of a valid wallet is unplugged between the enumeration and the
open of a second `init`. -/
theorem init_leaves_flag_without_handle :
    ¬ ∀ (tb : Toolbox) (hid : Hidapi Script) (scene : Scene NanosWallet Script),
      WalletReachable tb hid scene → Consistent scene.self := by
  intro agrees
  let unplugged : Script :=
    { attached := [[], [{ path := "", vendorId := ledgerVid, productId := nanosPid }],
        [], [{ path := "", vendorId := ledgerVid, productId := nanosPid }]],
      opens := [true, false], writes := [], reads := [] }
  have reached := ((first_reachable unplugged).step (.init nanosPid) trivial
    (by decide +kernel)).step (.init nanosPid) trivial (by decide +kernel)
  have agreed := agrees Toolbox.reference Script.device _ reached
  revert agreed
  unfold Consistent
  decide +kernel

end NanosWallet

end MhWallet
