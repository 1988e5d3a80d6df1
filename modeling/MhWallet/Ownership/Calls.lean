import MhWallet.Ownership.Transfer
import MhWallet.Wallet.Flag

/-!
Contract: every call of the framer and of the wallet accounts for the handle of
the object, and `init` and `init_root` alone may leave one behind.

Owns: the handles that a wallet call leaves without an object.
-/

namespace MhWallet

open MhWallet.Effect MhWallet.Method

/-! ## The framer -/

namespace FrameIo

variable {σ : Type} (tb : Toolbox) (hid : Hidapi σ)

theorem onIo_conserving {α : Type} {inner : Method HidppDevice σ α}
    (conserving : Conserving inner) : Conserving (onMember io inner) :=
  .onMember conserving (fun _ => rfl) (fun _ _ => rfl)

theorem accept_conserving (out : Bytes) :
    Conserving (accept tb out : Method FrameIo σ (Nat × Bytes)) := by
  refine .bind .self fun framer => .bind (.orOutOfRange _) fun channelId =>
    .bind (.orOutOfRange _) fun commandTag => .bind (.orOutOfRange _) fun cseq => ?_
  split
  · exact .throw _
  · split
    · exact .throw _
    · split
      · exact .throw _
      · exact .bind (.orOutOfRange _) fun content =>
          .bind (.updateSelf fun _ => rfl) fun _ => .pure _

theorem read_conserving (out : Bytes) : Conserving (read tb hid out) := by
  refine .bind .self fun framer =>
    .bind (onIo_conserving (HidppDevice.read_conserving tb hid _ _)) fun result =>
      .bind (.updateSelf fun _ => rfl) fun _ => ?_
  split
  · exact .pure _
  · exact accept_conserving tb out

theorem writeLoop_conserving (rounds : Nat) (buffer chunk : Bytes) (cseq : UInt16) :
    Conserving (writeLoop tb hid rounds buffer chunk cseq) := by
  induction rounds generalizing buffer chunk cseq with
  | zero =>
      unfold writeLoop
      split
      · exact .pure _
      · exact .stop _
  | succ rounds inductionHypothesis =>
      unfold writeLoop
      split
      · exact .pure _
      · exact .bind (.orOutOfRange _) fun toUsb =>
          .bind (onIo_conserving (HidppDevice.write_conserving hid toUsb)) fun _ =>
            inductionHypothesis _ _ _

theorem write_conserving (apdu : Apdu) : Conserving (write tb hid apdu) :=
  .bind (writeLoop_conserving tb hid _ _ _ _) fun _ => .pure _

end FrameIo

namespace FrameIoApdu

variable {σ : Type} (tb : Toolbox) (hid : Hidapi σ)

theorem onFrameIo_conserving {α : Type} {inner : Method FrameIo σ α}
    (conserving : Conserving inner) : Conserving (onMember frameIo inner) :=
  .onMember conserving (fun _ => rfl) (fun _ _ => rfl)

theorem readMore_conserving (buffer : Bytes) : Conserving (readMore tb hid buffer) :=
  .bind (onFrameIo_conserving (FrameIo.read_conserving tb hid buffer)) fun _ =>
    .bind (.updateSelf fun _ => rfl) fun _ => .pure _

theorem readRest_conserving (respLen : UInt16) (rounds : Nat) (buffer : Bytes) :
    Conserving (readRest tb hid respLen rounds buffer) := by
  induction rounds generalizing buffer with
  | zero =>
      unfold readRest
      refine .bind .self fun framer => ?_
      split
      · exact .stop _
      · exact .pure _
  | succ rounds inductionHypothesis =>
      unfold readRest
      refine .bind .self fun framer => ?_
      split
      · exact .bind (readMore_conserving tb hid buffer) fun buffer =>
          inductionHypothesis buffer
      · exact .pure _

theorem conclude_conserving (respLen : UInt16) (buffer : Bytes)
    (statusCode : Option UInt16) :
    Conserving (conclude tb respLen buffer statusCode : Method _ σ _) := by
  unfold conclude
  split
  · refine .bind (.orOutOfRange _) fun resp => .bind (.orOutOfRange _) fun respCode => ?_
    cases statusCode with
    | none => exact .bind (.pure _) fun _ => .bind (.updateSelf fun _ => rfl) fun _ => .pure _
    | some status =>
        exact .bind (.map (.orOutOfRange _) _) fun _ =>
          .bind (.updateSelf fun _ => rfl) fun _ => .pure _
  · exact .bind (.updateSelf fun _ => rfl) fun _ => .pure _

theorem exchange_conserving (apdu : Apdu) (statusCode : Option UInt16) :
    Conserving (exchange tb hid apdu statusCode) := by
  unfold exchange
  split
  · exact .throw _
  · exact .bind (onFrameIo_conserving (.updateSelf fun _ => rfl)) fun _ =>
      .bind (onFrameIo_conserving (FrameIo.write_conserving tb hid apdu)) fun _ =>
        .bind (readMore_conserving tb hid _) fun buffer =>
          .bind (.orOutOfRange _) fun declared =>
            .bind (readRest_conserving tb hid _ _ _) fun buffer =>
              conclude_conserving tb _ _ _

end FrameIoApdu

/-! ## The wallet -/

namespace NanosWallet

variable {σ : Type} (tb : Toolbox) (hid : Hidapi σ)

theorem onIo_conserving {α : Type} {inner : Method HidppDevice σ α}
    (conserving : Conserving inner) : Conserving (onMember io inner) :=
  .onMember conserving (fun _ => rfl) (fun _ _ => rfl)

theorem close_conserving : Conserving (close hid) := by
  refine .bind .self fun wallet => ?_
  dsimp only
  split
  · exact .bind (onIo_conserving (HidppDevice.close_conserving hid)) fun _ =>
      .updateSelf fun _ => rfl
  · exact .updateSelf fun _ => rfl

theorem destroy_conserving : Conserving (destroy hid) :=
  .bind (close_conserving hid) fun _ => onIo_conserving (HidppDevice.close_conserving hid)

/-- Closing a device whose mutex is free leaves it without a handle. -/
theorem closeDevice_null {wallet : NanosWallet} {world : World σ}
    (free : wallet.mFramer.mIo.mDevLock ∉ world.held) :
    ∃ reached, (onMember io (HidppDevice.close hid)).run ⟨wallet, world⟩ = (.ok (), reached) ∧
      reached.self.mFramer.mIo.mDev = none ∧
      reached.self.mFramer.mIo.mDevLock ∉ reached.world.held := by
  have ran := HidppDevice.close_run hid free
  rw [run_onMember]
  simp only [io]
  rw [ran]
  rcases device : wallet.mFramer.mIo.mDev with _ | handle
  · exact ⟨_, rfl, device, free⟩
  · exact ⟨_, rfl, rfl, free⟩

/-- Opening a device that has no handle conserves all handles. -/
theorem openDevice_transfers {scene : Scene NanosWallet σ}
    (null : scene.self.mFramer.mIo.mDev = none)
    (free : scene.self.mFramer.mIo.mDevLock ∉ scene.world.held) :
    Transfers 0 scene ((onMember io (HidppDevice.open hid)).run scene).2 := by
  have opened := HidppDevice.open_transfers hid free
  rw [null] at opened
  exact opened.lift rfl rfl rfl

/-- Reopening closes the handle before it asks for another one. -/
theorem reopen_conserving : Conserving (reopen hid) := by
  intro ⟨wallet, world⟩ _
  have closed := (onIo_conserving (HidppDevice.close_conserving hid)).transfers ⟨wallet, world⟩
  by_cases free : wallet.mFramer.mIo.mDevLock ∉ world.held
  · obtain ⟨reached, ran, null, freeReached⟩ := closeDevice_null hid free
    rw [ran] at closed
    have opened : Transfers 0 reached
        (((fun _ => ()) <$> onMember io (HidppDevice.open hid)).run reached).2 := by
      rw [Action.run_map_state]
      exact openDevice_transfers hid null freeReached
    rw [reopen, Action.run_bind_ok ran]
    exact Transfers.walk.go closed opened
  · have blocked : (HidppDevice.close hid).run ⟨wallet.mFramer.mIo, world⟩ = (.error _, _) :=
      run_withLock_of_held (not_not.mp free) wallet.mFramer.mIo _
    have ran : (onMember io (HidppDevice.close hid)).run ⟨wallet, world⟩ =
        (.error (.deadlocks wallet.mFramer.mIo.mDevLock),
          ⟨wallet, world.record (.lock wallet.mFramer.mIo.mDevLock)⟩) := by
      rw [run_onMember]
      simp only [io]
      rw [blocked]
    rw [ran] at closed
    rw [reopen, Action.run_bind_error ran]
    exact closed

/-- A round of the loop; only an exception leads to another one. -/
theorem exchangeRound_conserving (apdu : Apdu) (resCode : Option UInt16)
    {again : Method NanosWallet σ (Bytes × Option UInt16)} (next : Conserving again) :
    Conserving (exchangeRound tb hid apdu resCode again) := by
  refine .bind .self fun wallet => ?_
  cases wallet.mFramer.mIo.mDev with
  | none => exact .bind (.updateSelf fun _ => rfl) fun _ => .pure _
  | some handle =>
      have attempt : Conserving (onMember framer (FrameIoApdu.exchange tb hid apdu resCode)) :=
        .onMember (FrameIoApdu.exchange_conserving tb hid apdu resCode) (fun _ => rfl)
          fun _ _ => rfl
      have retry : Conserving (do reopen hid; again) :=
        .bind (reopen_conserving hid) fun _ => next
      refine Action.Within.recover Transfers.walk attempt fun reason following handled =>
        ⟨trivial, ?_⟩
      split at handled
      next =>
        simp only [Option.some.injEq] at handled
        rw [← handled]
        exact retry
      next => simp at handled

theorem exchangeLoop_conserving (apdu : Apdu) (resCode : Option UInt16) (retries : Nat) :
    Conserving (exchangeLoop tb hid apdu resCode retries) := by
  induction retries with
  | zero => exact exchangeRound_conserving tb hid apdu resCode (.stop _)
  | succ retries inductionHypothesis =>
      exact exchangeRound_conserving tb hid apdu resCode inductionHypothesis

theorem exchange_conserving (retries : Nat) (apdu : Apdu) (resCode : Option UInt16) :
    Conserving (exchange tb hid retries apdu resCode) := by
  refine .withLock (.bind .self fun wallet => ?_)
  split
  · exact exchangeLoop_conserving tb hid apdu resCode retries
  · exact .throw _

/-! ## The connection calls -/

section Connection

variable {held : List Mutex} {leaked : Multiset Handle} {scene : Scene NanosWallet σ}

theorem listed_transfers (vendorId productId : UInt16) :
    Transfers 0 scene (listed hid vendorId productId scene) :=
  .ofQuiet [.hidEnumerate vendorId productId] rfl rfl rfl rfl

theorem entered_transfers : Transfers 0 scene (entered scene) :=
  .ofQuiet [.lock .wallet] rfl rfl rfl rfl

theorem left_transfers : Transfers 0 scene (left scene) :=
  .ofQuiet [.unlock .wallet] rfl rfl rfl rfl

/-- Giving up the connection leaves a wallet without a handle. -/
theorem dropped_transfers (scene : Scene NanosWallet σ) (flagged : Flagged scene.self)
    (free : scene.self.mFramer.mIo.mDevLock ∉ scene.world.held) :
    Transfers 0 scene (dropped hid scene) ∧
      (dropped hid scene).self.mFramer.mIo.mDev = none := by
  unfold dropped
  split
  · have closed := (close_conserving hid).transfers scene
    rw [close_run hid free] at closed
    exact ⟨closed, rfl⟩
  next invalid =>
    refine ⟨.refl scene, ?_⟩
    by_contra live
    exact invalid (flagged (Option.isSome_iff_ne_none.mpr live))

/-- An attempt leaves the handle of the old device behind. -/
theorem attempt_transfers (vendorId productId : UInt16) :
    Transfers (handles scene.self.mFramer.mIo.mDev) scene
      (attempt tb hid vendorId productId scene).2 := by
  let dialing := dialed tb vendorId productId scene
  let device := dialing.self.mFramer.mIo
  have gaveUp : Transfers (handles scene.self.mFramer.mIo.mDev) scene dialing :=
    .ofDrop [.lock (.device (scene.world.objects + 1)), .unlock (.device (scene.world.objects + 1)),
      .lock (.device scene.world.objects), .unlock (.device scene.world.objects)] rfl rfl rfl rfl
  have called : Transfers 0 dialing ⟨dialing.self.withDevice { device with
      mDev := dialing.world.newHandle (device.openAnswer hid dialing.world.env).1 },
      device.afterOpen hid dialing.world⟩ :=
    (HidppDevice.afterOpen_transfers hid device dialing.world).lift rfl rfl rfl
  unfold attempt
  dsimp only
  split
  next accepted =>
    have opened := gaveUp.trans called
    rw [Multiset.zero_add, show (device.openAnswer hid dialing.world.env).1 = true from accepted]
      at opened
    exact opened.lift rfl rfl rfl
  next refused =>
    have reported : Transfers 0 (⟨dialing.self, device.afterOpen hid dialing.world⟩ :
        Scene NanosWallet σ) ⟨dialing.self, (device.afterOpen hid dialing.world).extend
          (device.afterOpen hid dialing.world).env [.lock device.mDevLock,
            .unlock device.mDevLock]⟩ := .ofQuiet _ rfl rfl rfl rfl
    rw [show (device.openAnswer hid dialing.world.env).1 = false from
      Bool.not_eq_true _ ▸ refused] at called
    have closed := gaveUp.trans (Transfers.walk.go called reported)
    rwa [Multiset.zero_add] at closed

/-- The relation of two scenes between calls that conserves all handles. -/
def Accounted (before after : Scene NanosWallet σ) : Prop :=
  Settled [] before → Settled [] after ∧ Transfers 0 before after

theorem Accounted.walk : Action.Walk (Accounted : Scene NanosWallet σ → _ → Prop) where
  stay scene settled := ⟨settled, .refl scene⟩
  go first second settled :=
    have ⟨middle, transfers⟩ := first settled
    have ⟨last, following⟩ := second middle
    ⟨last, Transfers.walk.go transfers following⟩

/-- The transfers of the part of a call that is under the wallet's mutex. -/
theorem throughLock {reached : Scene NanosWallet σ}
    (inside : Transfers leaked (entered scene) reached) :
    Transfers leaked scene (left reached) := by
  have through := (entered_transfers.trans inside).trans left_transfers
  rwa [Multiset.add_zero, Multiset.zero_add] at through

/-- `init` finds a device to open. -/
def InitDials (hid : Hidapi σ) (productId : UInt16) (env : σ) : Prop :=
  found hid ledgerVid nanosPidRoot env = [] ∧
    found hid ledgerVid productId (hid.enumerate env).2 ≠ []

instance (productId : UInt16) (env : σ) : Decidable (InitDials hid productId env) :=
  inferInstanceAs (Decidable (_ ∧ _))

theorem initOutcome_of_dials {productId : UInt16}
    (dials : InitDials hid productId scene.world.env) :
    ∃ device rest, found hid ledgerVid productId (hid.enumerate scene.world.env).2 =
        device :: rest ∧
      initOutcome tb hid productId scene = attempt tb hid device.vendorId productId
        (listed hid ledgerVid productId (listed hid ledgerVid nanosPidRoot scene)) := by
  obtain ⟨device, rest, apps⟩ := List.exists_cons_of_ne_nil dials.2
  refine ⟨device, rest, apps, ?_⟩
  rw [initOutcome, if_neg (not_not.mpr dials.1)]
  simp only [listed_env, apps]

theorem initOutcome_of_not_dials {productId : UInt16}
    (stays : ¬ InitDials hid productId scene.world.env) :
    initOutcome tb hid productId scene =
      (false, listed hid ledgerVid productId (listed hid ledgerVid nanosPidRoot scene)) := by
  rw [initOutcome]
  split
  · rfl
  next noRoot =>
    split
    · rfl
    next device rest apps =>
      refine absurd ⟨not_not.mp noRoot, ?_⟩ stays
      rw [listed_env] at apps
      rw [apps]
      exact List.cons_ne_nil _ _

theorem initOutcome_transfers (productId : UInt16) :
    Transfers (if InitDials hid productId scene.world.env then
        handles scene.self.mFramer.mIo.mDev else 0)
      scene (initOutcome tb hid productId scene).2 := by
  have looked : Transfers 0 scene (listed hid ledgerVid productId
      (listed hid ledgerVid nanosPidRoot scene)) :=
    Transfers.walk.go (listed_transfers hid _ _) (listed_transfers hid _ _)
  by_cases dials : InitDials hid productId scene.world.env
  · obtain ⟨device, _, _, outcome⟩ := initOutcome_of_dials tb hid dials
    have dialed := looked.trans (attempt_transfers tb hid device.vendorId productId)
    rw [Multiset.add_zero] at dialed
    rw [if_pos dials, outcome]
    exact dialed
  · rw [if_neg dials, initOutcome_of_not_dials tb hid dials]
    exact looked

theorem initRootOutcome_transfers :
    Transfers (if found hid ledgerVid nanosPidRoot scene.world.env ≠ [] then
        handles scene.self.mFramer.mIo.mDev else 0)
      scene (initRootOutcome tb hid scene).2 := by
  have looked : Transfers 0 scene (listed hid ledgerVid nanosPidRoot scene) :=
    listed_transfers hid _ _
  by_cases noRoot : found hid ledgerVid nanosPidRoot scene.world.env = []
  · rw [if_neg (not_not.mpr noRoot), initRootOutcome]
    rw [noRoot]
    exact looked
  · rw [if_pos noRoot, initRootOutcome]
    split
    next none => exact absurd none noRoot
    next device rest devices =>
      have dialed := looked.trans (attempt_transfers tb hid device.vendorId device.productId)
      rw [Multiset.add_zero] at dialed
      exact dialed

/-- `init_ext` gives up a handle by closing it, before it asks for another. -/
theorem initExtOutcome_transfers (settled : Settled [.wallet] scene) (productId : UInt16) :
    Transfers 0 scene (initExtOutcome tb hid productId scene).2 := by
  have looked : Transfers 0 scene (listed hid ledgerVid productId scene) :=
    listed_transfers hid _ _
  obtain ⟨dropping, null⟩ := dropped_transfers hid (listed hid ledgerVid productId scene)
    settled.flagged (by rw [listed_held, settled.idle]; simp [HidppDevice.mDevLock])
  have lookedAgain := Transfers.walk.go (Transfers.walk.go looked dropping)
    (listed_transfers hid ledgerVid nanosPidRoot)
  rcases initExtOutcome_cases tb hid productId scene with same | same | ⟨vendor, product, same⟩
  · rw [same]
    exact looked
  · rw [same]
    exact lookedAgain
  · have dialed := lookedAgain.trans (attempt_transfers tb hid vendor product)
    rw [Multiset.add_zero,
      show handles (listed hid ledgerVid nanosPidRoot _).self.mFramer.mIo.mDev = 0 from
        congrArg handles null] at dialed
    rw [same]
    exact dialed

theorem initExtRootOutcome_transfers (settled : Settled [.wallet] scene) :
    Transfers 0 scene (initExtRootOutcome tb hid scene).2 := by
  have looked : Transfers 0 scene (listed hid ledgerVid nanosPidRoot scene) :=
    listed_transfers hid _ _
  obtain ⟨dropping, null⟩ := dropped_transfers hid (listed hid ledgerVid nanosPidRoot scene)
    settled.flagged (by rw [listed_held, settled.idle]; simp [HidppDevice.mDevLock])
  rcases initExtRootOutcome_cases tb hid scene with same | same | ⟨vendor, product, same⟩
  · rw [same]
    exact looked
  · rw [same]
    exact Transfers.walk.go looked dropping
  · have dialed := (Transfers.walk.go looked dropping).trans
      (attempt_transfers tb hid vendor product)
    rw [null] at dialed
    rw [same]
    exact dialed

end Connection

end NanosWallet

namespace WalletOp

open NanosWallet

variable {σ : Type} (tb : Toolbox) (hid : Hidapi σ)

/-- The handles that a call leaves without an object: those that `init` and
`init_root` replace. -/
def leaks (scene : Scene NanosWallet σ) : WalletOp → Multiset Handle
  | .init productId =>
      if InitDials hid productId scene.world.env then handles scene.self.mFramer.mIo.mDev else 0
  | .initRoot =>
      if found hid ledgerVid nanosPidRoot scene.world.env ≠ [] then
        handles scene.self.mFramer.mIo.mDev
      else 0
  | _ => 0

/-- The calls without `init` and `init_root` conserve all handles. -/
theorem call_accounted (op : WalletOp) (noInit : ∀ productId, op ≠ .init productId)
    (noInitRoot : op ≠ .initRoot) :
    Action.Within Stop.Unwinds Accounted (op.call tb hid) := by
  apply call_composes tb hid (Action.Within.composes Accounted.walk)
  · intro retries apdu resCode scene counts settled
    have ended := (counts_iff_ended _).mp counts
    exact ⟨(exchange_settled tb hid settled retries apdu resCode ended).1,
      (exchange_conserving tb hid retries apdu resCode).transfers scene⟩
  · intro vendorId productId scene _ settled
    exact ⟨settled.listed hid vendorId productId, listed_transfers hid vendorId productId⟩
  · intro scene _ settled
    rw [getOpenedAppPid_run hid settled.idle]
    exact ⟨(settled.entered.listed hid _ _).left, throughLock (listed_transfers hid _ _)⟩
  · intro scene _ settled
    exact ⟨settled.close hid List.not_mem_nil, (close_conserving hid).transfers scene⟩
  · intro productId scene _ settled
    rw [initExt_run tb hid settled.idle]
    exact ⟨(settled.entered.initExtOutcome tb hid productId).left,
      throughLock (initExtOutcome_transfers tb hid settled.entered productId)⟩
  · intro scene _ settled
    rw [initExtRoot_run tb hid settled.idle]
    exact ⟨(settled.entered.initExtRootOutcome tb hid).left,
      throughLock (initExtRootOutcome_transfers tb hid settled.entered)⟩
  · exact noInit
  · exact noInitRoot

/-- Every call that came back accounts for the handle of the wallet. -/
theorem call_transfers {scene : Scene NanosWallet σ} (settled : Settled [] scene) (op : WalletOp)
    (ended : Ended ((op.call tb hid).run scene).1) :
    Transfers (op.leaks hid scene) scene ((op.call tb hid).run scene).2 := by
  by_cases init : ∃ productId, op = .init productId
  · obtain ⟨productId, rfl⟩ := init
    rw [call, Action.run_map_state, init_run tb hid settled.idle]
    exact throughLock (initOutcome_transfers tb hid productId)
  · by_cases initRoot : op = .initRoot
    · subst initRoot
      rw [call, Action.run_map_state, initRoot_run tb hid settled.idle]
      exact throughLock (initRootOutcome_transfers tb hid)
    · have none : op.leaks hid scene = 0 := by
        cases op with
        | init productId => exact absurd ⟨productId, rfl⟩ init
        | initRoot => exact absurd rfl initRoot
        | _ => rfl
      rw [none]
      exact (call_accounted tb hid op (fun productId same => init ⟨productId, same⟩) initRoot
        scene ((counts_iff_ended _).mpr ended) settled).2

end WalletOp

end MhWallet
