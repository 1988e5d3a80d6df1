import MhWallet.Wallet.Connected

/-!
Contract: the handles that a wallet talks to.

`read` and `write` of the device pass on whatever handle the device has.  The
checks of `exchange` keep them from passing on none, and the ledger of the
handles keeps them from passing on one that is closed.

Owns: the events that talk to a device, that every call addresses them, and that
every handle they name is open.
-/

namespace MhWallet

open MhWallet.Effect MhWallet.Method NanosWallet

/-- The handle that an event passes to `hid_write` or `hid_read`. -/
def Event.talksTo : Event → Option (Option Handle)
  | .hidWrite dev _ => some dev
  | .hidRead dev _ => some dev
  | _ => none

/-- The handle that an event got from an open. -/
def Event.opened? : Event → Option Handle
  | .hidOpen _ _ opened => opened
  | .hidOpenPath _ opened => opened
  | _ => none

/-- The event talks to no device, or to one that has a handle. -/
def Event.Addressed (event : Event) : Prop := event.talksTo ≠ some none

theorem Event.opened_of_acquire {event : Event} {handle : Handle}
    (acquired : event.use? = some (.acquire handle)) : event.opened? = some handle := by
  unfold Event.use? at acquired
  split at acquired
  all_goals simp at acquired
  all_goals
    rw [← acquired]
    rfl

theorem Event.use_of_talksTo {event : Event} {handle : Handle}
    (talks : event.talksTo = some (some handle)) : event.use? = some (.use handle) := by
  unfold Event.talksTo at talks
  split at talks
  all_goals simp at talks
  all_goals
    subst talks
    rfl

/-- Between two worlds every event is addressed. -/
def Addresses {σ : Type} (before after : World σ) : Prop :=
  ∃ events, after.log = before.log ++ events ∧ ∀ event ∈ events, event.Addressed

namespace Addresses

variable {σ : Type} {before middle after : World σ}

theorem refl (world : World σ) : Addresses world world := ⟨[], by simp, by simp⟩

theorem trans (first : Addresses before middle) (second : Addresses middle after) :
    Addresses before after := by
  obtain ⟨events, log, addressed⟩ := first
  obtain ⟨later, laterLog, laterAddressed⟩ := second
  refine ⟨events ++ later, by rw [laterLog, log, List.append_assoc], ?_⟩
  intro event member
  exact (List.mem_append.mp member).elim (addressed event) (laterAddressed event)

/-- Events that talk to no device. -/
theorem ofSilent (events : List Event) (log : after.log = before.log ++ events)
    (silent : ∀ event ∈ events, event.talksTo = none) : Addresses before after := by
  refine ⟨events, log, ?_⟩
  intro event member
  rw [Event.Addressed, silent event member]
  simp

end Addresses

theorem HidppDevice.openEvents_silent (dev : HidppDevice) (opened : Option Handle) :
    ∀ event ∈ dev.openEvents opened, event.talksTo = none := by
  rw [HidppDevice.openEvents, HidppDevice.openEvent]
  split <;> cases opened <;> simp [Event.talksTo]

theorem readTrace_addressed (mutex : Mutex) (handle : Handle) (calls : Nat)
    (results : List ReadResult) :
    ∀ event ∈ readTrace mutex handle calls results, event.Addressed := by
  intro event member
  rw [readTrace, List.mem_append, List.mem_flatMap] at member
  rcases member with ⟨result, _, member⟩ | member
  · rw [readEvents] at member
    split at member
    all_goals
      simp at member
      rcases member with rfl | rfl | rfl | rfl <;> simp [Event.Addressed, Event.talksTo]
  · split at member
    · simp [waitEvents] at member
      rcases member with rfl | rfl <;> simp [Event.Addressed, Event.talksTo]
    · simp at member

variable {σ : Type} (tb : Toolbox) (hid : Hidapi σ) {scene : Scene NanosWallet σ}

/-- However an attempt ends, it talks to the handle of the device. -/
theorem FrameIoApdu.exchange_addresses {framer : FrameIoApdu} {world : World σ}
    {handle : Handle} (live : framer.mIo.mDev = some handle)
    (free : framer.mIo.mDevLock ∉ world.held) (room : framer.mBuffer.length ≤ 64)
    (apdu : Apdu) (statusCode : Option UInt16) :
    Addresses world
      ((FrameIoApdu.exchange tb hid apdu statusCode).run ⟨framer, world⟩).2.world := by
  by_cases small : apdu.payloadSize ≤ 255
  · obtain ⟨⟨calls, results, log⟩, _⟩ := FrameIoApdu.exchange_log tb hid small live free room
    refine ⟨_, log, ?_⟩
    intro event member
    rcases List.mem_append.mp member with written | read
    · obtain ⟨report, _, member⟩ := List.mem_flatMap.mp written
      simp at member
      rcases member with rfl | rfl | rfl <;> simp [Event.Addressed, Event.talksTo]
    · exact readTrace_addressed _ _ _ _ event read
  · rw [FrameIoApdu.exchange_run_of_large tb hid (by omega)]
    exact Addresses.refl world

theorem HidppDevice.afterOpen_addresses (dev : HidppDevice) (world : World σ) :
    Addresses world (dev.afterOpen hid world) :=
  .ofSilent _ (HidppDevice.afterOpen_log ..) (HidppDevice.openEvents_silent _ _)

namespace NanosWallet

private theorem addresses_rule (apdu : Apdu) (resCode : Option UInt16) (start : World σ) :
    LoopRule tb hid apdu resCode
      (fun wallet world => Ready wallet world ∧ Addresses start world)
      (fun _ _ world => Addresses start world) where
  broken := by
    intro wallet world ⟨_, addresses⟩ _
    exact addresses
  ended := by
    intro wallet world handle outcome framer reached ⟨ready, addresses⟩ live ran _
    have attempted :=
      FrameIoApdu.exchange_addresses tb hid live ready.free ready.room apdu resCode
    rw [ran] at attempted
    exact addresses.trans attempted
  retried := by
    intro wallet world handle expected given framer reached ⟨ready, addresses⟩ live ran
    have attempted :=
      FrameIoApdu.exchange_addresses tb hid live ready.free ready.room apdu resCode
    rw [ran] at attempted
    obtain ⟨readyStopped, sameDevice, _⟩ := ready.afterAttempt tb hid live ran trivial
    let stopped : NanosWallet := { wallet with mFramer := framer }
    have liveStopped : stopped.mFramer.mIo.mDev = some handle := by
      rw [show stopped.mFramer.mIo = wallet.mFramer.mIo from sameDevice, live]
    have closed : Addresses reached (stopped.afterClose hid reached handle) :=
      .ofSilent _ rfl (by simp [Event.talksTo])
    have opened := HidppDevice.afterOpen_addresses hid stopped.closedDevice
      (stopped.afterClose hid reached handle)
    have through := (addresses.trans attempted).trans (closed.trans opened)
    exact ⟨_, _, reopen_run hid liveStopped readyStopped.free,
      ⟨⟨readyStopped.free, readyStopped.room⟩, through⟩, through⟩

/-- However a call of `exchange` ends, it talks to a device that has a handle. -/
theorem exchange_addresses (settled : Settled [] scene) (retries : Nat) (apdu : Apdu)
    (resCode : Option UInt16) :
    Addresses scene.world ((exchange tb hid retries apdu resCode).run scene).2.world := by
  have free : Mutex.wallet ∉ scene.world.held := World.free_of_idle settled.idle _
  have inside := settled.entered
  have ready : Ready scene.self (entered scene).world :=
    ⟨by rw [inside.idle]; simp [HidppDevice.mDevLock], inside.room⟩
  have rule := addresses_rule tb hid apdu resCode (entered scene).world
  rcases rule.call free (fun _ => ⟨ready, Addresses.refl _⟩) retries with
    ⟨_, refused⟩ | ⟨outcome, next, after, _, looped, called⟩
  · have same : (exchange tb hid retries apdu resCode).run scene = _ := refused
    rw [same]
    exact .ofSilent _ rfl (by simp [Event.talksTo])
  · have same : (exchange tb hid retries apdu resCode).run scene = _ := called
    have locking : Addresses scene.world (entered scene).world :=
      .ofSilent [.lock .wallet] rfl (by simp [Event.talksTo])
    have through := locking.trans looped
    rw [same]
    dsimp only
    split
    · exact through.trans (.ofSilent [.unlock .wallet] rfl (by simp [Event.talksTo]))
    · exact through

/-! ## The connection calls -/

section Connection

theorem listed_addresses (vendorId productId : UInt16) :
    Addresses scene.world (listed hid vendorId productId scene).world :=
  .ofSilent [.hidEnumerate vendorId productId] rfl (by simp [Event.talksTo])

theorem throughLock_addresses {reached : Scene NanosWallet σ}
    (inside : Addresses (entered scene).world reached.world) :
    Addresses scene.world (left reached).world := by
  have locking : Addresses scene.world (entered scene).world :=
    .ofSilent [.lock .wallet] rfl (by simp [Event.talksTo])
  have unlocking : Addresses reached.world (left reached).world :=
    .ofSilent [.unlock .wallet] rfl (by simp [Event.talksTo])
  exact (locking.trans inside).trans unlocking

theorem afterDrop_addresses (wallet : NanosWallet) (world : World σ) :
    Addresses world (wallet.afterDrop hid world) := by
  unfold afterDrop
  split
  · exact .ofSilent _ rfl (by simp [Event.talksTo])
  · exact .refl world

theorem dropped_addresses : Addresses scene.world (dropped hid scene).world := by
  unfold dropped
  split
  · exact afterDrop_addresses hid _ _
  · exact .refl _

theorem attempt_addresses (vendorId productId : UInt16) :
    Addresses scene.world (attempt tb hid vendorId productId scene).2.world := by
  let dialing := dialed tb vendorId productId scene
  have assigned : Addresses scene.world dialing.world :=
    .ofSilent _ rfl (by simp [Event.talksTo])
  have opened := HidppDevice.afterOpen_addresses hid dialing.self.mFramer.mIo dialing.world
  unfold attempt
  dsimp only
  split
  · exact assigned.trans opened
  · exact (assigned.trans opened).trans (.ofSilent _ rfl (by simp [Event.talksTo]))

theorem initOutcome_addresses (productId : UInt16) :
    Addresses scene.world (initOutcome tb hid productId scene).2.world := by
  have looked := (@listed_addresses _ hid scene ledgerVid nanosPidRoot).trans
    (listed_addresses hid ledgerVid productId)
  rcases initOutcome_cases tb hid productId scene with same | ⟨_, _, same⟩
  · rw [same]
    exact looked
  · rw [same]
    exact looked.trans (attempt_addresses tb hid _ _)

theorem initRootOutcome_addresses :
    Addresses scene.world (initRootOutcome tb hid scene).2.world := by
  have looked := @listed_addresses _ hid scene ledgerVid nanosPidRoot
  rcases initRootOutcome_cases tb hid scene with same | ⟨_, _, same⟩
  · rw [same]
    exact looked
  · rw [same]
    exact looked.trans (attempt_addresses tb hid _ _)

theorem initExtOutcome_addresses (productId : UInt16) :
    Addresses scene.world (initExtOutcome tb hid productId scene).2.world := by
  have looked := @listed_addresses _ hid scene ledgerVid productId
  have lookedAgain := (looked.trans (dropped_addresses hid)).trans
    (listed_addresses hid ledgerVid nanosPidRoot)
  rcases initExtOutcome_cases tb hid productId scene with same | same | ⟨_, _, same⟩
  · rw [same]
    exact looked
  · rw [same]
    exact lookedAgain
  · rw [same]
    exact lookedAgain.trans (attempt_addresses tb hid _ _)

theorem initExtRootOutcome_addresses :
    Addresses scene.world (initExtRootOutcome tb hid scene).2.world := by
  have looked := @listed_addresses _ hid scene ledgerVid nanosPidRoot
  have droppedAfter := looked.trans (dropped_addresses hid)
  rcases initExtRootOutcome_cases tb hid scene with same | same | ⟨_, _, same⟩
  · rw [same]
    exact looked
  · rw [same]
    exact droppedAfter
  · rw [same]
    exact droppedAfter.trans (attempt_addresses tb hid _ _)

end Connection

/-! ## Every call -/

/-- From a settled scene the action conserves the handles and addresses the
device, however it ends; when it comes back, the scene is settled again. -/
def Accountable {α : Type} (action : Method NanosWallet σ α) : Prop :=
  ∀ scene, Settled [] scene →
    Transfers 0 scene (action.run scene).2 ∧
    Addresses scene.world (action.run scene).2.world ∧
    (Ended (action.run scene).1 → Settled [] (action.run scene).2)

theorem Accountable.composes :
    Action.Composes fun {α : Type} (action : Method NanosWallet σ α) => Accountable action where
  pure value scene settled := ⟨.refl scene, .refl _, fun _ => settled⟩
  stop reason scene settled := ⟨.refl scene, .refl _, fun _ => settled⟩
  bind := by
    intro α β first next firstPart nextPart scene settled
    obtain ⟨transfers, addresses, after⟩ := firstPart scene settled
    rcases ran : first.run scene with ⟨reason | value, reached⟩
    · rw [Action.run_bind_error ran]
      rw [ran] at transfers addresses after
      exact ⟨transfers, addresses, after⟩
    · rw [ran] at transfers addresses after
      obtain ⟨laterTransfers, laterAddresses, laterAfter⟩ :=
        nextPart value reached (after trivial)
      rw [Action.run_bind_ok ran]
      exact ⟨Transfers.walk.go transfers laterTransfers, addresses.trans laterAddresses,
        laterAfter⟩

end NanosWallet

namespace WalletOp

open NanosWallet

/-- The calls without `init` and `init_root`. -/
theorem call_accountable (op : WalletOp) (noInit : ∀ productId, op ≠ .init productId)
    (noInitRoot : op ≠ .initRoot) : Accountable (op.call tb hid) := by
  apply call_composes tb hid Accountable.composes
  · intro retries apdu resCode scene settled
    exact ⟨(exchange_conserving tb hid retries apdu resCode).transfers scene,
      exchange_addresses tb hid settled retries apdu resCode,
      fun ended => (exchange_settled tb hid settled retries apdu resCode ended).1⟩
  · intro vendorId productId scene settled
    exact ⟨listed_transfers hid vendorId productId, listed_addresses hid vendorId productId,
      fun _ => settled.listed hid vendorId productId⟩
  · intro scene settled
    rw [getOpenedAppPid_run hid settled.idle]
    exact ⟨throughLock (listed_transfers hid _ _), throughLock_addresses (listed_addresses hid _ _),
      fun _ => (settled.entered.listed hid _ _).left⟩
  · intro scene settled
    have free : scene.self.mFramer.mIo.mDevLock ∉ scene.world.held :=
      World.free_of_idle settled.idle _
    refine ⟨(close_conserving hid).transfers scene, ?_,
      fun _ => settled.close hid List.not_mem_nil⟩
    rw [close_run hid free]
    exact afterDrop_addresses hid _ _
  · intro productId scene settled
    rw [initExt_run tb hid settled.idle]
    exact ⟨throughLock (initExtOutcome_transfers tb hid settled.entered productId),
      throughLock_addresses (initExtOutcome_addresses tb hid productId),
      fun _ => (settled.entered.initExtOutcome tb hid productId).left⟩
  · intro scene settled
    rw [initExtRoot_run tb hid settled.idle]
    exact ⟨throughLock (initExtRootOutcome_transfers tb hid settled.entered),
      throughLock_addresses (initExtRootOutcome_addresses tb hid),
      fun _ => (settled.entered.initExtRootOutcome tb hid).left⟩
  · exact noInit
  · exact noInitRoot

/-- However a call ends, it accounts for the handle of the wallet and addresses
the device. -/
theorem call_talks {scene : Scene NanosWallet σ} (settled : Settled [] scene) (op : WalletOp) :
    (∃ leaked, Transfers leaked scene ((op.call tb hid).run scene).2) ∧
      Addresses scene.world ((op.call tb hid).run scene).2.world := by
  by_cases init : ∃ productId, op = .init productId
  · obtain ⟨productId, rfl⟩ := init
    rw [call, Action.run_map_state, init_run tb hid settled.idle]
    exact ⟨⟨_, throughLock (initOutcome_transfers tb hid productId)⟩,
      throughLock_addresses (initOutcome_addresses tb hid productId)⟩
  · by_cases initRoot : op = .initRoot
    · subst initRoot
      rw [call, Action.run_map_state, initRoot_run tb hid settled.idle]
      exact ⟨⟨_, throughLock (initRootOutcome_transfers tb hid)⟩,
        throughLock_addresses (initRootOutcome_addresses tb hid)⟩
    · obtain ⟨transfers, addresses, _⟩ := call_accountable tb hid op
        (fun productId same => init ⟨productId, same⟩) initRoot scene settled
      exact ⟨⟨0, transfers⟩, addresses⟩

end WalletOp

/-- Every event of a run so far is addressed. -/
theorem WalletRun.addressed {scene : Scene NanosWallet σ}
    {Allowed : Scene NanosWallet σ → WalletOp → Prop}
    (reached : WalletRun tb hid Allowed scene) :
    ∀ event ∈ scene.world.log, event.Addressed := by
  induction reached with
  | construct ran =>
      rw [NanosWallet.construct_run _ _ List.not_mem_nil] at ran
      simp only [Prod.mk.injEq, Except.ok.injEq, Scene.mk.injEq, true_and] at ran
      obtain ⟨rfl, rfl⟩ := ran
      simp [World.initial, World.extend, Event.Addressed, Event.talksTo]
  | step earlier op _ _ inductionHypothesis =>
      obtain ⟨_, events, log, addressed⟩ := op.call_talks tb hid earlier.settled
      intro event member
      rw [log] at member
      exact (List.mem_append.mp member).elim (inductionHypothesis event) (addressed event)

/-- In every run, and inside the call after it, every `hid_write` and `hid_read`
is given a handle that an open returned before and that no `hid_close` was given
since. -/
theorem wallet_talks_to_open_handles {scene : Scene NanosWallet σ}
    (reached : WalletReachable tb hid scene) (op : WalletOp) (before after : List Event)
    (event : Event) (dev : Option Handle)
    (log : ((op.call tb hid).run scene).2.world.log = before ++ event :: after)
    (talks : event.talksTo = some dev) :
    ∃ handle, dev = some handle ∧ (∃ opened ∈ before, opened.opened? = some handle) ∧
      .hidClose handle ∉ before := by
  obtain ⟨⟨leaked, events, grown, accounts⟩, later, grownLater, addressed⟩ :=
    op.call_talks tb hid reached.settled
  obtain ⟨ledger, others, ran, issued, live⟩ := reached.ledger
  obtain ⟨next, ranOn, _, _⟩ := accounts ledger others issued live
  have member : event ∈ before ++ event :: after := by simp
  have named : event.Addressed := by
    rw [← log, grownLater] at member
    exact (List.mem_append.mp member).elim (reached.addressed tb hid event) (addressed event)
  obtain ⟨handle, rfl⟩ : ∃ handle, dev = some handle :=
    Option.ne_none_iff_exists'.mp fun null => named (by rw [talks, null])
  have whole : Ledger.empty.run (uses before ++ .use handle :: uses after) = some next := by
    have both : Ledger.empty.run (uses ((op.call tb hid).run scene).2.world.log) = some next := by
      rw [grown, uses_append, Ledger.run_append_some ran, ranOn]
    rw [log, uses_append] at both
    rwa [show uses (event :: after) = .use handle :: uses after from
      List.filterMap_cons_some (Event.use_of_talksTo talks)] at both
  obtain ⟨acquired, unreleased⟩ := Ledger.used_after_acquire whole
  refine ⟨handle, rfl, ?_, ?_⟩
  · obtain ⟨opened, inLog, use⟩ := List.mem_filterMap.mp acquired
    exact ⟨opened, inLog, Event.opened_of_acquire use⟩
  · intro closed
    exact unreleased (List.mem_filterMap.mpr ⟨_, closed, rfl⟩)

/-- The log of a new wallet that is connected and asked for a version. -/
def versionLog : List Event :=
  (((WalletOp.getAppVersion 0).call Toolbox.reference Script.device).run
    (((WalletOp.init nanosPid).call Toolbox.reference Script.device).run
      (first (.attachedWith []))).2).2.world.log

/-- The request of `get_app_version` is written to the handle that `init`
opened. -/
theorem wallet_talks_to_open_handles_of_version :
    ∃ handle, some 0 = some handle ∧
      (∃ opened ∈ versionLog.take 16, opened.opened? = some handle) ∧
      .hidClose handle ∉ versionLog.take 16 :=
  wallet_talks_to_open_handles Toolbox.reference Script.device
    ((first_reachable (.attachedWith [])).step (.init nanosPid) trivial (by decide +kernel))
    (.getAppVersion 0) (versionLog.take 16) (versionLog.drop 17)
    (.hidWrite (some 0) [1, 1, 5, 0, 0, 0, 5, 224, 1, 0, 0, 0]) (some 0)
    (show versionLog = _ by decide +kernel) rfl

end MhWallet
