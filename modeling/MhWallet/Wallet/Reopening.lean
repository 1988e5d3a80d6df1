import MhWallet.Wallet.Connected

/-!
Contract: `reopen_with_app` is `init_ext` on a new wallet.

`close` leaves no handle and no flag, so nothing that `init_ext` looks at comes
from before.

Owns: what the devices and the system answer to `init_ext`, what it makes of
these answers on a wallet that is not valid, and the agreement.
-/

namespace MhWallet

open MhWallet.Effect MhWallet.Method

/-- The answers to `init_ext`: the two enumerations, and whether the device that
it goes on to open is opened. -/
structure Answers where
  apps : List HidDeviceInfo
  roots : List HidDeviceInfo
  opened : Bool
deriving DecidableEq, Repr

namespace NanosWallet

variable {σ : Type} (tb : Toolbox) (hid : Hidapi σ) {scene : Scene NanosWallet σ}

/-- What `init_ext` is answered from this state of the environment on. -/
def answers (hid : Hidapi σ) (productId : UInt16) (env : σ) : Answers :=
  let apps := found hid ledgerVid productId env
  let env := (hid.enumerate env).2
  let roots := found hid ledgerVid nanosPidRoot env
  let env := (hid.enumerate env).2
  { apps, roots,
    opened :=
      match roots, apps with
      | [], device :: _ => dialAnswer hid device.vendorId device.productId env
      | _, _ => false }

/-- The result that these answers call for. -/
def connectionType (answers : Answers) : DevConnectionType :=
  if answers.roots ≠ [] then .appNotOpened
  else if answers.apps = [] then .disconnected
  else if answers.opened then .appOpened
  else .permissionError

/-- The wallet has an open handle to a product, and its framer is as new. -/
def FreshlyOpened (vendorId productId : UInt16) (scene : Scene NanosWallet σ) : Prop :=
  (∃ handle, scene.self.mFramer.mIo.mDev = some handle ∧
    .hidClose handle ∉ scene.world.log) ∧
  scene.self.mFramer.mIo.mVendorId = vendorId ∧
  scene.self.mFramer.mIo.mProductId = productId ∧
  scene.self.mFramer.mSeq = 0 ∧ scene.self.mFramer.mOffset = 0 ∧ scene.self.mFramer.rn = 0

/-- The scene after the two enumerations of `init_ext`. -/
def lookedTwice (hid : Hidapi σ) (productId : UInt16) (scene : Scene NanosWallet σ) :
    Scene NanosWallet σ :=
  listed hid ledgerVid nanosPidRoot (listed hid ledgerVid productId scene)

/-- `init_ext` on a wallet that is not valid takes no shortcut and drops no
connection. -/
theorem initExtOutcome_eq_of_invalid (invalid : scene.self.mValid = false)
    (productId : UInt16) :
    initExtOutcome tb hid productId scene =
      if (answers hid productId scene.world.env).roots ≠ [] then
        (.appNotOpened, lookedTwice hid productId scene)
      else
        match (answers hid productId scene.world.env).apps with
        | [] => (.disconnected, lookedTwice hid productId scene)
        | device :: _ =>
            let (opened, scene) := attempt tb hid device.vendorId device.productId
              (lookedTwice hid productId scene)
            (if opened then .appOpened else .permissionError, scene) := by
  have invalidListed : ¬ (listed hid ledgerVid productId scene).self.mValid = true := by
    rw [show (listed hid ledgerVid productId scene).self.mValid = false from invalid]
    exact Bool.false_ne_true
  have undropped : dropped hid (listed hid ledgerVid productId scene) =
      listed hid ledgerVid productId scene := if_neg invalidListed
  unfold initExtOutcome
  dsimp only
  rw [if_neg fun both => invalidListed both.1, undropped]
  rfl

/-- `init_ext` on a wallet that is not valid is decided by the answers. -/
theorem initExtOutcome_of_invalid (invalid : scene.self.mValid = false) (productId : UInt16) :
    let given := answers hid productId scene.world.env
    let outcome := initExtOutcome tb hid productId scene
    outcome.1 = connectionType given ∧
      (outcome.2.self.mValid = true ↔ connectionType given = .appOpened) ∧
      (connectionType given = .appOpened → ∃ device rest, given.apps = device :: rest ∧
        outcome.2 = (attempt tb hid device.vendorId device.productId
          (lookedTwice hid productId scene)).2 ∧
        outcome.2.self.mFramer.mIo.mDev ≠ none) := by
  intro given outcome
  have same : outcome = _ := initExtOutcome_eq_of_invalid tb hid invalid productId
  have still : (lookedTwice hid productId scene).self.mValid = false := invalid
  unfold connectionType
  by_cases root : given.roots = []
  · rw [if_neg (not_not.mpr root)] at same
    rcases apps : given.apps with _ | ⟨device, rest⟩
    · rw [show (answers hid productId scene.world.env).apps = [] from apps] at same
      rw [same]
      simp [root, still]
    · rw [show (answers hid productId scene.world.env).apps = device :: rest from apps] at same
      have answer : given.opened = (attempt tb hid device.vendorId device.productId
          (lookedTwice hid productId scene)).1 := by
        rw [attempt_fst]
        simp only [given, answers] at root apps ⊢
        rw [root, apps]
        rfl
      have flag := attempt_valid tb hid device.vendorId device.productId
        (lookedTwice hid productId scene)
      have handle := attempt_handle tb hid device.vendorId device.productId
        (lookedTwice hid productId scene)
      rw [still, Bool.or_false] at flag
      rw [same, answer]
      dsimp only
      rcases opened : (attempt tb hid device.vendorId device.productId
        (lookedTwice hid productId scene)).1 with _ | _
      · rw [opened] at flag
        simp [root, flag]
      · rw [opened] at flag handle
        simp [root, flag, handle]
  · rw [if_pos root] at same
    rw [same]
    simp [root, still]

section Agreement

variable {tb : Toolbox} {hid : Hidapi σ}

/-- `init_ext` on a reachable wallet that is not valid, by its answers. -/
theorem initExt_by_answers (reached : WalletReachable tb hid scene)
    (invalid : scene.self.mValid = false) (productId : UInt16) :
    let given := answers hid productId scene.world.env
    let after := ((initExt tb hid productId).run scene).2
    ((initExt tb hid productId).run scene).1 = .ok (connectionType given) ∧
      (after.self.mValid = true ↔ connectionType given = .appOpened) ∧
      (connectionType given = .appOpened → ∃ device rest, given.apps = device :: rest ∧
        FreshlyOpened device.vendorId device.productId after) := by
  intro given after
  have ran := initExt_run tb hid reached.settled.idle productId
  obtain ⟨result, flag, opens⟩ :=
    @initExtOutcome_of_invalid _ tb hid (entered scene) invalid productId
  have next := reached.step (.initExt productId) trivial
    (by rw [WalletOp.call, Action.run_map, ran]; trivial)
  rw [WalletOp.call, Action.run_map_state] at next
  have same : after = left (initExtOutcome tb hid productId (entered scene)).2 :=
    congrArg Prod.snd ran
  refine ⟨(congrArg Prod.fst ran).trans (congrArg Except.ok result), ?_, ?_⟩
  · rw [same]
    exact flag
  · intro opened
    obtain ⟨device, rest, apps, dialed, live⟩ := opens opened
    refine ⟨device, rest, apps, ?_, ?_⟩
    · obtain ⟨handle, held⟩ := Option.ne_none_iff_exists'.mp live
      have heldAfter : after.self.mFramer.mIo.mDev = some handle := by
        rw [same]
        exact held
      exact ⟨handle, heldAfter, handle_open tb hid next heldAfter⟩
    · rw [same, dialed]
      exact attempt_framer tb hid device.vendorId device.productId _

/-- On every reachable wallet `reopen_with_app` ends as `init_ext` does on a new
wallet that is given the same answers. -/
theorem reopen_forgets_the_past {τ : Type} {other : Hidapi τ} {env : τ}
    {wallet : NanosWallet} {world : World τ} (reached : WalletReachable tb hid scene)
    (constructed : (construct tb other).run ⟨(), .initial env⟩ = (.ok wallet, ⟨(), world⟩))
    (productId : UInt16)
    (same : answers hid productId ((close hid).run scene).2.world.env =
      answers other productId world.env) :
    let reopened := (reopenWithApp tb hid productId).run scene
    let initial := (initExt tb other productId).run ⟨wallet, world⟩
    ∃ type, reopened.1 = .ok type ∧ initial.1 = .ok type ∧
      reopened.2.self.mValid = initial.2.self.mValid ∧
      (type = .appOpened → ∃ vendorId productId,
        FreshlyOpened vendorId productId reopened.2 ∧
        FreshlyOpened vendorId productId initial.2) := by
  intro reopened initial
  have free : scene.self.mFramer.mIo.mDevLock ∉ scene.world.held :=
    World.free_of_idle reached.settled.idle _
  have shut : (close hid).run scene = _ := close_run hid free
  have closedReached : WalletReachable tb hid ((close hid).run scene).2 :=
    reached.step .close trivial (by rw [WalletOp.call, shut]; trivial)
  have newReached : WalletReachable tb other ⟨wallet, world⟩ := .construct constructed
  have newInvalid : wallet.mValid = false := by
    rw [construct_run tb other List.not_mem_nil] at constructed
    simp only [Prod.mk.injEq, Except.ok.injEq] at constructed
    rw [← constructed.1]
  have continued : reopened = (initExt tb hid productId).run ((close hid).run scene).2 := by
    rw [shut]
    exact Action.run_bind_ok shut _
  have closedInvalid : ((close hid).run scene).2.self.mValid = false := by
    rw [shut]
    rfl
  obtain ⟨result, flag, opens⟩ := initExt_by_answers closedReached closedInvalid productId
  obtain ⟨newResult, newFlag, newOpens⟩ := initExt_by_answers newReached newInvalid productId
  rw [same] at result flag opens
  rw [continued]
  refine ⟨_, result, newResult, ?_, ?_⟩
  · exact Bool.eq_iff_iff.mpr (flag.trans newFlag.symm)
  · intro opened
    obtain ⟨device, rest, apps, fresh⟩ := opens opened
    obtain ⟨newDevice, newRest, newApps, newFresh⟩ := newOpens opened
    obtain ⟨rfl, _⟩ := List.cons.inj (apps.symm.trans newApps)
    exact ⟨_, _, fresh, newFresh⟩

end Agreement

/-- An application that stays attached, and can be opened this often. -/
def attachedApp (opens : List Bool) (attached : List (List HidDeviceInfo)) : Script :=
  { attached := attached ++ [[{ path := "", vendorId := ledgerVid, productId := nanosPid }], []],
    opens, writes := [], reads := [] }

/-- A wallet that is connected to it already. -/
def connectedApp : Scene NanosWallet Script :=
  (((WalletOp.init nanosPid).call Toolbox.reference Script.device).run (first (attachedApp
    [true, true] [[], [{ path := "", vendorId := ledgerVid, productId := nanosPid }]]))).2

theorem connectedApp_reachable : WalletReachable Toolbox.reference Script.device connectedApp :=
  (first_reachable _).step (.init nanosPid) trivial (by decide +kernel)

theorem reopen_forgets_the_past_of_connected :
    ((reopenWithApp Toolbox.reference Script.device nanosPid).run connectedApp).1 =
      ((initExt Toolbox.reference Script.device nanosPid).run
        (first (attachedApp [true] []))).1 := by
  obtain ⟨type, reopened, initial, _⟩ := reopen_forgets_the_past connectedApp_reachable
    (rfl : (construct Toolbox.reference Script.device).run
      ⟨(), .initial (attachedApp [true] [])⟩ =
        (.ok (first (attachedApp [true] [])).self, ⟨(), (first (attachedApp [true] [])).world⟩))
    nanosPid (by decide +kernel)
  exact reopened.trans initial.symm

end NanosWallet

end MhWallet
