import MhWallet.Wallet.Reopening

/-!
Contract: `init` and `init_root` beside `init_ext` and `init_ext_root`.

The calls of a pair are run on the same closed wallet, each in a world of its
own, and are compared by their results, by the opens they make and by the
wallets they leave.

Owns: what the systems offer the two calls of a pair, the relation between the
scenes they run in, and the product ids for which the pairs agree.

Does not own: which devices a system lists, and which of them it opens.
-/

namespace MhWallet

open MhWallet.Effect MhWallet.Method

/-- A call of `hid_open` or `hid_open_path`. -/
def Event.opens : Event → Bool
  | .hidOpen .. | .hidOpenPath .. => true
  | _ => false

/-- The opens among these events. -/
def opensOf (events : List Event) : List Event :=
  events.filter Event.opens

@[simp] theorem opensOf_append (before after : List Event) :
    opensOf (before ++ after) = opensOf before ++ opensOf after :=
  List.filter_append before after

theorem HidppDevice.opensOf_openEvents (dev : HidppDevice) (opened : Option Handle) :
    opensOf (dev.openEvents opened) = [dev.openEvent opened] := by
  unfold openEvents openEvent
  split <;> cases opened <;> rfl

theorem HidppDevice.afterOpen_issued {σ : Type} (hid : Hidapi σ) (dev : HidppDevice)
    (world : World σ) : (dev.afterOpen hid world).issued =
      if (dev.openAnswer hid world.env).1 then world.issued + 1 else world.issued := rfl

namespace NanosWallet

/-- The same wallet in two worlds with the same objects, handles and opens. -/
structure Twins {σ τ : Type} (scene : Scene NanosWallet σ) (twin : Scene NanosWallet τ) :
    Prop where
  wallet : scene.self = twin.self
  objects : scene.world.objects = twin.world.objects
  issued : scene.world.issued = twin.world.issued
  opens : opensOf scene.world.log = opensOf twin.world.log

variable {σ τ : Type} (tb : Toolbox) (hid : Hidapi σ) (other : Hidapi τ)
  {scene : Scene NanosWallet σ} {twin : Scene NanosWallet τ}

theorem entered_env (scene : Scene NanosWallet σ) :
    (entered scene).world.env = scene.world.env := rfl

namespace Twins

theorem entered (twins : Twins scene twin) : Twins (entered scene) (entered twin) where
  wallet := twins.wallet
  objects := twins.objects
  issued := twins.issued
  opens := by simp [NanosWallet.entered, World.acquire, twins.opens]

theorem left (twins : Twins scene twin) : Twins (left scene) (left twin) where
  wallet := twins.wallet
  objects := twins.objects
  issued := twins.issued
  opens := by simp [NanosWallet.left, World.release, twins.opens]

/-- Both worlds go on with the same opens. -/
theorem extend (twins : Twins scene twin) {env : σ} {twinEnv : τ} {events twinEvents : List Event}
    (same : opensOf events = opensOf twinEvents) :
    Twins ⟨scene.self, scene.world.extend env events⟩
      ⟨twin.self, twin.world.extend twinEnv twinEvents⟩ where
  wallet := twins.wallet
  objects := twins.objects
  issued := twins.issued
  opens := by simp [World.extend, twins.opens, same]

/-- An enumeration opens nothing, whatever is asked for. -/
theorem listed (twins : Twins scene twin) (vendorId productId vendorId' productId' : UInt16) :
    Twins (listed hid vendorId productId scene) (listed other vendorId' productId' twin) :=
  twins.extend rfl

theorem dialed (twins : Twins scene twin) (vendorId productId : UInt16) :
    Twins (dialed tb vendorId productId scene) (dialed tb vendorId productId twin) where
  wallet := congrArg (fun wallet => rewired tb wallet vendorId productId) twins.wallet
  objects := congrArg (· + 2) twins.objects
  issued := twins.issued
  opens := by
    show opensOf (scene.world.log ++ _) = opensOf (twin.world.log ++ _)
    rw [opensOf_append, opensOf_append, twins.opens]
    rfl

/-- The open of a device that both systems answer alike. -/
theorem opened (twins : Twins scene twin) (dev : HidppDevice)
    (same : (dev.openAnswer hid scene.world.env).1 = (dev.openAnswer other twin.world.env).1)
    (wallet : NanosWallet) :
    Twins ⟨wallet, dev.afterOpen hid scene.world⟩ ⟨wallet, dev.afterOpen other twin.world⟩ where
  wallet := rfl
  objects := twins.objects
  issued := by
    rw [HidppDevice.afterOpen_issued, HidppDevice.afterOpen_issued, same, twins.issued]
  opens := by
    rw [HidppDevice.afterOpen_log, HidppDevice.afterOpen_log, opensOf_append, opensOf_append,
      HidppDevice.opensOf_openEvents, HidppDevice.opensOf_openEvents, twins.opens,
      World.newHandle, World.newHandle, same, twins.issued]

/-- An attempt for the same ids that both systems answer alike. -/
theorem attempt (twins : Twins scene twin) (vendorId productId : UInt16)
    (same : dialAnswer hid vendorId productId scene.world.env =
      dialAnswer other vendorId productId twin.world.env) :
    (attempt tb hid vendorId productId scene).1 = (attempt tb other vendorId productId twin).1 ∧
      Twins (attempt tb hid vendorId productId scene).2
        (attempt tb other vendorId productId twin).2 := by
  refine ⟨by rw [attempt_fst, attempt_fst, same], ?_⟩
  let device := (scene.self.rewired tb vendorId productId).mFramer.mIo
  have twinDevice : (twin.self.rewired tb vendorId productId).mFramer.mIo = device := by
    rw [← twins.wallet]
  have answer : (device.openAnswer hid (NanosWallet.dialed tb vendorId productId scene).world.env).1
      = dialAnswer hid vendorId productId scene.world.env := dialed_openAnswer ..
  have twinAnswer : (device.openAnswer other
      (NanosWallet.dialed tb vendorId productId twin).world.env).1 =
      dialAnswer other vendorId productId twin.world.env := by
    rw [← twinDevice]
    exact dialed_openAnswer ..
  have opened := (twins.dialed tb vendorId productId).opened hid other device
    ((answer.trans same).trans twinAnswer.symm)
  rcases accepted : dialAnswer hid vendorId productId scene.world.env with _ | _
  · rw [accepted] at same
    have refused := attempt_of_refused tb hid _ _ _ accepted
    have twinRefused := attempt_of_refused tb other _ _ _ same.symm
    dsimp only at refused twinRefused
    rw [refused, twinRefused, ← twins.wallet]
    exact (opened _).extend rfl
  · rw [accepted] at same
    have succeeded := attempt_of_accepted tb hid _ _ _ accepted
    have twinSucceeded := attempt_of_accepted tb other _ _ _ same.symm
    dsimp only at succeeded twinSucceeded
    rw [succeeded, twinSucceeded, ← twins.wallet, ← twins.issued]
    exact opened _

end Twins

/-! ## What is offered to a call -/

/-- What a system offers to a connection call: the root devices and the devices
with the application, as the call enumerates them, and which of its opens
succeed. -/
structure Offered where
  roots : List HidDeviceInfo
  apps : List HidDeviceInfo
  opens : UInt16 → UInt16 → Bool

/-- `init` enumerates the root devices first. -/
def initOffered (hid : Hidapi σ) (productId : UInt16) (env : σ) : Offered :=
  let next := (hid.enumerate env).2
  { roots := found hid ledgerVid nanosPidRoot env
    apps := found hid ledgerVid productId next
    opens vendorId productId := dialAnswer hid vendorId productId (hid.enumerate next).2 }

/-- `init_ext` enumerates them second. -/
def initExtOffered (hid : Hidapi σ) (productId : UInt16) (env : σ) : Offered :=
  let next := (hid.enumerate env).2
  { roots := found hid ledgerVid nanosPidRoot next
    apps := found hid ledgerVid productId env
    opens vendorId productId := dialAnswer hid vendorId productId (hid.enumerate next).2 }

/-- `init_root` and `init_ext_root` enumerate the root devices alone. -/
def rootOffered (hid : Hidapi σ) (env : σ) : Offered where
  roots := found hid ledgerVid nanosPidRoot env
  apps := []
  opens vendorId productId := dialAnswer hid vendorId productId (hid.enumerate env).2

theorem initOutcome_by_offer (productId : UInt16) (scene : Scene NanosWallet σ) :
    let offered := initOffered hid productId scene.world.env
    let looked := listed hid ledgerVid productId
      (listed hid ledgerVid nanosPidRoot scene)
    initOutcome tb hid productId scene =
      match offered.roots, offered.apps with
      | [], device :: _ => attempt tb hid device.vendorId productId looked
      | _, _ => (false, looked) := by
  unfold initOutcome
  dsimp only [initOffered, listed_env]
  rcases found hid ledgerVid nanosPidRoot scene.world.env with _ | ⟨root, roots⟩ <;>
    rcases found hid ledgerVid productId (hid.enumerate scene.world.env).2 with _ | ⟨app, apps⟩ <;>
    rfl

theorem initExtOutcome_by_offer (invalid : scene.self.mValid = false) (productId : UInt16) :
    let offered := initExtOffered hid productId scene.world.env
    initExtOutcome tb hid productId scene =
      match offered.roots, offered.apps with
      | [], [] => (.disconnected, lookedTwice hid productId scene)
      | _ :: _, _ => (.appNotOpened, lookedTwice hid productId scene)
      | [], device :: _ =>
          let (opened, scene) := attempt tb hid device.vendorId device.productId
            (lookedTwice hid productId scene)
          (if opened then .appOpened else .permissionError, scene) := by
  intro offered
  have sameRoots : (answers hid productId scene.world.env).roots = offered.roots := rfl
  have sameApps : (answers hid productId scene.world.env).apps = offered.apps := rfl
  rw [initExtOutcome_eq_of_invalid tb hid invalid, sameApps]
  rcases roots : offered.roots with _ | ⟨root, rest⟩
  · rw [if_neg (not_not.mpr (sameRoots.trans roots))]
    rcases offered.apps with _ | ⟨app, apps⟩ <;> rfl
  · rw [if_pos (by rw [sameRoots, roots]; exact List.cons_ne_nil _ _)]

theorem initExtRootOutcome_of_invalid (invalid : scene.self.mValid = false) :
    let looked := listed hid ledgerVid nanosPidRoot scene
    let attempted := attempt tb hid ledgerVid nanosPidRoot looked
    initExtRootOutcome tb hid scene =
      match (rootOffered hid scene.world.env).roots with
      | [] => (.disconnected, looked)
      | _ :: _ => (if attempted.1 then .appNotOpened else .permissionError, attempted.2) := by
  intro looked attempted
  have invalidLooked : ¬ looked.self.mValid = true := by
    rw [show looked.self.mValid = false from invalid]
    exact Bool.false_ne_true
  have undropped : dropped hid looked = looked := if_neg invalidLooked
  unfold initExtRootOutcome
  dsimp only
  rw [if_neg fun both => invalidLooked both.1, undropped]
  rcases roots : (rootOffered hid scene.world.env).roots with _ | ⟨device, rest⟩
  · exact if_pos roots
  · apply if_neg
    rw [show found hid ledgerVid nanosPidRoot scene.world.env = device :: rest from roots]
    exact List.cons_ne_nil _ _

/-- A wallet that is not valid is offered the same in two worlds. -/
structure OfferedAlike (scene : Scene NanosWallet σ) (twin : Scene NanosWallet τ)
    (offered twinOffered : Offered) : Prop where
  twins : Twins scene twin
  invalid : scene.self.mValid = false
  idle : scene.world.held = []
  twinIdle : twin.world.held = []
  same : offered = twinOffered

/-! ## The agreement -/

/-- Two calls connect alike: both or none connects, they open the same device,
and they leave the same wallet. -/
structure ConnectAlike (connected connectedExt : Prop) (after : Scene NanosWallet σ)
    (afterExt : Scene NanosWallet τ) : Prop where
  result : connected ↔ connectedExt
  opens : opensOf after.world.log = opensOf afterExt.world.log
  wallet : after.self = afterExt.self

theorem Twins.connectAlike (twins : Twins scene twin) {connected connectedExt : Prop}
    (result : connected ↔ connectedExt) : ConnectAlike connected connectedExt scene twin :=
  ⟨result, twins.opens, twins.wallet⟩

/-- `init` in one world and `init_ext` in the other connect alike. -/
def InitAgrees (productId : UInt16) (scene : Scene NanosWallet σ) (twin : Scene NanosWallet τ) :
    Prop :=
  let ran := (init tb hid productId).run scene
  let ranExt := (initExt tb other productId).run twin
  ConnectAlike (ran.1 = .ok true) (ranExt.1 = .ok .appOpened) ran.2 ranExt.2

/-- `init_root` in one world and `init_ext_root` in the other connect alike. -/
def InitRootAgrees (scene : Scene NanosWallet σ) (twin : Scene NanosWallet τ) : Prop :=
  let ran := (initRoot tb hid).run scene
  let ranExt := (initExtRoot tb other).run twin
  ConnectAlike (ran.1 = .ok true)
    (ranExt.1 = .ok .appNotOpened ∧ ranExt.2.self.mValid = true) ran.2 ranExt.2

/-- The product id 0 finds a device that has another one, and no root device is
in its way. -/
def Wildcard (productId : UInt16) (offered : Offered) : Prop :=
  productId = 0 ∧ offered.roots = [] ∧
    ∃ device rest, offered.apps = device :: rest ∧ device.productId ≠ 0

section Agreement

variable {tb hid other}

/-- `init` passes on the product id that it was given, `init_ext` that of the
device. -/
theorem initAgrees_iff {productId : UInt16}
    (alike : OfferedAlike scene twin (initOffered hid productId scene.world.env)
      (initExtOffered other productId twin.world.env)) :
    InitAgrees tb hid other productId scene twin ↔
      ¬ Wildcard productId (initOffered hid productId scene.world.env) := by
  have twinInvalid : (entered twin).self.mValid = false := by
    rw [← alike.invalid, alike.twins.wallet]
    rfl
  have looked : Twins (listed hid ledgerVid productId
        (listed hid ledgerVid nanosPidRoot (entered scene)))
      (lookedTwice other productId (entered twin)) :=
    (alike.twins.entered.listed hid other _ _ _ _).listed hid other _ _ _ _
  have outcome := initOutcome_by_offer tb hid productId (entered scene)
  have extOutcome := initExtOutcome_by_offer tb other twinInvalid productId
  dsimp only [entered_env] at outcome extOutcome
  rw [InitAgrees, init_run tb hid alike.idle productId,
    initExt_run tb other alike.twinIdle productId, outcome, extOutcome, ← alike.same]
  rcases roots : (initOffered hid productId scene.world.env).roots with _ | ⟨root, rest⟩
  · rcases apps : (initOffered hid productId scene.world.env).apps with _ | ⟨device, rest⟩
    · apply iff_of_true (looked.left.connectAlike (by simp))
      rintro ⟨_, _, device, rest, present, _⟩
      simp [apps] at present
    · by_cases own : device.productId = productId
      · obtain ⟨result, twins⟩ := looked.attempt tb hid other device.vendorId productId
          (congrFun (congrFun (congrArg Offered.opens alike.same) device.vendorId) productId)
        dsimp only
        rw [own, result]
        refine iff_of_true (twins.left.connectAlike ?_) ?_
        · cases (attempt tb other device.vendorId productId _).1 <;> simp
        · rintro ⟨zero, _, found, others, present, nonzero⟩
          obtain ⟨rfl, _⟩ := List.cons.inj (apps.symm.trans present)
          exact nonzero (own.trans zero)
      · have zero : productId = 0 := by
          by_contra known
          exact own (found_ids hid apps ⟨by decide, known⟩).2
        refine iff_of_false (fun agree => own ?_)
          (not_not.mpr ⟨zero, roots, device, rest, apps, ?_⟩)
        · have wired := (attempt_framer tb hid device.vendorId productId
            (listed hid ledgerVid productId
              (listed hid ledgerVid nanosPidRoot (entered scene)))).2.1
          have extWired := (attempt_framer tb other device.vendorId device.productId
            (lookedTwice other productId (entered twin))).2.1
          rw [← wired, ← extWired]
          exact congrArg (fun wallet => wallet.mFramer.mIo.mProductId) agree.wallet.symm
        · rw [← zero]
          exact own
  · apply iff_of_true (looked.left.connectAlike (by simp))
    rintro ⟨_, none, _⟩
    simp [roots] at none

/-- Both root calls pass on the ids of the root device. -/
theorem initRootAgrees_of_alike
    (alike : OfferedAlike scene twin (rootOffered hid scene.world.env)
      (rootOffered other twin.world.env)) :
    InitRootAgrees tb hid other scene twin := by
  have twinInvalid : twin.self.mValid = false := by
    rw [← alike.invalid, alike.twins.wallet]
  have looked : Twins (listed hid ledgerVid nanosPidRoot (entered scene))
      (listed other ledgerVid nanosPidRoot (entered twin)) :=
    alike.twins.entered.listed hid other _ _ _ _
  have extOutcome := initExtRootOutcome_of_invalid tb other
    (show (entered twin).self.mValid = false from twinInvalid)
  dsimp only [entered_env] at extOutcome
  rw [InitRootAgrees, initRoot_run tb hid alike.idle, initExtRoot_run tb other alike.twinIdle,
    extOutcome, ← alike.same, initRootOutcome]
  dsimp only [entered_env]
  rcases roots : (rootOffered hid scene.world.env).roots with _ | ⟨device, rest⟩
  · rw [show found hid ledgerVid nanosPidRoot scene.world.env = [] from roots]
    exact looked.left.connectAlike (by simp)
  · obtain ⟨vendor, product⟩ := found_ids hid roots ⟨by decide, by decide⟩
    rw [show found hid ledgerVid nanosPidRoot scene.world.env = device :: rest from roots]
    dsimp only
    rw [vendor, product]
    obtain ⟨result, twins⟩ := looked.attempt tb hid other ledgerVid nanosPidRoot
      (congrFun (congrFun (congrArg Offered.opens alike.same) ledgerVid) nanosPidRoot)
    have flag : (attempt tb other ledgerVid nanosPidRoot
        (listed other ledgerVid nanosPidRoot (entered twin))).2.self.mValid =
        (attempt tb other ledgerVid nanosPidRoot
          (listed other ledgerVid nanosPidRoot (entered twin))).1 := by
      rw [attempt_valid, show (listed other ledgerVid nanosPidRoot
        (entered twin)).self.mValid = false from twinInvalid, Bool.or_false]
    apply twins.left.connectAlike
    rw [result, left, flag]
    cases (attempt tb other ledgerVid nanosPidRoot _).1 <;> simp

/-- The old and the extended calls agree, except where `init` is asked for any
product. -/
theorem connection_calls_agree_iff {rootScene : Scene NanosWallet σ}
    {rootTwin : Scene NanosWallet τ} {productId : UInt16}
    (alike : OfferedAlike scene twin (initOffered hid productId scene.world.env)
      (initExtOffered other productId twin.world.env))
    (rootAlike : OfferedAlike rootScene rootTwin (rootOffered hid rootScene.world.env)
      (rootOffered other rootTwin.world.env)) :
    (InitAgrees tb hid other productId scene twin ∧
        InitRootAgrees tb hid other rootScene rootTwin) ↔
      ¬ Wildcard productId (initOffered hid productId scene.world.env) := by
  rw [initAgrees_iff alike, and_iff_left_iff_imp]
  exact fun _ => initRootAgrees_of_alike rootAlike

end Agreement

/-- A system that lists these devices in turn and opens one. -/
def listing (attached : List (List HidDeviceInfo)) : Script :=
  { attached, opens := [true], writes := [], reads := [] }

/-- One attached device. -/
def plugged (productId : UInt16) : List HidDeviceInfo :=
  [{ path := "", vendorId := ledgerVid, productId }]

/-- New wallets whose systems offer the same are offered alike. -/
theorem offeredAlike_first {script twinScript : Script} {offered twinOffered : Offered}
    (same : offered = twinOffered) :
    OfferedAlike (first script) (first twinScript) offered twinOffered :=
  ⟨⟨rfl, rfl, rfl, rfl⟩, rfl, rfl, rfl, same⟩

theorem connection_calls_agree_on_nanos :
    InitAgrees Toolbox.reference Script.device Script.device nanosPid
        (first (listing [[], plugged nanosPid])) (first (listing [plugged nanosPid, []])) ∧
      InitRootAgrees Toolbox.reference Script.device Script.device
        (first (listing [plugged nanosPidRoot])) (first (listing [plugged nanosPidRoot])) := by
  apply (connection_calls_agree_iff (offeredAlike_first rfl) (offeredAlike_first rfl)).mpr
  rintro ⟨zero, _⟩
  exact absurd zero (by decide)

/-- Asked for any product, `init` opens by path and `init_ext` by the ids of the
device that is attached. -/
theorem init_wildcard_opens_another_device :
    ¬ ∀ (tb : Toolbox) (hid other : Hidapi Script)
        (scene twin rootScene rootTwin : Scene NanosWallet Script) (productId : UInt16),
      WalletReachable tb hid scene → WalletReachable tb other twin →
      scene.self.mFramer.mIo.mDev = none →
      OfferedAlike scene twin (initOffered hid productId scene.world.env)
        (initExtOffered other productId twin.world.env) →
      OfferedAlike rootScene rootTwin (rootOffered hid rootScene.world.env)
        (rootOffered other rootTwin.world.env) →
      InitAgrees tb hid other productId scene twin ∧
        InitRootAgrees tb hid other rootScene rootTwin := by
  intro agree
  have agreed := agree Toolbox.reference Script.device Script.device
    (first (listing [[], plugged nanosPid])) (first (listing [plugged nanosPid, []]))
    (first (listing [])) (first (listing [])) 0 (first_reachable _) (first_reachable _) rfl
    (offeredAlike_first rfl) (offeredAlike_first rfl)
  refine (initAgrees_iff (offeredAlike_first rfl)).mp agreed.1 ⟨rfl, rfl, _, _, rfl, ?_⟩
  decide

end NanosWallet

end MhWallet
