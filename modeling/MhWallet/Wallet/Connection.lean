import MhWallet.Wallet.Exchange
import MhWallet.Wallet.Operations

/-!
Contract: the common parts of `init`, `init_ext`, `init_root` and
`init_ext_root`, with what each does to the wallet and the world.
-/

namespace MhWallet

open MhWallet.Effect MhWallet.Method

namespace NanosWallet

variable {O σ : Type} (tb : Toolbox) (hid : Hidapi σ) {wallet : NanosWallet}
  {world : World σ}

/-! ## The calls, from their parts -/

/-- Give up the connection of a valid wallet. -/
def dropConnection : Method NanosWallet σ Unit := do
  if (← self).mValid then close hid

/-- Open a device and note that the wallet is connected; `opened` and `failed`
give the result. -/
def connect {α : Type} (vendorId productId : UInt16) (opened : Method NanosWallet σ α)
    (failed : α) : Method NanosWallet σ α := do
  assignFramer tb hid vendorId productId
  if ← onMember io (HidppDevice.open hid) then do
    setValid (← self).mFramer.mIo.valid
    opened
  else do
    reportOpenFailure hid
    return failed

private theorem dropConnection_bind {α : Type} (next : Unit → Method NanosWallet σ α) :
    dropConnection hid >>= next = (do
      if (← self).mValid then close hid >>= next else next ()) := by
  rw [dropConnection, bind_assoc]
  refine bind_congr fun wallet => ?_
  split <;> rfl

private theorem close_bind {α : Type} (next : Unit → Method NanosWallet σ α) :
    close hid >>= next = (do
      if (← self).mFramer.mIo.valid then do
        onMember io (HidppDevice.close hid)
        setValid false >>= next
      else setValid false >>= next) := by
  rw [close, bind_assoc]
  refine bind_congr fun wallet => ?_
  dsimp only
  split
  · exact bind_assoc _ _ _
  · rfl

theorem init_eq (productId : UInt16) :
    init tb hid productId = withLock .wallet (do
      let systemDevs ← enumerateDevices hid ledgerVid nanosPidRoot
      let appDevs ← enumerateDevices hid ledgerVid productId
      if systemDevs ≠ [] then pure false
      else
        match appDevs with
        | [] => pure false
        | device :: _ =>
            connect tb hid device.vendorId productId (return (← self).mValid) false) :=
  rfl

theorem initRoot_eq :
    initRoot tb hid = withLock .wallet (do
      let systemDevs ← enumerateDevices hid ledgerVid nanosPidRoot
      match systemDevs with
      | [] => pure false
      | device :: _ =>
          connect tb hid device.vendorId device.productId (return (← self).mValid) false) :=
  rfl

theorem initExt_eq (productId : UInt16) :
    initExt tb hid productId = withLock .wallet (do
      let appDevs ← enumerateDevices hid ledgerVid productId
      if (← self).mValid ∧ appDevs ≠ [] then pure .appOpened
      else do
        dropConnection hid
        let systemDevs ← enumerateDevices hid ledgerVid nanosPidRoot
        if systemDevs ≠ [] then pure .appNotOpened
        else
          match appDevs with
          | [] => pure .disconnected
          | device :: _ =>
              connect tb hid device.vendorId device.productId (pure .appOpened)
                .permissionError) := by
  refine congrArg (withLock .wallet) (bind_congr fun appDevs => bind_congr fun wallet => ?_)
  split
  · rfl
  · rw [dropConnection_bind]
    refine bind_congr fun wallet => ?_
    dsimp only
    by_cases valid : wallet.mValid = true
    · rw [if_pos valid, if_pos valid]
      exact (close_bind hid _).symm
    · rw [if_neg valid, if_neg valid]
      rfl

theorem initExtRoot_eq :
    initExtRoot tb hid = withLock .wallet (do
      let systemDevs ← enumerateDevices hid ledgerVid nanosPidRoot
      if (← self).mValid ∧ systemDevs ≠ [] then pure .appNotOpened
      else do
        dropConnection hid
        if systemDevs = [] then pure .disconnected
        else connect tb hid ledgerVid nanosPidRoot (pure .appNotOpened) .permissionError) := by
  refine congrArg (withLock .wallet) (bind_congr fun systemDevs => bind_congr fun wallet => ?_)
  split
  · rfl
  · exact (dropConnection_bind hid _).symm

/-! ## What the parts do -/

/-- The device of a new wallet. -/
def newDevice (object : Nat) : HidppDevice :=
  { object, mDev := none, mVendorId := ledgerVid, mProductId := nanosPid, mPath := none }

theorem constructDevice_run {owner : O} (vendorId productId : UInt16) :
    (HidppDevice.construct vendorId productId).run ⟨owner, world⟩ =
      (.ok { object := world.objects, mDev := none, mVendorId := vendorId,
             mProductId := productId, mPath := none },
        ⟨owner, { world with objects := world.objects + 1 }⟩) := rfl

theorem constructFramer_run {owner : O} (dev : HidppDevice) :
    (FrameIoApdu.construct tb dev).run ⟨owner, world⟩ =
      (.ok (.fresh tb { dev with object := world.objects }),
        ⟨owner, { world with objects := world.objects + 1 }⟩) := rfl

/-- A temporary device without a handle is destroyed. -/
theorem destroyTemporary_run {owner : O} {dev : HidppDevice} (null : dev.mDev = none)
    (free : dev.mDevLock ∉ world.held) :
    (onTemporary dev (HidppDevice.destroy hid) : Method O σ Unit).run ⟨owner, world⟩ =
      (.ok (), ⟨owner, world.extend world.env
        [.lock dev.mDevLock, .unlock dev.mDevLock]⟩) := by
  rw [run_onTemporary, HidppDevice.destroy, HidppDevice.close_run hid free, null]

theorem construct_run {owner : O} (free : Mutex.device world.objects ∉ world.held) :
    (construct tb hid).run ⟨owner, world⟩ =
      (.ok { mFramer := .fresh tb (newDevice (world.objects + 1)), mValid := false },
        ⟨owner, { world.extend world.env
            [.lock (.device world.objects), .unlock (.device world.objects)] with
          objects := world.objects + 2 }⟩) := by
  let constructed : World σ := { world with objects := world.objects + 2 }
  have freeConstructed : (newDevice world.objects).mDevLock ∉ constructed.held := free
  rw [construct, Action.run_bind_ok (constructDevice_run ..),
    Action.run_bind_ok (constructFramer_run ..)]
  exact Action.run_bind_ok (destroyTemporary_run hid rfl freeConstructed) _

/-- The wallet after `m_framer` was assigned a new device. -/
def rewired (tb : Toolbox) (wallet : NanosWallet) (vendorId productId : UInt16) :
    NanosWallet where
  mFramer := .fresh tb
    { object := wallet.mFramer.mIo.object, mDev := none, mVendorId := vendorId,
      mProductId := productId, mPath := none }
  mValid := wallet.mValid

/-- The world after the two temporaries of that assignment are gone. -/
def afterAssign (world : World σ) : World σ :=
  { world.extend world.env
      [.lock (.device (world.objects + 1)), .unlock (.device (world.objects + 1)),
        .lock (.device world.objects), .unlock (.device world.objects)] with
    objects := world.objects + 2 }

theorem assignFramer_run (vendorId productId : UInt16)
    (free : ∀ object, Mutex.device object ∉ world.held) :
    (assignFramer tb hid vendorId productId).run ⟨wallet, world⟩ =
      (.ok (), ⟨wallet.rewired tb vendorId productId, afterAssign world⟩) := by
  let constructed : World σ := { world with objects := world.objects + 2 }
  let device : HidppDevice :=
    { object := world.objects, mDev := none, mVendorId := vendorId, mProductId := productId,
      mPath := none }
  let copied : HidppDevice := { device with object := world.objects + 1 }
  have freeCopied : copied.mDevLock ∉ constructed.held := free _
  have freeDevice : device.mDevLock ∉ (constructed.extend constructed.env
      [.lock copied.mDevLock, .unlock copied.mDevLock]).held := free _
  rw [assignFramer, Action.run_bind_ok (constructDevice_run ..),
    Action.run_bind_ok (constructFramer_run ..), Action.run_bind_ok (run_updateSelf ..)]
  have destroyedCopy : ∀ owner : NanosWallet, (onTemporary copied (HidppDevice.destroy hid)).run
      ⟨owner, constructed⟩ = _ := fun _ => destroyTemporary_run hid rfl freeCopied
  have destroyedDevice : ∀ owner : NanosWallet, (onTemporary device (HidppDevice.destroy hid)).run
      ⟨owner, _⟩ = _ := fun _ => destroyTemporary_run hid rfl freeDevice
  refine (Action.run_bind_ok (destroyedCopy _) _).trans ((destroyedDevice _).trans ?_)
  simp [World.extend, afterAssign, rewired, constructed, copied, device, HidppDevice.mDevLock,
    FrameIoApdu.assign, FrameIo.assign, FrameIoApdu.fresh, FrameIo.fresh, HidppDevice.assign]

/-- The wallet after `close`. -/
def closed (wallet : NanosWallet) : NanosWallet :=
  { wallet.withDevice wallet.closedDevice with mValid := false }

/-- The world after `close`. -/
def afterDrop (hid : Hidapi σ) (wallet : NanosWallet) (world : World σ) : World σ :=
  match wallet.mFramer.mIo.mDev with
  | some handle => wallet.afterClose hid world handle
  | none => world

@[simp] theorem afterDrop_held (wallet : NanosWallet) (world : World σ) :
    (wallet.afterDrop hid world).held = world.held := by
  unfold afterDrop
  split <;> rfl

theorem close_run (free : wallet.mFramer.mIo.mDevLock ∉ world.held) :
    (close hid).run ⟨wallet, world⟩ =
      (.ok (), ⟨wallet.closed, wallet.afterDrop hid world⟩) := by
  rw [close, Action.run_bind, run_self]
  rcases device : wallet.mFramer.mIo.mDev with _ | handle
  · have same : wallet.withDevice wallet.closedDevice = wallet := by
      simp [withDevice, closedDevice, ← device]
    simp [HidppDevice.valid, device, afterDrop, closed, same, setValid]
  · simp only [HidppDevice.valid, device, Option.isSome_some, if_true, afterDrop]
    exact Action.run_bind_ok (closeDevice_run hid device free) _

/-- `m_framer.io().getError()` after an open that failed. -/
theorem reportOpenFailure_run (null : wallet.mFramer.mIo.mDev = none)
    (free : wallet.mFramer.mIo.mDevLock ∉ world.held) :
    (reportOpenFailure hid).run ⟨wallet, world⟩ =
      (.ok (), ⟨wallet, world.extend world.env
        [.lock wallet.mFramer.mIo.mDevLock, .unlock wallet.mFramer.mIo.mDevLock]⟩) := by
  obtain ⟨text, ran⟩ := HidppDevice.getDevError_run hid free
  rw [null] at ran
  rw [reportOpenFailure, Action.run_bind, run_onMember, HidppDevice.getError]
  simp only [io]
  rw [ran]
  rfl

/-- The wallet and the world in which a connection attempt calls `open`. -/
def dialed (tb : Toolbox) (vendorId productId : UInt16) (scene : Scene NanosWallet σ) :
    Scene NanosWallet σ :=
  ⟨scene.self.rewired tb vendorId productId, afterAssign scene.world⟩

/-- An attempt to connect, and whether `open` succeeded: the wallet gives up the
old device, and then either has a new handle and is valid, or has none and keeps
its flag. -/
def attempt (tb : Toolbox) (hid : Hidapi σ) (vendorId productId : UInt16)
    (scene : Scene NanosWallet σ) : Bool × Scene NanosWallet σ :=
  let dialed := dialed tb vendorId productId scene
  let device := dialed.self.mFramer.mIo
  if (device.openAnswer hid dialed.world.env).1 then
    (true, ⟨{ dialed.self.withDevice { device with mDev := some scene.world.issued } with
      mValid := true }, device.afterOpen hid dialed.world⟩)
  else
    (false, ⟨dialed.self, (device.afterOpen hid dialed.world).extend
      (device.afterOpen hid dialed.world).env [.lock device.mDevLock,
        .unlock device.mDevLock]⟩)

theorem connect_run {α : Type} {scene : Scene NanosWallet σ} (vendorId productId : UInt16)
    (opened : Method NanosWallet σ α) (failed : α)
    (free : ∀ object, Mutex.device object ∉ scene.world.held) :
    (connect tb hid vendorId productId opened failed).run scene =
      if (attempt tb hid vendorId productId scene).1 then
        opened.run (attempt tb hid vendorId productId scene).2
      else (.ok failed, (attempt tb hid vendorId productId scene).2) := by
  let dialing := dialed tb vendorId productId scene
  let device := dialing.self.mFramer.mIo
  have freeDialed : dialing.self.mFramer.mIo.mDevLock ∉ dialing.world.held := free _
  have ran := open_run hid freeDialed
  rw [connect, Action.run_bind_ok (assignFramer_run tb hid vendorId productId free)]
  apply (Action.run_bind_ok ran _).trans
  by_cases accepted : (device.openAnswer hid dialing.world.env).1 = true
  · have success : attempt tb hid vendorId productId scene = (true, _) := if_pos accepted
    dsimp only [device] at accepted
    rw [if_pos accepted, accepted, success]
    rfl
  · have refusal : attempt tb hid vendorId productId scene = (false, _) := if_neg accepted
    dsimp only [device] at accepted
    rw [if_neg accepted]
    rw [Bool.not_eq_true] at accepted
    rw [accepted, refusal]
    have freeOpened : dialing.self.mFramer.mIo.mDevLock ∉
        (device.afterOpen hid dialing.world).held := freeDialed
    exact Action.run_bind_ok (reportOpenFailure_run hid rfl freeOpened) _

/-! ## The connection calls -/

/-- The attached devices that match. -/
def found (hid : Hidapi σ) (vendorId productId : UInt16) (env : σ) : List HidDeviceInfo :=
  (hid.enumerate env).1.filter (Hidapi.infoMatches vendorId productId)

/-- The scene after an enumeration. -/
def listed (hid : Hidapi σ) (vendorId productId : UInt16) (scene : Scene NanosWallet σ) :
    Scene NanosWallet σ :=
  ⟨scene.self, scene.world.extend (hid.enumerate scene.world.env).2
    [.hidEnumerate vendorId productId]⟩

theorem enumerateDevices_run (vendorId productId : UInt16) (scene : Scene NanosWallet σ) :
    (enumerateDevices hid vendorId productId).run scene =
      (.ok (found hid vendorId productId scene.world.env),
        listed hid vendorId productId scene) := rfl

/-- The scene after `dropConnection`. -/
def dropped (hid : Hidapi σ) (scene : Scene NanosWallet σ) : Scene NanosWallet σ :=
  if scene.self.mValid then ⟨scene.self.closed, scene.self.afterDrop hid scene.world⟩ else scene

theorem dropConnection_run {scene : Scene NanosWallet σ}
    (free : ∀ object, Mutex.device object ∉ scene.world.held) :
    (dropConnection hid).run scene = (.ok (), dropped hid scene) := by
  rw [dropConnection, Action.run_bind, run_self, dropped]
  dsimp only
  split
  · exact close_run hid (free _)
  · rfl

/-- What `init` reports, and the scene before it releases its mutex. -/
def initOutcome (productId : UInt16) (scene : Scene NanosWallet σ) :
    Bool × Scene NanosWallet σ :=
  let systemDevs := found hid ledgerVid nanosPidRoot scene.world.env
  let scene := listed hid ledgerVid nanosPidRoot scene
  let appDevs := found hid ledgerVid productId scene.world.env
  let scene := listed hid ledgerVid productId scene
  if systemDevs ≠ [] then (false, scene)
  else
    match appDevs with
    | [] => (false, scene)
    | device :: _ => attempt tb hid device.vendorId productId scene

/-- What `init_root` reports, and the scene before it releases its mutex. -/
def initRootOutcome (scene : Scene NanosWallet σ) : Bool × Scene NanosWallet σ :=
  let systemDevs := found hid ledgerVid nanosPidRoot scene.world.env
  let scene := listed hid ledgerVid nanosPidRoot scene
  match systemDevs with
  | [] => (false, scene)
  | device :: _ => attempt tb hid device.vendorId device.productId scene

/-- What `init_ext` reports, and the scene before it releases its mutex. -/
def initExtOutcome (productId : UInt16) (scene : Scene NanosWallet σ) :
    DevConnectionType × Scene NanosWallet σ :=
  let appDevs := found hid ledgerVid productId scene.world.env
  let scene := listed hid ledgerVid productId scene
  if scene.self.mValid ∧ appDevs ≠ [] then (.appOpened, scene)
  else
    let scene := dropped hid scene
    let systemDevs := found hid ledgerVid nanosPidRoot scene.world.env
    let scene := listed hid ledgerVid nanosPidRoot scene
    if systemDevs ≠ [] then (.appNotOpened, scene)
    else
      match appDevs with
      | [] => (.disconnected, scene)
      | device :: _ =>
          let (opened, scene) := attempt tb hid device.vendorId device.productId scene
          (if opened then .appOpened else .permissionError, scene)

/-- What `init_ext_root` reports, and the scene before it releases its mutex. -/
def initExtRootOutcome (scene : Scene NanosWallet σ) :
    DevConnectionType × Scene NanosWallet σ :=
  let systemDevs := found hid ledgerVid nanosPidRoot scene.world.env
  let scene := listed hid ledgerVid nanosPidRoot scene
  if scene.self.mValid ∧ systemDevs ≠ [] then (.appNotOpened, scene)
  else
    let scene := dropped hid scene
    if systemDevs = [] then (.disconnected, scene)
    else
      let (opened, scene) := attempt tb hid ledgerVid nanosPidRoot scene
      (if opened then .appNotOpened else .permissionError, scene)

/-! ### Where the connection calls end

After the enumerations, or after an attempt that follows them. -/

section Outcomes

variable (productId : UInt16) (scene : Scene NanosWallet σ)

theorem initOutcome_cases :
    let looked := listed hid ledgerVid productId (listed hid ledgerVid nanosPidRoot scene)
    (initOutcome tb hid productId scene).2 = looked ∨
      ∃ vendorId productId', (initOutcome tb hid productId scene).2 =
        (attempt tb hid vendorId productId' looked).2 := by
  intro looked
  unfold initOutcome
  dsimp only
  split
  · exact .inl rfl
  · split
    · exact .inl rfl
    · exact .inr ⟨_, _, rfl⟩

theorem initRootOutcome_cases :
    let looked := listed hid ledgerVid nanosPidRoot scene
    (initRootOutcome tb hid scene).2 = looked ∨
      ∃ vendorId productId, (initRootOutcome tb hid scene).2 =
        (attempt tb hid vendorId productId looked).2 := by
  intro looked
  unfold initRootOutcome
  dsimp only
  split
  · exact .inl rfl
  · exact .inr ⟨_, _, rfl⟩

theorem initExtOutcome_cases :
    let looked := listed hid ledgerVid productId scene
    let lookedAgain := listed hid ledgerVid nanosPidRoot (dropped hid looked)
    (initExtOutcome tb hid productId scene).2 = looked ∨
      (initExtOutcome tb hid productId scene).2 = lookedAgain ∨
      ∃ vendorId productId', (initExtOutcome tb hid productId scene).2 =
        (attempt tb hid vendorId productId' lookedAgain).2 := by
  intro looked lookedAgain
  unfold initExtOutcome
  dsimp only
  split
  · exact .inl rfl
  · split
    · exact .inr (.inl rfl)
    · split
      · exact .inr (.inl rfl)
      · exact .inr (.inr ⟨_, _, rfl⟩)

theorem initExtRootOutcome_cases :
    let looked := listed hid ledgerVid nanosPidRoot scene
    (initExtRootOutcome tb hid scene).2 = looked ∨
      (initExtRootOutcome tb hid scene).2 = dropped hid looked ∨
      ∃ vendorId productId, (initExtRootOutcome tb hid scene).2 =
        (attempt tb hid vendorId productId (dropped hid looked)).2 := by
  intro looked
  unfold initExtRootOutcome
  dsimp only
  split
  · exact .inl rfl
  · split
    · exact .inr (.inl rfl)
    · exact .inr (.inr ⟨_, _, rfl⟩)

end Outcomes

/-- A scene inside, and after, a call under the wallet's mutex. -/
def entered (scene : Scene NanosWallet σ) : Scene NanosWallet σ :=
  { scene with world := scene.world.acquire .wallet }

def left (scene : Scene NanosWallet σ) : Scene NanosWallet σ :=
  { scene with world := scene.world.release .wallet }

theorem locked_run {α : Type} {scene reached : Scene NanosWallet σ} {value : α}
    {body : Method NanosWallet σ α} (idle : scene.world.held = [])
    (ran : body.run (entered scene) = (.ok value, reached)) :
    (withLock .wallet body).run scene = (.ok value, left reached) := by
  have free : Mutex.wallet ∉ scene.world.held := World.free_of_idle idle _
  have locked := run_withLock_eq free scene.self body
  rw [show body.run ⟨scene.self, scene.world.acquire .wallet⟩ = _ from ran] at locked
  exact locked

private theorem noDevice_entered {scene : Scene NanosWallet σ} (idle : scene.world.held = [])
    (object : Nat) : Mutex.device object ∉ (entered scene).world.held := by
  simp [entered, World.acquire, idle]

@[simp] theorem listed_held (vendorId productId : UInt16) (scene : Scene NanosWallet σ) :
    (listed hid vendorId productId scene).world.held = scene.world.held := rfl

@[simp] theorem listed_env (vendorId productId : UInt16) (scene : Scene NanosWallet σ) :
    (listed hid vendorId productId scene).world.env = (hid.enumerate scene.world.env).2 := rfl

@[simp] theorem dropped_held (scene : Scene NanosWallet σ) :
    (dropped hid scene).world.held = scene.world.held := by
  unfold dropped
  split
  · exact afterDrop_held hid scene.self scene.world
  · rfl

/-- The answer to the open of an attempt. -/
def dialAnswer (hid : Hidapi σ) (vendorId productId : UInt16) (env : σ) : Bool :=
  if vendorId = 0 ∨ productId = 0 then (hid.openPath none env).1
  else (hid.openDevice vendorId productId env).1

section Attempt

variable (vendorId productId : UInt16) (scene : Scene NanosWallet σ)

theorem dialed_openAnswer : ((dialed tb vendorId productId scene).self.mFramer.mIo.openAnswer hid
    (dialed tb vendorId productId scene).world.env).1 =
      dialAnswer hid vendorId productId scene.world.env := by
  rw [HidppDevice.openAnswer, dialAnswer]
  exact apply_ite Prod.fst _ _ _

theorem attempt_fst : (attempt tb hid vendorId productId scene).1 =
    dialAnswer hid vendorId productId scene.world.env := by
  rw [attempt, ← dialed_openAnswer tb hid]
  dsimp only
  split
  next accepted => exact accepted.symm
  next refused => exact (Bool.not_eq_true _ ▸ refused).symm

theorem attempt_of_accepted (accepted : dialAnswer hid vendorId productId scene.world.env = true) :
    let device := (scene.self.rewired tb vendorId productId).mFramer.mIo
    (attempt tb hid vendorId productId scene).2 =
      ⟨{ (scene.self.rewired tb vendorId productId).withDevice
          { device with mDev := some scene.world.issued } with mValid := true },
        device.afterOpen hid (afterAssign scene.world)⟩ := by
  rw [← dialed_openAnswer tb hid] at accepted
  exact congrArg Prod.snd (if_pos accepted)

theorem attempt_of_refused (refused : dialAnswer hid vendorId productId scene.world.env = false) :
    let device := (scene.self.rewired tb vendorId productId).mFramer.mIo
    let opened := device.afterOpen hid (afterAssign scene.world)
    (attempt tb hid vendorId productId scene).2 =
      ⟨scene.self.rewired tb vendorId productId,
        opened.extend opened.env [.lock device.mDevLock, .unlock device.mDevLock]⟩ := by
  rw [← dialed_openAnswer tb hid] at refused
  exact congrArg Prod.snd (if_neg (by rw [refused]; exact Bool.false_ne_true))

theorem attempt_handle : (attempt tb hid vendorId productId scene).2.self.mFramer.mIo.mDev =
    if (attempt tb hid vendorId productId scene).1 then some scene.world.issued else none := by
  unfold attempt
  dsimp only
  split <;> rfl

theorem attempt_valid : (attempt tb hid vendorId productId scene).2.self.mValid =
    ((attempt tb hid vendorId productId scene).1 || scene.self.mValid) := by
  unfold attempt
  dsimp only
  split
  · rfl
  · simp [dialed, rewired]

@[simp] theorem attempt_held : (attempt tb hid vendorId productId scene).2.world.held =
    scene.world.held := by
  unfold attempt
  dsimp only
  split <;> rfl

theorem attempt_room :
    (attempt tb hid vendorId productId scene).2.self.mFramer.mBuffer.length = 64 := by
  unfold attempt
  dsimp only
  split <;> exact FrameIoApdu.fresh_mBuffer_length tb _

/-- What an attempt to connect sets up. -/
theorem attempt_framer :
    let framer := (attempt tb hid vendorId productId scene).2.self.mFramer
    framer.mIo.mVendorId = vendorId ∧ framer.mIo.mProductId = productId ∧
      framer.mSeq = 0 ∧ framer.mOffset = 0 ∧ framer.rn = 0 := by
  unfold attempt
  dsimp only
  split <;> exact ⟨rfl, rfl, rfl, rfl, rfl⟩

/-- A successful attempt opens a new handle for the identifiers it was given. -/
theorem attempt_opens (known : vendorId ≠ 0 ∧ productId ≠ 0)
    (opened : (attempt tb hid vendorId productId scene).1 = true) :
    .hidOpen vendorId productId (some scene.world.issued) ∈
      (attempt tb hid vendorId productId scene).2.world.log := by
  let device := (dialed tb vendorId productId scene).self.mFramer.mIo
  have event : device.openEvent (some scene.world.issued) =
      .hidOpen vendorId productId (some scene.world.issued) :=
    if_neg (by simpa [device, dialed, rewired] using known)
  rw [attempt] at opened ⊢
  dsimp only at opened ⊢
  split at opened
  next accepted =>
    rw [if_pos accepted, HidppDevice.afterOpen_log, accepted, HidppDevice.openEvents]
    show _ ∈ _ ++ ([_, device.openEvent (some scene.world.issued)] ++ _ ++ _)
    rw [event]
    simp
  next refused => simp at opened

end Attempt

/-- The connection attempt of `init` and `init_root`. -/
private theorem connect_reported (vendorId productId : UInt16) {scene : Scene NanosWallet σ}
    (free : ∀ object, Mutex.device object ∉ scene.world.held) :
    (connect tb hid vendorId productId (return (← self).mValid) false).run scene =
      (.ok (attempt tb hid vendorId productId scene).1,
        (attempt tb hid vendorId productId scene).2) := by
  rw [connect_run tb hid vendorId productId _ _ free]
  rcases opened : (attempt tb hid vendorId productId scene).1 with _ | _
  · rfl
  · rw [if_pos rfl, Action.run_bind, run_self]
    simp [attempt_valid, opened]

/-- The connection attempt of `init_ext` and `init_ext_root`. -/
private theorem connect_returned (vendorId productId : UInt16) (good bad : DevConnectionType)
    {scene : Scene NanosWallet σ} (free : ∀ object, Mutex.device object ∉ scene.world.held) :
    (connect tb hid vendorId productId (pure good) bad).run scene =
      (.ok (if (attempt tb hid vendorId productId scene).1 then good else bad),
        (attempt tb hid vendorId productId scene).2) := by
  rw [connect_run tb hid vendorId productId _ _ free]
  split <;> rfl

theorem init_run {scene : Scene NanosWallet σ} (idle : scene.world.held = [])
    (productId : UInt16) :
    let outcome := initOutcome tb hid productId (entered scene)
    (init tb hid productId).run scene = (.ok outcome.1, left outcome.2) := by
  have free := noDevice_entered idle
  rw [init_eq]
  apply locked_run idle
  rw [Action.run_bind_ok (enumerateDevices_run ..), Action.run_bind_ok (enumerateDevices_run ..),
    initOutcome]
  split
  · rfl
  · split
    · rfl
    · exact connect_reported tb hid _ _ free

theorem initRoot_run {scene : Scene NanosWallet σ} (idle : scene.world.held = []) :
    let outcome := initRootOutcome tb hid (entered scene)
    (initRoot tb hid).run scene = (.ok outcome.1, left outcome.2) := by
  have free := noDevice_entered idle
  rw [initRoot_eq]
  apply locked_run idle
  rw [Action.run_bind_ok (enumerateDevices_run ..), initRootOutcome]
  split
  · rfl
  · exact connect_reported tb hid _ _ free

theorem initExt_run {scene : Scene NanosWallet σ} (idle : scene.world.held = [])
    (productId : UInt16) :
    let outcome := initExtOutcome tb hid productId (entered scene)
    (initExt tb hid productId).run scene = (.ok outcome.1, left outcome.2) := by
  have free : ∀ object, Mutex.device object ∉
      (listed hid ledgerVid productId (entered scene)).world.held := noDevice_entered idle
  rw [initExt_eq]
  apply locked_run idle
  rw [Action.run_bind_ok (enumerateDevices_run ..), Action.run_bind_ok (run_self _),
    initExtOutcome]
  dsimp only
  split
  · rfl
  · rw [Action.run_bind_ok (dropConnection_run hid free),
      Action.run_bind_ok (enumerateDevices_run ..)]
    split
    · rfl
    · split
      · rfl
      · apply connect_returned tb hid _ _ _ _
        simpa using free

theorem initExtRoot_run {scene : Scene NanosWallet σ} (idle : scene.world.held = []) :
    let outcome := initExtRootOutcome tb hid (entered scene)
    (initExtRoot tb hid).run scene = (.ok outcome.1, left outcome.2) := by
  have free : ∀ object, Mutex.device object ∉
      (listed hid ledgerVid nanosPidRoot (entered scene)).world.held := noDevice_entered idle
  rw [initExtRoot_eq]
  apply locked_run idle
  rw [Action.run_bind_ok (enumerateDevices_run ..), Action.run_bind_ok (run_self _),
    initExtRootOutcome]
  dsimp only
  split
  · rfl
  · rw [Action.run_bind_ok (dropConnection_run hid free)]
    split
    · rfl
    · apply connect_returned tb hid _ _ _ _
      simpa using free

theorem getOpenedAppPid_run {scene : Scene NanosWallet σ} (idle : scene.world.held = []) :
    (getOpenedAppPid hid).run scene =
      (.ok (openedAppPid (found hid ledgerVid 0 scene.world.env)),
        left (listed hid ledgerVid 0 (entered scene))) :=
  locked_run idle rfl

end NanosWallet

/-! ## The first steps of a run -/

/-- A device that is found and opened, takes one report and then has these
reads. -/
def Script.attachedWith (reads : List ReadResult) : Script :=
  { attached := [[], [{ path := "", vendorId := ledgerVid, productId := nanosPid }]],
    opens := [true], writes := [64], reads }

/-- A new wallet. -/
def NanosWallet.first (script : Script) : Scene NanosWallet Script :=
  ⟨{ mFramer := .fresh Toolbox.reference (NanosWallet.newDevice 1), mValid := false },
    { World.initial script with
      objects := 2, log := [.lock (.device 0), .unlock (.device 0)] }⟩

theorem NanosWallet.first_reachable (script : Script) :
    WalletReachable Toolbox.reference Script.device (NanosWallet.first script) :=
  .construct rfl

end MhWallet
