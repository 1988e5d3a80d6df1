import MhWallet.Effect.Thread
import MhWallet.Wallet.Connection

/-!
Contract: the operations of the wallet, one step at a time.

Every critical section of a device mutex is one step, and so is taking and
leaving the wallet's mutex; everything between them is in steps of its own.  A
routine that runs alone is the operation.

Owns: the routines and that equation for each of them.

Does not own: other clients.
-/

namespace MhWallet

open MhWallet.Effect MhWallet.Method

/-- What a step does: `lock` and `unlock` are those of the wallet's mutex, `begins`
marks the start of an attempt of `exchange`, `destroy` closes a temporary device,
and `plain` takes no mutex. -/
inductive Label where
  | plain
  | lock
  | unlock
  | begins
  | open
  | close
  | write
  | read
  | getError
  | destroy
deriving DecidableEq, Repr

/-- A member function of `O`, one step at a time. -/
abbrev Routine (O σ α : Type) := Thread Stop Label (Scene O σ) α

namespace Routine

variable {O P σ α : Type}

def plain (action : Method O σ α) : Routine O σ α := .atomic .plain action

/-- Call a member function of a member object. -/
def onMember (lens : Lens O P) (inner : Routine P σ α) : Routine O σ α :=
  inner.focus (sceneLens lens)

/-- The lock of the wallet's mutex. -/
def lockWallet : Method O σ Unit :=
  ⟨fun scene =>
    if .wallet ∈ scene.world.held then
      (.error (.deadlocks .wallet), { scene with world := scene.world.record (.lock .wallet) })
    else (.ok (), { scene with world := scene.world.acquire .wallet })⟩

/-- The unlock on the way out, if the call comes back. -/
def unlockWallet (outcome : Except Stop α) : Routine O σ α :=
  if Ended outcome then
    .step .unlock (fun scene => { scene with world := scene.world.release .wallet })
      fun _ => .done outcome
  else .done outcome

/-- `std::lock_guard<std::mutex> lock(m_devLock)` around `body`. -/
def locked (body : Routine O σ α) : Routine O σ α := do
  Thread.atomic .lock lockWallet
  body.andThen unlockWallet

@[simp] theorem alone_plain (action : Method O σ α) : (plain action).alone = action := rfl

@[simp] theorem alone_onMember (lens : Lens O P) (inner : Routine P σ α) :
    (onMember lens inner).alone = Method.onMember lens inner.alone :=
  Thread.alone_focus _ _

@[simp] theorem alone_locked (body : Routine O σ α) :
    (locked body).alone = withLock .wallet body.alone := by
  ext1 scene
  rw [locked, Thread.alone_bind, Thread.alone_atomic]
  by_cases free : Mutex.wallet ∉ scene.world.held
  · have taken : (lockWallet : Method O σ Unit).run scene =
        (.ok (), ⟨scene.self, scene.world.acquire .wallet⟩) := if_neg free
    rw [Action.run_bind_ok taken, Thread.alone_andThen]
    rw [show scene = ⟨scene.self, scene.world⟩ from rfl, run_withLock_eq free, unlockWallet]
    dsimp only
    split <;> rfl
  · have held := not_not.mp free
    have blocked : (lockWallet : Method O σ Unit).run scene =
        (.error (.deadlocks .wallet), ⟨scene.self, scene.world.record (.lock .wallet)⟩) :=
      if_pos held
    rw [Action.run_bind_error blocked]
    exact (run_withLock_of_held held scene.self body.alone).symm

theorem alone_ite (condition : Prop) [Decidable condition] (left right : Routine O σ α) :
    (if condition then left else right).alone =
      if condition then left.alone else right.alone := by
  split <;> rfl

end Routine

open Routine

/-! ## The framer -/

namespace FrameIo

variable {σ : Type} (tb : Toolbox) (hid : Hidapi σ)

def readRoutine (out : Bytes) : Routine FrameIo σ (Nat × Bytes) := do
  let framer ← plain self
  let (n, buffer) ← .atomic .read
    (Method.onMember io (HidppDevice.read tb hid framer.mBuffer 64))
  plain (updateSelf fun framer => { framer with mBuffer := buffer })
  if n ≠ 64 then return (0, out)
  else plain (accept tb out)

theorem readRoutine_alone (out : Bytes) :
    (readRoutine tb hid out).alone = read tb hid out := by
  simp only [readRoutine, read, Thread.alone_bind, alone_plain, Thread.alone_atomic, alone_ite,
    Thread.alone_pure]

def writeLoopRoutine : (rounds : Nat) → (buffer chunk : Bytes) → (cseq : UInt16) →
    Routine FrameIo σ Unit
  | rounds, buffer, chunk, cseq =>
      if buffer = [] then return ()
      else
        match rounds with
        | 0 => plain (.stop .unfinished)
        | rounds + 1 => do
            let chunk := (tb.write chunk 3 (tb.uint16Bytes cseq)).2
            let (n, buffer, chunk) := tb.popFrontTo buffer 5 chunk
            let toUsb ← plain (orOutOfRange (tb.takeRangeTo chunk (5 + n)))
            let _ ← .atomic .write (Method.onMember io (HidppDevice.write hid toUsb))
            writeLoopRoutine rounds buffer chunk (cseq + 1)

theorem writeLoopRoutine_alone (rounds : Nat) (buffer chunk : Bytes) (cseq : UInt16) :
    (writeLoopRoutine tb hid rounds buffer chunk cseq).alone =
      writeLoop tb hid rounds buffer chunk cseq := by
  induction rounds generalizing buffer chunk cseq with
  | zero =>
      rw [writeLoopRoutine, writeLoop, alone_ite]
      rfl
  | succ rounds inductionHypothesis =>
      rw [writeLoopRoutine, writeLoop, alone_ite]
      simp only [Thread.alone_bind, alone_plain, Thread.alone_atomic, inductionHypothesis]
      rfl

def writeRoutine (apdu : Apdu) : Routine FrameIo σ Nat := do
  let apduData := apdu.toBytes tb
  let chunk := tb.bytesData 64
  let chunk := (tb.write chunk 0 (tb.uint16Bytes 0x0101)).2
  let chunk := (tb.write chunk 2 [0x05]).2
  let dataLen := UInt16.ofNat apduData.length
  let buffer := tb.bytesData (apduData.length + 2)
  let buffer := (tb.write buffer 0 (tb.uint16Bytes dataLen)).2
  let buffer := (tb.write buffer 2 apduData).2
  writeLoopRoutine tb hid buffer.length buffer chunk 0
  return apduData.length

theorem writeRoutine_alone (apdu : Apdu) :
    (writeRoutine tb hid apdu).alone = write tb hid apdu := by
  simp only [writeRoutine, write, Thread.alone_bind, writeLoopRoutine_alone, Thread.alone_pure]

end FrameIo

namespace FrameIoApdu

variable {σ : Type} (tb : Toolbox) (hid : Hidapi σ)

def readMoreRoutine (buffer : Bytes) : Routine FrameIoApdu σ Bytes := do
  let (n, buffer) ← onMember frameIo (FrameIo.readRoutine tb hid buffer)
  plain (updateSelf fun framer => { framer with rn := framer.rn + (n + 5) })
  return buffer

theorem readMoreRoutine_alone (buffer : Bytes) :
    (readMoreRoutine tb hid buffer).alone = readMore tb hid buffer := by
  simp only [readMoreRoutine, readMore, Thread.alone_bind, alone_onMember,
    FrameIo.readRoutine_alone, alone_plain, Thread.alone_pure]

def readRestRoutine (respLen : UInt16) : (rounds : Nat) → (buffer : Bytes) →
    Routine FrameIoApdu σ Bytes
  | rounds, buffer => do
      if (← plain self).rn < respLen.toNat then
        match rounds with
        | 0 => plain (.stop .unfinished)
        | rounds + 1 => do
            let buffer ← readMoreRoutine tb hid buffer
            readRestRoutine respLen rounds buffer
      else return buffer

theorem readRestRoutine_alone (respLen : UInt16) (rounds : Nat) (buffer : Bytes) :
    (readRestRoutine tb hid respLen rounds buffer).alone =
      readRest tb hid respLen rounds buffer := by
  induction rounds generalizing buffer with
  | zero =>
      simp only [readRestRoutine, readRest, Thread.alone_bind, alone_plain, alone_ite,
        Thread.alone_pure]
  | succ rounds inductionHypothesis =>
      simp only [readRestRoutine, readRest, Thread.alone_bind, alone_plain, alone_ite,
        Thread.alone_pure, readMoreRoutine_alone, inductionHypothesis]

def exchangeRoutine (apdu : Apdu) (statusCode : Option UInt16) :
    Routine FrameIoApdu σ (Bytes × Option UInt16) := do
  if apdu.payloadSize > 0xFF then plain (throw .payloadTooLarge)
  else do
    plain (Method.onMember frameIo FrameIo.reset)
    let _ ← onMember frameIo (FrameIo.writeRoutine tb hid apdu)
    let buffer ← readMoreRoutine tb hid (tb.bytesData 255)
    let declared ← plain (orOutOfRange (tb.toUInt16 buffer 0))
    let respLen := declared + 2
    let buffer ← readRestRoutine tb hid respLen respLen.toNat buffer
    plain (conclude tb respLen buffer statusCode)

theorem exchangeRoutine_alone (apdu : Apdu) (statusCode : Option UInt16) :
    (exchangeRoutine tb hid apdu statusCode).alone = exchange tb hid apdu statusCode := by
  simp only [exchangeRoutine, exchange, alone_ite, Thread.alone_bind, alone_plain,
    alone_onMember, FrameIo.writeRoutine_alone, readMoreRoutine_alone, readRestRoutine_alone]

end FrameIoApdu

/-! ## The wallet -/

namespace NanosWallet

variable {σ : Type} (tb : Toolbox) (hid : Hidapi σ)

/-- A critical section of the wallet's device. -/
def deviceStep {α : Type} (label : Label) (action : Method HidppDevice σ α) :
    Routine NanosWallet σ α :=
  .atomic label (Method.onMember io action)

/-- `close` takes the mutex of the device only. -/
def closeRoutine : Routine NanosWallet σ Unit := do
  if (← plain self).mFramer.mIo.valid then deviceStep .close (HidppDevice.close hid)
  plain (setValid false)

def assignFramerRoutine (vendorId productId : UInt16) : Routine NanosWallet σ Unit := do
  let device ← plain (HidppDevice.construct vendorId productId)
  let converted ← plain (FrameIoApdu.construct tb device)
  plain (updateSelf fun wallet => { wallet with mFramer := wallet.mFramer.assign converted })
  Thread.atomic .destroy (onTemporary converted.mIo (HidppDevice.destroy hid))
  Thread.atomic .destroy (onTemporary device (HidppDevice.destroy hid))

def reportOpenFailureRoutine : Routine NanosWallet σ Unit := do
  let _ ← deviceStep .getError (HidppDevice.getError hid)
  return ()

def dropConnectionRoutine : Routine NanosWallet σ Unit := do
  if (← plain self).mValid then closeRoutine hid

/-- The end of the connection calls: open a device and note that the wallet is
connected. -/
def connectRoutine {α : Type} (vendorId productId : UInt16) (opened : Routine NanosWallet σ α)
    (failed : α) : Routine NanosWallet σ α := do
  assignFramerRoutine tb hid vendorId productId
  if ← deviceStep .open (HidppDevice.open hid) then do
    plain (setValid (← plain self).mFramer.mIo.valid)
    opened
  else do
    reportOpenFailureRoutine hid
    return failed

def initExtRoutine (productId : UInt16) : Routine NanosWallet σ DevConnectionType :=
  locked do
    let appDevs ← plain (enumerateDevices hid ledgerVid productId)
    if (← plain self).mValid ∧ appDevs ≠ [] then return .appOpened
    else do
      dropConnectionRoutine hid
      let systemDevs ← plain (enumerateDevices hid ledgerVid nanosPidRoot)
      if systemDevs ≠ [] then return .appNotOpened
      else
        match appDevs with
        | [] => return .disconnected
        | device :: _ =>
            connectRoutine tb hid device.vendorId device.productId (return .appOpened)
              .permissionError

def initExtRootRoutine : Routine NanosWallet σ DevConnectionType :=
  locked do
    let systemDevs ← plain (enumerateDevices hid ledgerVid nanosPidRoot)
    if (← plain self).mValid ∧ systemDevs ≠ [] then return .appNotOpened
    else do
      dropConnectionRoutine hid
      if systemDevs = [] then return .disconnected
      else
        connectRoutine tb hid ledgerVid nanosPidRoot (return .appNotOpened) .permissionError

def initRoutine (productId : UInt16) : Routine NanosWallet σ Bool :=
  locked do
    let systemDevs ← plain (enumerateDevices hid ledgerVid nanosPidRoot)
    let appDevs ← plain (enumerateDevices hid ledgerVid productId)
    if systemDevs ≠ [] then return false
    else
      match appDevs with
      | [] => return false
      | device :: _ =>
          connectRoutine tb hid device.vendorId productId (return (← plain self).mValid) false

def initRootRoutine : Routine NanosWallet σ Bool :=
  locked do
    let systemDevs ← plain (enumerateDevices hid ledgerVid nanosPidRoot)
    match systemDevs with
    | [] => return false
    | device :: _ =>
        connectRoutine tb hid device.vendorId device.productId (return (← plain self).mValid)
          false

def reopenWithAppRoutine (productId : UInt16) : Routine NanosWallet σ DevConnectionType := do
  closeRoutine hid
  initExtRoutine tb hid productId

def reopenRoutine : Routine NanosWallet σ Unit := do
  deviceStep .close (HidppDevice.close hid)
  let _ ← deviceStep .open (HidppDevice.open hid)
  return ()

/-- An attempt: one call of the framer's `exchange`. -/
def attemptRoutine (apdu : Apdu) (resCode : Option UInt16) :
    Routine NanosWallet σ (Bytes × Option UInt16) := do
  Thread.atomic .begins (pure ())
  onMember framer (FrameIoApdu.exchangeRoutine tb hid apdu resCode)

def exchangeRoundRoutine (apdu : Apdu) (resCode : Option UInt16)
    (again : Routine NanosWallet σ (Bytes × Option UInt16)) :
    Routine NanosWallet σ (Bytes × Option UInt16) := do
  match (← plain self).mFramer.mIo.mDev with
  | none => do
      plain (setValid false)
      return ([], resCode)
  | some _ =>
      (attemptRoutine tb hid apdu resCode).recover fun
        | .throws (.wrongSeqno _ _) => some do
            reopenRoutine hid
            again
        | _ => none

def exchangeLoopRoutine (apdu : Apdu) (resCode : Option UInt16) : (retries : Nat) →
    Routine NanosWallet σ (Bytes × Option UInt16)
  | 0 => exchangeRoundRoutine tb hid apdu resCode (plain (.stop .unfinished))
  | retries + 1 =>
      exchangeRoundRoutine tb hid apdu resCode (exchangeLoopRoutine apdu resCode retries)

def exchangeRoutine (retries : Nat) (apdu : Apdu) (resCode : Option UInt16) :
    Routine NanosWallet σ (Bytes × Option UInt16) :=
  locked do
    if (← plain self).mValid then exchangeLoopRoutine tb hid apdu resCode retries
    else plain (throw .uninitializedDevice)

/-! ### The commands -/

def commandRoutine (retries : Nat) (apdu : Apdu) (failure : String) :
    Routine NanosWallet σ Bytes := do
  let (response, status) ← exchangeRoutine tb hid retries apdu (some codeSuccess)
  match status with
  | some status =>
      if status ≠ codeSuccess then
        plain (throw (.exchangeError (failure ++ ledgerStatusToString status) status))
      else return response
  | none => return response

def getAddressRoutine (retries : Nat) (deriveIndex : UInt32) (silent : Bool) :
    Routine NanosWallet σ Bytes := do
  let data ← plain (copyPayload (tb.uint32Bytes deriveIndex) (getAddressApdu silent))
  let response ← commandRoutine tb hid retries data "Unable to get address: "
  plain (orOutOfRange (tb.takeRange response 0 20))

def signTxRoutine (retries : Nat) (rawTx : Bytes) (deriveIndex : UInt32) :
    Routine NanosWallet σ Signature := do
  let data ← plain (copyPayload (unsignedHash tb rawTx deriveIndex) signTxApdu)
  let response ← commandRoutine tb hid retries data "Unable to sign transaction: "
  let r ← plain (orOutOfRange (tb.takeFirst response 32))
  let s ← plain (orOutOfRange (tb.takeRange response 32 64))
  let v ← plain (orOutOfRange (tb.takeLast response 1))
  return { r, s, v, success := true }

def getAppVersionRoutine (retries : Nat) : Routine NanosWallet σ String := do
  let response ← commandRoutine tb hid retries getAppVersionApdu "Unable to get app version: "
  let maj ← plain (orOutOfRange (tb.at? response 0))
  let min ← plain (orOutOfRange (tb.at? response 1))
  let patch ← plain (orOutOfRange (tb.at? response 2))
  return toString maj ++ "." ++ toString min ++ "." ++ toString patch

def getAppListRoutine (retries : Nat) : Routine NanosWallet σ (List AppItem) := do
  let response ← commandRoutine tb hid retries getAppListApdu "Unable to get app version: "
  if response = [] then return []
  else plain (parseAppList tb response response.length 1 [])

def pollForAppRoutine : (tries : Nat) → (found : Bool) → (pid : UInt16) →
    Routine NanosWallet σ UInt16
  | 0, _, pid => return pid
  | tries + 1, found, pid => do
      let devices ← plain (enumerateDevices hid ledgerVid 0)
      let (found, pid) := scanForApp devices found pid
      if tries = 0 ∨ found then return pid
      else pollForAppRoutine tries found pid

def runAppRoutine (retries : Nat) (name : Bytes) : Routine NanosWallet σ UInt16 := do
  let data ← plain (copyPayload name (runAppApdu name))
  let _ ← commandRoutine tb hid retries data ("Unable to run app " ++ nameText name ++ ": ")
  pollForAppRoutine hid maxWaitTries false 0

def getOpenedAppPidRoutine : Routine NanosWallet σ UInt16 :=
  locked do
    return openedAppPid (← plain (enumerateDevices hid ledgerVid 0))

/-! ### Each routine alone -/

theorem alone_deviceStep {α : Type} (label : Label) (action : Method HidppDevice σ α) :
    (deviceStep label action : Routine NanosWallet σ α).alone = Method.onMember io action := rfl

theorem closeRoutine_alone : (closeRoutine hid).alone = close hid := by
  simp only [closeRoutine, close, Thread.alone_bind, alone_plain, alone_ite, alone_deviceStep]

theorem assignFramerRoutine_alone (vendorId productId : UInt16) :
    (assignFramerRoutine tb hid vendorId productId).alone =
      assignFramer tb hid vendorId productId := by
  simp only [assignFramerRoutine, assignFramer, Thread.alone_bind, alone_plain,
    Thread.alone_atomic]

theorem reportOpenFailureRoutine_alone :
    (reportOpenFailureRoutine hid).alone = reportOpenFailure hid := by
  simp only [reportOpenFailureRoutine, reportOpenFailure, Thread.alone_bind, alone_deviceStep,
    Thread.alone_pure]

theorem dropConnectionRoutine_alone : (dropConnectionRoutine hid).alone = dropConnection hid := by
  simp only [dropConnectionRoutine, dropConnection, Thread.alone_bind, alone_plain, alone_ite,
    closeRoutine_alone, Thread.alone_pure]

theorem connectRoutine_alone {α : Type} (vendorId productId : UInt16)
    (opened : Routine NanosWallet σ α) (failed : α) :
    (connectRoutine tb hid vendorId productId opened failed).alone =
      connect tb hid vendorId productId opened.alone failed := by
  simp only [connectRoutine, connect, Thread.alone_bind, alone_plain, alone_ite, alone_deviceStep,
    Thread.alone_pure, assignFramerRoutine_alone, reportOpenFailureRoutine_alone]

theorem initRoutine_alone (productId : UInt16) :
    (initRoutine tb hid productId).alone = init tb hid productId := by
  rw [init_eq, initRoutine, alone_locked]
  simp only [Thread.alone_bind, alone_plain, alone_ite]
  refine congrArg (withLock .wallet) (bind_congr fun systemDevs => bind_congr fun appDevs => ?_)
  cases appDevs with
  | nil => rfl
  | cons device rest =>
      rw [connectRoutine_alone]
      rfl

theorem initRootRoutine_alone : (initRootRoutine tb hid).alone = initRoot tb hid := by
  rw [initRoot_eq, initRootRoutine, alone_locked]
  simp only [Thread.alone_bind, alone_plain]
  refine congrArg (withLock .wallet) (bind_congr fun systemDevs => ?_)
  cases systemDevs with
  | nil => rfl
  | cons device rest =>
      rw [connectRoutine_alone]
      rfl

theorem initExtRoutine_alone (productId : UInt16) :
    (initExtRoutine tb hid productId).alone = initExt tb hid productId := by
  rw [initExt_eq, initExtRoutine, alone_locked]
  simp only [Thread.alone_bind, alone_plain, alone_ite, dropConnectionRoutine_alone]
  refine congrArg (withLock .wallet) (bind_congr fun appDevs => ?_)
  cases appDevs with
  | nil => rfl
  | cons device rest =>
      simp only [connectRoutine_alone]
      rfl

theorem initExtRootRoutine_alone : (initExtRootRoutine tb hid).alone = initExtRoot tb hid := by
  rw [initExtRoot_eq, initExtRootRoutine, alone_locked]
  simp only [Thread.alone_bind, alone_plain, alone_ite, dropConnectionRoutine_alone,
    connectRoutine_alone, Thread.alone_pure]

theorem reopenWithAppRoutine_alone (productId : UInt16) :
    (reopenWithAppRoutine tb hid productId).alone = reopenWithApp tb hid productId := by
  simp only [reopenWithAppRoutine, reopenWithApp, Thread.alone_bind, closeRoutine_alone,
    initExtRoutine_alone]

theorem reopenRoutine_alone : (reopenRoutine hid).alone = reopen hid := by
  simp only [reopenRoutine, reopen, Thread.alone_bind, alone_deviceStep, Thread.alone_pure]

theorem attemptRoutine_alone (apdu : Apdu) (resCode : Option UInt16) :
    (attemptRoutine tb hid apdu resCode).alone =
      Method.onMember framer (FrameIoApdu.exchange tb hid apdu resCode) := by
  simp only [attemptRoutine, Thread.alone_bind, Thread.alone_atomic, alone_onMember,
    FrameIoApdu.exchangeRoutine_alone, pure_bind]

theorem exchangeRoundRoutine_alone (apdu : Apdu) (resCode : Option UInt16)
    (again : Routine NanosWallet σ (Bytes × Option UInt16)) :
    (exchangeRoundRoutine tb hid apdu resCode again).alone =
      exchangeRound tb hid apdu resCode again.alone := by
  simp only [exchangeRoundRoutine, exchangeRound, Thread.alone_bind, alone_plain]
  refine bind_congr fun wallet => ?_
  cases wallet.mFramer.mIo.mDev with
  | none => rfl
  | some handle =>
      dsimp only
      rw [Thread.alone_recover, attemptRoutine_alone]
      congr 1
      funext reason
      rcases reason with exception | _ | _ | _ | _
      · cases exception with
        | wrongSeqno expected given =>
            dsimp only [Option.map_some]
            rw [Thread.alone_bind, reopenRoutine_alone]
        | _ => rfl
      all_goals rfl

theorem exchangeLoopRoutine_alone (apdu : Apdu) (resCode : Option UInt16) (retries : Nat) :
    (exchangeLoopRoutine tb hid apdu resCode retries).alone =
      exchangeLoop tb hid apdu resCode retries := by
  induction retries with
  | zero => exact exchangeRoundRoutine_alone tb hid apdu resCode _
  | succ retries inductionHypothesis =>
      rw [exchangeLoopRoutine, exchangeRoundRoutine_alone, inductionHypothesis, exchangeLoop]

theorem exchangeRoutine_alone (retries : Nat) (apdu : Apdu) (resCode : Option UInt16) :
    (exchangeRoutine tb hid retries apdu resCode).alone = exchange tb hid retries apdu resCode := by
  simp only [exchangeRoutine, exchange, alone_locked, Thread.alone_bind, alone_plain, alone_ite,
    exchangeLoopRoutine_alone]

theorem commandRoutine_alone (retries : Nat) (apdu : Apdu) (failure : String) :
    (commandRoutine tb hid retries apdu failure).alone = command tb hid retries apdu failure := by
  simp only [commandRoutine, command, Thread.alone_bind, exchangeRoutine_alone]
  refine bind_congr fun answer => ?_
  rcases answer with ⟨response, _ | status⟩
  · rfl
  · simp only [alone_ite, alone_plain, Thread.alone_pure]

theorem getAddressRoutine_alone (retries : Nat) (deriveIndex : UInt32) (silent : Bool) :
    (getAddressRoutine tb hid retries deriveIndex silent).alone =
      getAddress tb hid retries deriveIndex silent := by
  simp only [getAddressRoutine, getAddress, getAddressResponse, Thread.alone_bind, alone_plain,
    commandRoutine_alone, bind_assoc]

theorem signTxRoutine_alone (retries : Nat) (rawTx : Bytes) (deriveIndex : UInt32) :
    (signTxRoutine tb hid retries rawTx deriveIndex).alone =
      signTx tb hid retries rawTx deriveIndex := by
  simp only [signTxRoutine, signTx, signTxResponse, Thread.alone_bind, alone_plain,
    commandRoutine_alone, bind_assoc, Thread.alone_pure]

theorem getAppVersionRoutine_alone (retries : Nat) :
    (getAppVersionRoutine tb hid retries).alone = getAppVersion tb hid retries := by
  simp only [getAppVersionRoutine, getAppVersion, getAppVersionResponse, Thread.alone_bind,
    alone_plain, commandRoutine_alone, Thread.alone_pure]

theorem getAppListRoutine_alone (retries : Nat) :
    (getAppListRoutine tb hid retries).alone = getAppList tb hid retries := by
  simp only [getAppListRoutine, getAppList, getAppListResponse, Thread.alone_bind, alone_plain,
    commandRoutine_alone, alone_ite, Thread.alone_pure]

theorem pollForAppRoutine_alone (tries : Nat) (found : Bool) (pid : UInt16) :
    (pollForAppRoutine hid tries found pid).alone = pollForApp hid tries found pid := by
  induction tries generalizing found pid with
  | zero => rfl
  | succ tries inductionHypothesis =>
      simp only [pollForAppRoutine, pollForApp, Thread.alone_bind, alone_plain, alone_ite,
        Thread.alone_pure, inductionHypothesis]

theorem runAppRoutine_alone (retries : Nat) (name : Bytes) :
    (runAppRoutine tb hid retries name).alone = runApp tb hid retries name := by
  simp only [runAppRoutine, runApp, runAppResponse, Thread.alone_bind, alone_plain,
    commandRoutine_alone, pollForAppRoutine_alone, bind_assoc]

theorem getOpenedAppPidRoutine_alone :
    (getOpenedAppPidRoutine hid).alone = getOpenedAppPid hid := by
  simp only [getOpenedAppPidRoutine, getOpenedAppPid, alone_locked, Thread.alone_bind,
    alone_plain, Thread.alone_pure]

end NanosWallet

/-- The call of a member function, one step at a time. -/
def WalletOp.routine {σ : Type} (tb : Toolbox) (hid : Hidapi σ) :
    WalletOp → Routine NanosWallet σ Unit
  | .init productId => (fun _ => ()) <$> NanosWallet.initRoutine tb hid productId
  | .initExt productId => (fun _ => ()) <$> NanosWallet.initExtRoutine tb hid productId
  | .initRoot => (fun _ => ()) <$> NanosWallet.initRootRoutine tb hid
  | .initExtRoot => (fun _ => ()) <$> NanosWallet.initExtRootRoutine tb hid
  | .reopenWithApp productId =>
      (fun _ => ()) <$> NanosWallet.reopenWithAppRoutine tb hid productId
  | .close => NanosWallet.closeRoutine hid
  | .exchange retries apdu resCode =>
      (fun _ => ()) <$> NanosWallet.exchangeRoutine tb hid retries apdu resCode
  | .getAddress retries deriveIndex silent =>
      (fun _ => ()) <$> NanosWallet.getAddressRoutine tb hid retries deriveIndex silent
  | .signTx retries rawTx deriveIndex =>
      (fun _ => ()) <$> NanosWallet.signTxRoutine tb hid retries rawTx deriveIndex
  | .getAppVersion retries => (fun _ => ()) <$> NanosWallet.getAppVersionRoutine tb hid retries
  | .getAppList retries => (fun _ => ()) <$> NanosWallet.getAppListRoutine tb hid retries
  | .runApp retries name => (fun _ => ()) <$> NanosWallet.runAppRoutine tb hid retries name
  | .getOpenedAppPid => (fun _ => ()) <$> NanosWallet.getOpenedAppPidRoutine hid

/-- Without another client a routine is the call. -/
theorem WalletOp.routine_alone {σ : Type} (tb : Toolbox) (hid : Hidapi σ) (op : WalletOp) :
    (op.routine tb hid).alone = op.call tb hid := by
  cases op with
  | init productId =>
      exact (Thread.alone_map _ _).trans
        (congrArg _ (NanosWallet.initRoutine_alone tb hid productId))
  | initExt productId =>
      exact (Thread.alone_map _ _).trans
        (congrArg _ (NanosWallet.initExtRoutine_alone tb hid productId))
  | initRoot =>
      exact (Thread.alone_map _ _).trans (congrArg _ (NanosWallet.initRootRoutine_alone tb hid))
  | initExtRoot =>
      exact (Thread.alone_map _ _).trans (congrArg _ (NanosWallet.initExtRootRoutine_alone tb hid))
  | reopenWithApp productId =>
      exact (Thread.alone_map _ _).trans
        (congrArg _ (NanosWallet.reopenWithAppRoutine_alone tb hid productId))
  | close => exact NanosWallet.closeRoutine_alone hid
  | exchange retries apdu resCode =>
      exact (Thread.alone_map _ _).trans
        (congrArg _ (NanosWallet.exchangeRoutine_alone tb hid retries apdu resCode))
  | getAddress retries deriveIndex silent =>
      exact (Thread.alone_map _ _).trans
        (congrArg _ (NanosWallet.getAddressRoutine_alone tb hid retries deriveIndex silent))
  | signTx retries rawTx deriveIndex =>
      exact (Thread.alone_map _ _).trans
        (congrArg _ (NanosWallet.signTxRoutine_alone tb hid retries rawTx deriveIndex))
  | getAppVersion retries =>
      exact (Thread.alone_map _ _).trans
        (congrArg _ (NanosWallet.getAppVersionRoutine_alone tb hid retries))
  | getAppList retries =>
      exact (Thread.alone_map _ _).trans
        (congrArg _ (NanosWallet.getAppListRoutine_alone tb hid retries))
  | runApp retries name =>
      exact (Thread.alone_map _ _).trans
        (congrArg _ (NanosWallet.runAppRoutine_alone tb hid retries name))
  | getOpenedAppPid =>
      exact (Thread.alone_map _ _).trans (congrArg _ (NanosWallet.getOpenedAppPidRoutine_alone hid))

end MhWallet
