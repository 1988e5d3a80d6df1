import MhWallet.FrameIo

/-!
Contract: `nanos_wallet`: connecting, the retrying exchange and the commands.

Strings of bytes (`std::string`) are `Bytes`.  The retry loop of `exchange` has
no bound in the source; here it is given a number of retries, and a call that
uses them up has not ended.
-/

namespace MhWallet

open MhWallet.Effect MhWallet.Method

inductive DevConnectionType where
  | disconnected
  | appNotOpened
  | permissionError
  | appOpened
deriving DecidableEq, Repr

structure AppItem where
  name : Bytes
  hash : Bytes
  hashCodeData : Bytes
  flags : UInt32
deriving DecidableEq, Repr

/-- `minter::signature`. -/
structure Signature where
  r : Bytes
  s : Bytes
  v : Bytes
  success : Bool
deriving DecidableEq, Repr

structure NanosWallet where
  mFramer : FrameIoApdu
  mValid : Bool
deriving DecidableEq, Repr

namespace NanosWallet

variable {O σ : Type} (tb : Toolbox) (hid : Hidapi σ)

def framer : Lens NanosWallet FrameIoApdu where
  get wallet := wallet.mFramer
  put mFramer wallet := { wallet with mFramer }
  get_put _ _ := rfl
  put_get _ := rfl
  put_put _ _ _ := rfl

/-- `m_framer.io()`. -/
def io : Lens NanosWallet HidppDevice where
  get wallet := wallet.mFramer.mIo
  put mIo wallet :=
    { wallet with mFramer := { wallet.mFramer with mIo } }
  get_put _ _ := rfl
  put_get _ := rfl
  put_put _ _ _ := rfl

/-- `nanos_wallet()`. -/
def construct : Method O σ NanosWallet := do
  let device ← HidppDevice.construct ledgerVid nanosPid
  let mFramer ← FrameIoApdu.construct tb device
  onTemporary device (HidppDevice.destroy hid)
  return { mFramer, mValid := false }

def setValid (mValid : Bool) : Method NanosWallet σ Unit :=
  updateSelf fun wallet => { wallet with mValid }

def close : Method NanosWallet σ Unit := do
  if (← self).mFramer.mIo.valid then
    onMember io (HidppDevice.close hid)
  setValid false

/-- `~nanos_wallet`: its body, then the destructor of the framer's device. -/
def destroy : Method NanosWallet σ Unit := do
  close hid
  onMember io (HidppDevice.destroy hid)

/-- `m_framer = hidpp_device(vendorId, productId)`: the device is converted to
a temporary framer, which is assigned, and both temporaries are destroyed. -/
def assignFramer (vendorId productId : UInt16) : Method NanosWallet σ Unit := do
  let device ← HidppDevice.construct vendorId productId
  let converted ← FrameIoApdu.construct tb device
  updateSelf fun wallet =>
    { wallet with mFramer := wallet.mFramer.assign converted }
  onTemporary converted.mIo (HidppDevice.destroy hid)
  onTemporary device (HidppDevice.destroy hid)

/-- The report of a failed `open`, written to the log. -/
def reportOpenFailure : Method NanosWallet σ Unit := do
  let _ ← onMember io (HidppDevice.getError hid)
  return ()

def initExt (productId : UInt16) : Method NanosWallet σ DevConnectionType :=
  withLock .wallet do
    let appDevs ← enumerateDevices hid ledgerVid productId
    if (← self).mValid ∧ appDevs ≠ [] then return .appOpened
    else do
      if (← self).mValid then
        if (← self).mFramer.mIo.valid then
          onMember io (HidppDevice.close hid)
        setValid false
      let systemDevs ← enumerateDevices hid ledgerVid nanosPidRoot
      if systemDevs ≠ [] then return .appNotOpened
      else
        match appDevs with
        | [] => return .disconnected
        | device :: _ => do
            assignFramer tb hid device.vendorId device.productId
            if ← onMember io (HidppDevice.open hid) then
              setValid (← self).mFramer.mIo.valid
              return .appOpened
            else
              reportOpenFailure hid
              return .permissionError

def initExtRoot : Method NanosWallet σ DevConnectionType :=
  withLock .wallet do
    let systemDevs ← enumerateDevices hid ledgerVid nanosPidRoot
    if (← self).mValid ∧ systemDevs ≠ [] then return .appNotOpened
    else do
      if (← self).mValid then close hid
      if systemDevs = [] then return .disconnected
      else do
        assignFramer tb hid ledgerVid nanosPidRoot
        if ← onMember io (HidppDevice.open hid) then
          setValid (← self).mFramer.mIo.valid
          return .appNotOpened
        else
          reportOpenFailure hid
          return .permissionError

def init (productId : UInt16) : Method NanosWallet σ Bool :=
  withLock .wallet do
    let systemDevs ← enumerateDevices hid ledgerVid nanosPidRoot
    let appDevs ← enumerateDevices hid ledgerVid productId
    if systemDevs ≠ [] then return false
    else
      match appDevs with
      | [] => return false
      | device :: _ => do
          assignFramer tb hid device.vendorId productId
          if ← onMember io (HidppDevice.open hid) then
            setValid (← self).mFramer.mIo.valid
            return (← self).mValid
          else
            reportOpenFailure hid
            return false

def initRoot : Method NanosWallet σ Bool :=
  withLock .wallet do
    let systemDevs ← enumerateDevices hid ledgerVid nanosPidRoot
    match systemDevs with
    | [] => return false
    | device :: _ => do
        assignFramer tb hid device.vendorId device.productId
        if ← onMember io (HidppDevice.open hid) then
          setValid (← self).mFramer.mIo.valid
          return (← self).mValid
        else
          reportOpenFailure hid
          return false

def reopenWithApp (productId : UInt16) : Method NanosWallet σ DevConnectionType := do
  close hid
  initExt tb hid productId

/-! ## The exchange -/

/-- What the `catch` clause for `wrong_seqno_error` does before the next
round. -/
def reopen : Method NanosWallet σ Unit := do
  onMember io (HidppDevice.close hid)
  let _ ← onMember io (HidppDevice.open hid)
  return ()

/-- One round of the `do … while (!success)` loop.  Only `wrong_seqno_error`
starts another round; `std::out_of_range` is thrown again and the rest is not
caught. -/
def exchangeRound (apdu : Apdu) (resCode : Option UInt16)
    (again : Method NanosWallet σ (Bytes × Option UInt16)) :
    Method NanosWallet σ (Bytes × Option UInt16) := do
  match (← self).mFramer.mIo.mDev with
  | none => do
      setValid false
      return ([], resCode)
  | some _ =>
      Action.recover
        (onMember framer (FrameIoApdu.exchange tb hid apdu resCode))
        fun
          | .throws (.wrongSeqno _ _) => some do
              reopen hid
              again
          | _ => none

def exchangeLoop (apdu : Apdu) (resCode : Option UInt16) : (retries : Nat) →
    Method NanosWallet σ (Bytes × Option UInt16)
  | 0 => exchangeRound tb hid apdu resCode (.stop .unfinished)
  | retries + 1 =>
      exchangeRound tb hid apdu resCode (exchangeLoop apdu resCode retries)

/-- `exchange`: the response, and what `*res_code` is afterwards. -/
def exchange (retries : Nat) (apdu : Apdu) (resCode : Option UInt16) :
    Method NanosWallet σ (Bytes × Option UInt16) :=
  withLock .wallet do
    if (← self).mValid then exchangeLoop tb hid apdu resCode retries
    else throw .uninitializedDevice

/-! ## The commands -/

/-- `memmove(data.payload, bytes, size)`: undefined past the end of the array. -/
def copyPayload (content : Bytes) (apdu : Apdu) : Method NanosWallet σ Apdu :=
  if fits : content.length ≤ 255 then
    return { apdu with
      payload := ⟨(content ++ apdu.payload.toList.drop content.length).toArray, by
        simp
        omega⟩ }
  else .stop .undefined

/-- The common part of the commands: exchange with `status` preset to success,
then the test of `status`. -/
def command (retries : Nat) (apdu : Apdu) (failure : String) :
    Method NanosWallet σ Bytes := do
  let (response, status) ← exchange tb hid retries apdu (some codeSuccess)
  match status with
  | some status =>
      if status ≠ codeSuccess then
        throw (.exchangeError (failure ++ ledgerStatusToString status) status)
      else return response
  | none => return response

def emptyPayload : Vector UInt8 255 := Vector.replicate 255 0

def getAddressApdu (silent : Bool) : Apdu :=
  { cla := deviceClass, ins := cmdGetAddress, p1 := if silent then 1 else 0, p2 := 0,
    payloadSize := 4, payload := emptyPayload }

/-- `get_address` up to its status test. -/
def getAddressResponse (retries : Nat) (deriveIndex : UInt32) (silent : Bool) :
    Method NanosWallet σ Bytes := do
  let data ← copyPayload (tb.uint32Bytes deriveIndex) (getAddressApdu silent)
  command tb hid retries data "Unable to get address: "

def getAddress (retries : Nat) (deriveIndex : UInt32) (silent : Bool) :
    Method NanosWallet σ Bytes := do
  let response ← getAddressResponse tb hid retries deriveIndex silent
  orOutOfRange (tb.takeRange response 0 20)

def signTxApdu : Apdu :=
  { cla := deviceClass, ins := cmdSignTx, p1 := 0, p2 := 0, payloadSize := 4 + 32,
    payload := emptyPayload }

/-- The buffer that `sign_tx` copies into its payload. -/
def unsignedHash (rawTx : Bytes) (deriveIndex : UInt32) : Bytes :=
  let unsignedHash := tb.bytesData 36
  let unsignedHash := (tb.write unsignedHash 0 (tb.uint32Bytes deriveIndex)).2
  (tb.write unsignedHash 4 rawTx).2

/-- `sign_tx` up to its status test. -/
def signTxResponse (retries : Nat) (rawTx : Bytes) (deriveIndex : UInt32) :
    Method NanosWallet σ Bytes := do
  let data ← copyPayload (unsignedHash tb rawTx deriveIndex) signTxApdu
  command tb hid retries data "Unable to sign transaction: "

def signTx (retries : Nat) (rawTx : Bytes) (deriveIndex : UInt32) :
    Method NanosWallet σ Signature := do
  let response ← signTxResponse tb hid retries rawTx deriveIndex
  let r ← orOutOfRange (tb.takeFirst response 32)
  let s ← orOutOfRange (tb.takeRange response 32 64)
  let v ← orOutOfRange (tb.takeLast response 1)
  return { r, s, v, success := true }

def getAppVersionApdu : Apdu :=
  { cla := deviceClass, ins := cmdGetVersion, p1 := 0, p2 := 0, payloadSize := 0,
    payload := emptyPayload }

/-- `get_app_version` up to its status test. -/
def getAppVersionResponse (retries : Nat) : Method NanosWallet σ Bytes :=
  command tb hid retries getAppVersionApdu "Unable to get app version: "

def getAppVersion (retries : Nat) : Method NanosWallet σ String := do
  let response ← getAppVersionResponse tb hid retries
  let maj ← orOutOfRange (tb.at? response 0)
  let min ← orOutOfRange (tb.at? response 1)
  let patch ← orOutOfRange (tb.at? response 2)
  return toString maj ++ "." ++ toString min ++ "." ++ toString patch

def getAppListApdu : Apdu :=
  { cla := deviceClass, ins := cmdGetAppList, p1 := 0, p2 := 0, payloadSize := 0,
    payload := emptyPayload }

/-- `get_app_list` up to its status test. -/
def getAppListResponse (retries : Nat) : Method NanosWallet σ Bytes :=
  command tb hid retries getAppListApdu "Unable to get app version: "

/-- One record of the application list at `offset`, and the offset after it. -/
def parseAppItem (response : Bytes) (offset : Nat) :
    Method O σ (AppItem × Nat) := do
  let offset := offset + 1
  let flags ← orOutOfRange (tb.toUInt32 response offset)
  let offset := offset + 4
  let hashCodeData ← orOutOfRange (tb.takeRange response offset (offset + 32))
  let offset := offset + 32
  let hash ← orOutOfRange (tb.takeRange response offset (offset + 32))
  let offset := offset + 32
  -- `operator[]` does not check its index.
  let nameLen ← Action.ofOption .undefined response[offset]?
  let name ←
    orOutOfRange (tb.takeRangeC response (offset + 1) (offset + 1 + nameLen.toNat))
  let offset := offset + (1 + nameLen.toNat)
  return ({ name, hash, hashCodeData, flags }, offset)

/-- `while (offset != response.size())`; a record takes at least one byte, so
the size of the response bounds the rounds. -/
def parseAppList (response : Bytes) : (rounds offset : Nat) → (out : List AppItem) →
    Method O σ (List AppItem)
  | rounds, offset, out => do
      if offset ≠ response.length then
        match rounds with
        | 0 => .stop .unfinished
        | rounds + 1 => do
            let (item, offset) ← parseAppItem tb response offset
            parseAppList response rounds offset (out ++ [item])
      else return out

def getAppList (retries : Nat) : Method NanosWallet σ (List AppItem) := do
  let response ← getAppListResponse tb hid retries
  if response = [] then return []
  else parseAppList tb response response.length 1 []

def runAppApdu (name : Bytes) : Apdu :=
  { cla := deviceClass, ins := cmdRunApp, p1 := 0, p2 := 0, payloadSize := name.length,
    payload := emptyPayload }

/-- A name in the text of an error. -/
def nameText (name : Bytes) : String :=
  String.ofList (name.map fun byte => Char.ofNat byte.toNat)

/-- `run_app` up to its status test. -/
def runAppResponse (retries : Nat) (name : Bytes) : Method NanosWallet σ Bytes := do
  let data ← copyPayload name (runAppApdu name)
  command tb hid retries data ("Unable to run app " ++ nameText name ++ ": ")

/-- The `for` loop of `run_app` over one enumeration: the last device that is
not the root device decides `found` and `pid`. -/
def scanForApp (devices : List HidDeviceInfo) (found : Bool) (pid : UInt16) :
    Bool × UInt16 :=
  devices.foldl
    (fun seen device =>
      if device.productId ≠ nanosPidRoot then (true, device.productId) else seen)
    (found, pid)

/-- The `do … while (!found)` loop of `run_app`, with the tries that are
left. -/
def pollForApp : (tries : Nat) → (found : Bool) → (pid : UInt16) →
    Method NanosWallet σ UInt16
  | 0, _, pid => return pid
  | tries + 1, found, pid => do
      let devices ← enumerateDevices hid ledgerVid 0
      let (found, pid) := scanForApp devices found pid
      if tries = 0 ∨ found then return pid
      else pollForApp tries found pid

def maxWaitTries : Nat := 300

def runApp (retries : Nat) (name : Bytes) : Method NanosWallet σ UInt16 := do
  let _ ← runAppResponse tb hid retries name
  pollForApp hid maxWaitTries false 0

/-- The first device that is not the root device. -/
def openedAppPid (devices : List HidDeviceInfo) : UInt16 :=
  match devices.find? fun device => device.productId ≠ nanosPidRoot with
  | some device => device.productId
  | none => 0

def getOpenedAppPid : Method NanosWallet σ UInt16 :=
  withLock .wallet do
    return openedAppPid (← enumerateDevices hid ledgerVid 0)

end NanosWallet

end MhWallet
