import MhWallet.Hid.Memory
import MhWallet.Hid.Uevent
import MhWallet.Hidapi

/-!
Contract: `hid_enumerate`, `hid_free_enumeration` and the search of `hid_open` in
`linux/hid.c`, and `hidpp::enumerate_devices` with the deleter of its records, over
memory.

The devices that udev lists, and the attributes of the nodes above them, are any; so
are the values that the uninitialised variables of a round hold.

Owns: which devices the returned list describes, in which order, which blocks it
consists of, and what is lost on the way.

Does not own: how udev finds the devices.
-/

namespace MhWallet.Hid

open MhWallet.Effect MhWallet.Text

/-- The attributes of a USB device node. -/
structure UsbDevice where
  manufacturer : Option CString
  product : Option CString
  bcdDevice : Option CString
deriving DecidableEq, Repr

/-- A device of the subsystem `hidraw`: its file, the `uevent` attribute of its HID
parent, its USB device, and the `bInterfaceNumber` attribute of its USB interface. -/
structure UdevDevice where
  devNode : Option CString
  hidDevice : Option (Option CString)
  usbDevice : Option UsbDevice
  usbInterface : Option (Option CString)
deriving DecidableEq, Repr

def busUsb : UInt32 := 3

def busBluetooth : UInt32 := 5

/-! ## The functions over memory -/

/-- The variables of `parse_uevent_info` and of its caller. -/
structure Found where
  id : HidId
  foundId : Bool
  foundSerial : Bool
  foundName : Bool
  serialNumberUtf8 : Option Nat
  productNameUtf8 : Option Nat

/-- One line of the text. -/
def parseLine (found : Found) (line : CString) : Action Stop Memory Found :=
  match cut '=' line with
  | none => pure found
  | some (key, value) =>
      if key = keyId then
        let (count, id) := scanHidId value found.id
        pure { found with id, foundId := found.foundId || count == 3 }
      else if key = keyName then do
        let copy ← strdup (some value)
        return { found with productNameUtf8 := copy, foundName := true }
      else if key = keyUniq then do
        let copy ← strdup (some value)
        return { found with serialNumberUtf8 := copy, foundSerial := true }
      else pure found

/-- `parse_uevent_info`, which copies the text first; there is no copy of a null
pointer. -/
def parseUeventInfo (garbage : HidId) : Option CString → Action Stop Memory (Bool × Found)
  | none => .stop .undefined
  | some uevent => do
      let tmp ← Heap.alloc (.text uevent)
      let text ← loadAs Block.asText tmp
      let found ← (tokens '\n' text).foldlM parseLine
        ⟨garbage, false, false, false, none, none⟩
      Heap.free .undefined (some tmp)
      return (found.foundId && found.foundName && found.foundSerial, found)

/-- The variables of `hid_enumerate` between two rounds of its loop. -/
structure Scan where
  root : Option Nat
  curDev : Option Nat

/-- `record->next = next`, where there is a record. -/
def setNext (record : Option Nat) (next : Option Nat) : Action Stop Memory Unit :=
  match record with
  | some address => modifyInfo address fun record => { record with next }
  | none => pure ()

/-- The record that `calloc` returns. -/
def blankInfo : DeviceInfo := ⟨none, 0, 0, none, 0, none, none, 0, none⟩

section Enumerate

variable (locale : Locale)

/-- A new record at the end of the list, as far as it is filled for every device. -/
def createRecord (scan : Scan) (device : UdevDevice) (found : Found) :
    Action Stop Memory (Scan × Nat) := do
  let tmp ← Heap.alloc (.info blankInfo)
  setNext scan.curDev (some tmp)
  let root := if scan.curDev.isSome then scan.root else some tmp
  let path ← strdup device.devNode
  modifyInfo tmp fun record =>
    { record with path, vendorId := found.id.vendorId, productId := found.id.productId }
  let serialNumber ←
    utf8ToWcharT locale (← loadString Block.asText found.serialNumberUtf8)
  modifyInfo tmp fun record =>
    { record with serialNumber, releaseNumber := 0, interfaceNumber := -1 }
  return (⟨root, some tmp⟩, tmp)

/-- Free the record at `tmp` and take it off the list. -/
def takeOff (scan : Scan) (prevDev : Option Nat) (tmp : Nat) : Action Stop Memory Scan := do
  let record ← loadAs Block.asInfo tmp
  Heap.free .undefined record.serialNumber
  Heap.free .undefined record.path
  Heap.free .undefined (some tmp)
  setNext prevDev none
  return if prevDev.isSome then ⟨scan.root, prevDev⟩ else ⟨none, none⟩

/-- What is filled from the USB device and its interface. -/
def fillUsb (tmp : Nat) (usb : UsbDevice) (interface : Option (Option CString)) :
    Action Stop Memory Unit := do
  let manufacturerString ← utf8ToWcharT locale usb.manufacturer
  modifyInfo tmp fun record => { record with manufacturerString }
  let productString ← utf8ToWcharT locale usb.product
  modifyInfo tmp fun record =>
    { record with
      productString
      releaseNumber := usb.bcdDevice.elim 0 fun text => UInt16.ofInt (strtol16 text) }
  match interface with
  | some number =>
      modifyInfo tmp fun record =>
        { record with
          interfaceNumber := number.elim (-1) fun text => Int32.ofInt (strtol16 text) }
  | none => pure ()

/-- What is filled for a Bluetooth device. -/
def fillBluetooth (tmp : Nat) (found : Found) : Action Stop Memory Unit := do
  let manufacturerString ← Heap.alloc (.wide [])
  modifyInfo tmp fun record => { record with manufacturerString := some manufacturerString }
  let productString ←
    utf8ToWcharT locale (← loadString Block.asText found.productNameUtf8)
  modifyInfo tmp fun record => { record with productString }

/-- The branch for a device that matches. -/
def addDevice (scan : Scan) (device : UdevDevice) (found : Found) :
    Action Stop Memory Scan := do
  let prevDev := scan.curDev
  let (scan, tmp) ← createRecord locale scan device found
  if found.id.busType = busUsb then
    match device.usbDevice with
    | none => takeOff scan prevDev tmp
    | some usb => do
        fillUsb locale tmp usb device.usbInterface
        return scan
  else do
    fillBluetooth locale tmp found
    return scan

/-- The tests on the bus and on the identifiers. -/
def wants (vendorId productId : UInt16) (id : HidId) : Bool :=
  (id.busType == busUsb || id.busType == busBluetooth) &&
    (Hidapi.idMatches vendorId id.vendorId && Hidapi.idMatches productId id.productId)

/-- The tests of a device whose text has been read, and the branch they guard. -/
def addMatching (vendorId productId : UInt16) (scan : Scan) (device : UdevDevice)
    (result : Bool) (found : Found) : Action Stop Memory Scan :=
  if result && wants vendorId productId found.id then addDevice locale scan device found
  else pure scan

/-- One round of the loop, with what its uninitialised variables hold. -/
def visit (vendorId productId : UInt16) (scan : Scan) (visited : UdevDevice × HidId) :
    Action Stop Memory Scan :=
  match visited.1.hidDevice with
  | none => pure scan
  | some uevent => do
      let (result, found) ← parseUeventInfo visited.2 uevent
      let scan ← addMatching locale vendorId productId scan visited.1 result found
      Heap.free .undefined found.serialNumberUtf8
      Heap.free .undefined found.productNameUtf8
      return scan

/-- The loop of `hid_enumerate` and its result. -/
def scanDevices (vendorId productId : UInt16) (visits : List (UdevDevice × HidId)) :
    Action Stop Memory (Option Nat) := do
  let scan ← visits.foldlM (visit locale vendorId productId) ⟨none, none⟩
  return scan.root

/-- `hid_enumerate`, with the devices that udev lists, where it can be used. -/
def hidEnumerate (lastGlobalErrorStr : Nat) (vendorId productId : UInt16)
    (udev : Option (List (UdevDevice × HidId))) : Action Stop Memory (Option Nat) :=
  match udev with
  | some visits => scanDevices locale vendorId productId visits
  | none => do
      registerGlobalError locale lastGlobalErrorStr
        (some "Couldn't create udev context".toList)
      return none

end Enumerate

/-- `free` of the strings of a record and of the record. -/
def freeRecord (address : Nat) (record : DeviceInfo) : Action Stop Memory Unit := do
  Heap.free .undefined record.path
  Heap.free .undefined record.serialNumber
  Heap.free .undefined record.manufacturerString
  Heap.free .undefined record.productString
  Heap.free .undefined (some address)

/-- The loop of `hid_free_enumeration`. -/
def freeRecords : Nat → Option Nat → Action Stop Memory Unit
  | _, none => pure ()
  | 0, some _ => .stop .unfinished
  | rounds + 1, some address => do
      let record ← loadAs Block.asInfo address
      freeRecord address record
      freeRecords rounds record.next

def hidFreeEnumeration (devs : Option Nat) : Action Stop Memory Unit :=
  Heap.bounded fun rounds => freeRecords rounds devs

/-- The tests of `hid_open` on a record.  `wcscmp` does not take a null pointer. -/
def recordFits (vendorId productId : UInt16) (serialNumber : Option WString)
    (record : DeviceInfo) : Action Stop Memory Bool :=
  if record.vendorId = vendorId ∧ record.productId = productId then
    match serialNumber with
    | none => pure true
    | some wanted => do
        let own ← .ofOption .undefined (← loadString Block.asWide record.serialNumber)
        return wanted == own
  else pure false

/-- The loop of `hid_open`: the path of the first record that passes the tests. -/
def findPath (vendorId productId : UInt16) (serialNumber : Option WString) :
    Nat → Option Nat → Action Stop Memory (Option Nat)
  | _, none => pure none
  | 0, some _ => .stop .unfinished
  | rounds + 1, some address => do
      let record ← loadAs Block.asInfo address
      if ← recordFits vendorId productId serialNumber record then return record.path
      else findPath vendorId productId serialNumber rounds record.next

/-- The loop of `hidpp::enumerate_devices`: the records, each owned by one element
of the vector. -/
def collectInfos : Nat → Option Nat → Action Stop Memory (List Nat)
  | _, none => pure []
  | 0, some _ => .stop .unfinished
  | rounds + 1, some address => do
      let record ← loadAs Block.asInfo address
      return address :: (← collectInfos rounds record.next)

/-- `hidpp::enumerate_devices`. -/
def enumerateDevices (locale : Locale) (lastGlobalErrorStr : Nat) (vendorId productId : UInt16)
    (udev : Option (List (UdevDevice × HidId))) : Action Stop Memory (List Nat) := do
  let current ← hidEnumerate locale lastGlobalErrorStr vendorId productId udev
  Heap.bounded fun rounds => collectInfos rounds current

/-- `hid_device_info_deleter`, for one element after the other. -/
def deleteInfos : List Nat → Action Stop Memory Unit
  | [] => pure ()
  | address :: infos => do
      freeRecord address (← loadAs Block.asInfo address)
      deleteInfos infos

end MhWallet.Hid
