import MhWallet.Hid.Descriptor
import MhWallet.Hid.Enumeration

/-!
Contract: opening, reading, writing and closing a device in `linux/hid.c`, over the
memory of the process and a kernel that answers as it likes.

A read that waits for a report is here one that has got it: a call that never returns
is not a step of a run.

Owns: the functions as the source has them.

Does not own: what they do to a device, seen without memory.
-/

namespace MhWallet.Hid

open MhWallet.Effect MhWallet.Text

abbrev Errno := Nat

def eagain : Errno := 11

def einprogress : Errno := 115

/-- What `poll` returns, and whether it reports an error on the descriptor. -/
inductive PollAnswer where
  | timeout
  | failed
  | ready (broken : Bool)
deriving DecidableEq, Repr

/-- The kernel and udev.  A call that fails gives no value, and `errno` is then what
it has left. -/
structure Kernel (κ : Type) where
  openFile : Option CString → κ → Int × κ
  descriptorSize : Int → κ → Option Nat × κ
  descriptor : Int → Nat → κ → Option Bytes × κ
  write : Int → Bytes → κ → Option Nat × κ
  poll : Int → Int → κ → PollAnswer × κ
  read : Int → Nat → κ → Option Bytes × κ
  close : Int → κ → Bool × κ
  devices : κ → Option (List (UdevDevice × HidId)) × κ
  errno : κ → Errno
  strerror : Errno → CString

/-- The memory of the process, and the kernel. -/
structure Process (κ : Type) where
  memory : Memory
  kernel : κ

namespace Process

variable {κ α : Type}

def memoryLens : Lens (Process κ) Memory where
  get := Process.memory
  put memory process := { process with memory }
  get_put _ _ := rfl
  put_get _ := rfl
  put_put _ _ _ := rfl

def onMemory (inner : Action Stop Memory α) : Action Stop (Process κ) α :=
  inner.focus memoryLens

def onKernel (step : κ → α × κ) : Action Stop (Process κ) α :=
  ⟨fun process =>
    (.ok (step process.kernel).1, { process with kernel := (step process.kernel).2 })⟩

end Process

open Process

variable {κ : Type} (kernel : Kernel κ) (locale : Locale) (lastGlobalErrorStr : Nat)

/-- `strerror(errno)`. -/
def errorText (state : κ) : CString := kernel.strerror (kernel.errno state)

def currentError : Action Stop (Process κ) CString :=
  onKernel fun state => (errorText kernel state, state)

/-- The text that `register_device_error_format` makes. -/
def ioctlText (request : String) (error : CString) : CString :=
  (("ioctl (" ++ request ++ "): ").toList ++ error).take 99

/-- `ioctl(HIDIOCGRDESCSIZE)`; the size stays 0 where it fails. -/
def readDescriptorSize (dev : Nat) (deviceHandle : Int) : Action Stop (Process κ) Nat := do
  match ← onKernel (kernel.descriptorSize deviceHandle) with
  | some size => return size
  | none => do
      let error ← currentError kernel
      onMemory (registerDeviceError locale dev (some (ioctlText "GRDESCSIZE" error)))
      return 0

/-- `ioctl(HIDIOCGRDESC)`, and what is noted of the descriptor. -/
def readDescriptor (dev : Nat) (deviceHandle : Int) (size : Nat) :
    Action Stop (Process κ) Unit := do
  match ← onKernel (kernel.descriptor deviceHandle size) with
  | some value =>
      onMemory (modifyDevice dev fun record =>
        { record with usesNumberedReports := usesNumberedReports value })
  | none => do
      let error ← currentError kernel
      onMemory (registerDeviceError locale dev (some (ioctlText "GRDESC" error)))

/-- What `new_hid_device` returns. -/
def newHidDevice : HidDevice := ⟨-1, true, false, none⟩

/-- `hid_open_path`. -/
def hidOpenPath (path : Option Nat) : Action Stop (Process κ) (Option Nat) := do
  onMemory (registerGlobalError locale lastGlobalErrorStr none)
  let dev ← onMemory (Heap.alloc (.device newHidDevice))
  let name ← onMemory (loadString Block.asText path)
  let deviceHandle ← onKernel (kernel.openFile name)
  onMemory (modifyDevice dev fun record => { record with deviceHandle })
  if 0 < deviceHandle then do
    onMemory (registerDeviceError locale dev none)
    let size ← readDescriptorSize kernel locale dev deviceHandle
    readDescriptor kernel locale dev deviceHandle size
    return some dev
  else do
    let error ← currentError kernel
    onMemory (registerGlobalError locale lastGlobalErrorStr (some error))
    onMemory (Heap.free .undefined (some dev))
    return none

/-- `hid_open`. -/
def hidOpen (vendorId productId : UInt16) (serialNumber : Option WString) :
    Action Stop (Process κ) (Option Nat) := do
  onMemory (registerGlobalError locale lastGlobalErrorStr none)
  let udev ← onKernel kernel.devices
  let devs ← onMemory (hidEnumerate locale lastGlobalErrorStr vendorId productId udev)
  let pathToOpen ← onMemory
    (Heap.bounded fun rounds => findPath vendorId productId serialNumber rounds devs)
  let handle ← openFound pathToOpen
  onMemory (hidFreeEnumeration devs)
  return handle
where
  openFound : Option Nat → Action Stop (Process κ) (Option Nat)
    | some path => hidOpenPath kernel locale lastGlobalErrorStr (some path)
    | none => do
        onMemory (registerGlobalError locale lastGlobalErrorStr
          (some "No such device".toList))
        return none

/-- `hid_write`. -/
def hidWrite (dev : Nat) (data : Bytes) : Action Stop (Process κ) Int := do
  let record ← onMemory (loadAs Block.asDevice dev)
  match ← onKernel (kernel.write record.deviceHandle data) with
  | some written => do
      onMemory (registerDeviceError locale dev none)
      return written
  | none => do
      let error ← currentError kernel
      onMemory (registerDeviceError locale dev (some error))
      return -1

/-- `read`, and the tests on its result. -/
def readReport (dev : Nat) (deviceHandle : Int) (length : Nat) :
    Action Stop (Process κ) (Int × Bytes) := do
  match ← onKernel (kernel.read deviceHandle length) with
  | some data => return (data.length, data)
  | none => do
      let errno ← onKernel fun state => (kernel.errno state, state)
      if errno = eagain ∨ errno = einprogress then return (0, [])
      else do
        onMemory (registerDeviceError locale dev (some (kernel.strerror errno)))
        return (-1, [])

/-- `hid_read_timeout`: its result, and the bytes it has stored. -/
def hidReadTimeout (dev : Nat) (length : Nat) (milliseconds : Int) :
    Action Stop (Process κ) (Int × Bytes) := do
  onMemory (registerDeviceError locale dev none)
  let record ← onMemory (loadAs Block.asDevice dev)
  if 0 ≤ milliseconds then
    match ← onKernel (kernel.poll record.deviceHandle milliseconds) with
    | .timeout => return (0, [])
    | .failed => do
        let error ← currentError kernel
        onMemory (registerDeviceError locale dev (some error))
        return (-1, [])
    | .ready true => return (-1, [])
    | .ready false => readReport kernel locale dev record.deviceHandle length
  else readReport kernel locale dev record.deviceHandle length

/-- `hid_read`. -/
def hidRead (dev : Nat) (length : Nat) : Action Stop (Process κ) (Int × Bytes) := do
  let record ← onMemory (loadAs Block.asDevice dev)
  hidReadTimeout kernel locale dev length (if record.blocking then -1 else 0)

/-- `hid_set_nonblocking`. -/
def hidSetNonblocking (dev : Nat) (nonblock : Bool) : Action Stop Memory Unit :=
  modifyDevice dev fun record => { record with blocking := !nonblock }

/-- `hid_close` of a device. -/
def hidClose (dev : Nat) : Action Stop (Process κ) Unit := do
  let record ← onMemory (loadAs Block.asDevice dev)
  let closed ← onKernel (kernel.close record.deviceHandle)
  let error ← currentError kernel
  onMemory (registerGlobalError locale lastGlobalErrorStr (if closed then none else some error))
  onMemory (registerDeviceError locale dev none)
  onMemory (Heap.free .undefined (some dev))

/-- `hid_error`, and the text at the pointer it returns. -/
def hidError : Option Nat → Action Stop Memory (Option WString)
  | some dev => do
      let record ← loadAs Block.asDevice dev
      loadString Block.asWide record.lastErrorStr
  | none => do
      let error ← loadAs Block.asPointer lastGlobalErrorStr
      loadString Block.asWide error

/-- `hid_exit`. -/
def hidExit : Action Stop Memory Unit :=
  registerGlobalError locale lastGlobalErrorStr none

end MhWallet.Hid
