import MhWallet.Framing.Wire
import MhWallet.Hid.Refinement

/-!
Contract: the hidapi calls of the library, answered by `linux/hid.c`.

The world's environment is the table of devices, which the functions over memory
refine.

Owns: the backend, and how `hidpp_device` ends a read on it.

Does not own: the other backends, whose `hid_error` says nothing.
-/

namespace MhWallet.Hid

open MhWallet.Effect MhWallet.Text

namespace Desk

variable {κ : Type} (kernel : Kernel κ) (locale : Locale)

def message (text : WString) : String := String.ofList text

/-- One record of an enumeration, as far as the library looks at it. -/
def infoOf (info : Info) : HidDeviceInfo where
  path := String.ofList (info.path.getD [])
  vendorId := info.vendorId
  productId := info.productId

/-- The devices that `hid_enumerate` finds without identifiers. -/
def enumerate (desk : Desk κ) : List HidDeviceInfo × Desk κ :=
  match kernel.devices desk.kernel with
  | (some visits, state) =>
      (visits.filterMap fun visited => (visited.1.describe locale 0 0).map infoOf,
        { desk with
          kernel := state
          lost := desk.lost + (visits.map fun visited => visited.1.lost).sum })
  | (none, state) =>
      ([], { desk with
        kernel := state
        lastGlobalError := some (wideOf locale "Couldn't create udev context".toList) })

/-- Whether a device has been opened. -/
def openedOf (step : Answer × Desk κ) : Bool × Desk κ :=
  (match step.1 with
    | .opened (some _) => true
    | _ => false, step.2)

/-- The hidapi calls on the table; a call on a device that is not open does nothing. -/
def hidapi : Hidapi (Desk κ) where
  enumerate := enumerate kernel locale
  openDevice vendorId productId desk := openedOf
    (desk.issue (Device.openMatching kernel locale vendorId productId none desk.kernel)
      ((listed kernel desk.kernel).map fun visited => visited.1.lost).sum)
  openPath path desk := openedOf
    (desk.issue (Device.openPath kernel locale (path.map String.toList) desk.kernel) 0)
  close handle desk :=
    match desk.device handle with
    | some device => desk.close kernel locale handle device
    | none => desk
  write handle data desk :=
    match desk.device handle with
    | some device =>
        let (value, step) := device.write kernel locale data desk.kernel
        (Int32.ofInt value, (desk.place handle (.result value [], step)).2)
    | none => (0, desk)
  read handle length desk :=
    match desk.device handle with
    | some device =>
        let step := device.read kernel locale length desk.kernel
        (some ⟨Int32.ofInt step.1.1, step.1.2, step.2.1.lastError.map message⟩,
          (desk.place handle (result step)).2)
    | none => (none, desk)
  error handle desk := (desk.device handle).bind fun device => device.lastError.map message
  errno desk :=
    (kernel.errno desk.kernel, String.ofList (kernel.strerror (kernel.errno desk.kernel)))

end Desk

section Reads

variable {κ : Type} {kernel : Kernel κ} {locale : Locale} {tb : Toolbox} {dev : HidppDevice}
  {handle : Handle} {world : World (Desk κ)} {device : Device}

/-- What `hidpp_device::read` does on a device that is open in blocking mode: it returns
where `read` has a report or may be tried again; where `read` fails otherwise, it locks
the mutex that it holds, to ask `hid_error`, and keeps it for ever. -/
theorem read_on_hidraw (live : dev.mDev = some handle) (free : dev.mDevLock ∉ world.held)
    (there : world.env.device handle = some device) (blocking : device.blocking = true)
    (out : Bytes) (readLen : Nat) :
    let ended := (HidppDevice.read tb (Desk.hidapi kernel locale) out readLen).run ⟨dev, world⟩
    match kernel.read device.deviceHandle readLen world.env.kernel with
    | (some data, _) => ended.1 = .ok (toSizeT (Int32.ofInt data.length),
        Bytes.overwrite out 0 (data.take readLen ++ List.replicate (readLen - data.length) 0))
    | (none, state) =>
        if kernel.errno state = eagain ∨ kernel.errno state = einprogress then
          ended.1 = .ok (0, Bytes.overwrite out 0 (List.replicate readLen 0))
        else ended.1 = .error (.deadlocks dev.mDevLock) ∧ dev.mDevLock ∈ ended.2.world.held := by
  have answer : (Desk.hidapi kernel locale).read handle readLen world.env =
      (some ⟨Int32.ofInt (device.report kernel locale readLen world.env.kernel).1.1,
          (device.report kernel locale readLen world.env.kernel).1.2,
          (device.report kernel locale readLen world.env.kernel).2.1.lastError.map
            Desk.message⟩,
        (world.env.place handle
          (Desk.result (device.report kernel locale readLen world.env.kernel))).2) := by
    have waits : device.read kernel locale readLen world.env.kernel =
        device.report kernel locale readLen world.env.kernel := by
      rw [Device.read, blocking, Device.readTimeout]
      exact if_neg (by decide)
    simp only [Desk.hidapi, there, waits]
  dsimp only
  rw [HidppDevice.read_run tb _ live free, answer]
  unfold Device.report
  rcases kernel.read device.deviceHandle readLen world.env.kernel with ⟨- | data, state⟩
  · dsimp only
    split
    next => simp [ReadResult.buffer, toSizeT]
    next => exact ⟨rfl, List.mem_cons_self⟩
  · rfl

/-- A device that has been unplugged. -/
theorem read_on_hidraw_unplugged :
    let unplugged : Kernel (List Int) := { calmKernel with read := fun _ _ files => (none, files) }
    let opened : Desk (List Int) := ⟨[3], [some ⟨3, true, true, none⟩], none, 0⟩
    let ended := (HidppDevice.read Toolbox.reference (Desk.hidapi unplugged some) [] 64).run
      ⟨.connected, ⟨opened, 0, 1, [], []⟩⟩
    ended.1 = .error (.deadlocks HidppDevice.connected.mDevLock) ∧
      HidppDevice.connected.mDevLock ∈ ended.2.world.held := by
  intro unplugged opened
  have ended := @read_on_hidraw _ unplugged some Toolbox.reference .connected 0
    ⟨opened, 0, 1, [], []⟩ ⟨3, true, true, none⟩ rfl List.not_mem_nil rfl rfl [] 64
  exact ended

end Reads

end MhWallet.Hid
