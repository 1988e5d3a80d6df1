import MhWallet.Hid.Hidraw
import MhWallet.Hid.Walks

/-!
Contract: what the functions of `linux/hid.c` do to a device, seen without memory.

A device is its file descriptor, its mode and its last error.  Each function of the
source is shown to change the blocks of the device as its counterpart here changes the
device, to ask the kernel the same questions, and to touch no other block.

Owns: the counterparts, and one specification for each function.

Does not own: runs of calls.
-/

namespace MhWallet.Hid

open MhWallet.Effect MhWallet.Text Process

/-! ## Specifications over the kernel -/

section Specifications

variable {κ α β : Type}

/-- From any process that has these blocks beside others, and this state of the kernel,
the computation returns; it leaves the other blocks as they are. -/
def Spec (state : κ) (cells : Cells) (action : Action Stop (Process κ) α)
    (post : α → κ → Cells → Prop) : Prop :=
  ∀ process : Process κ, process.kernel = state →
    Heap.TripleAt memoryLens process cells action fun value after left =>
      post value after.kernel left

namespace Spec

variable {state : κ} {cells : Cells} {action : Action Stop (Process κ) α}
  {post : α → κ → Cells → Prop}

theorem weaken {weaker : α → κ → Cells → Prop} (spec : Spec state cells action post)
    (implies : ∀ value after left, post value after left → weaker value after left) :
    Spec state cells action weaker := by
  intro process same
  exact (spec process same).weaken fun value after left => implies value after.kernel left

theorem permute (others : Cells) (same : cells = others)
    (spec : Spec state others action post) : Spec state cells action post := same ▸ spec

theorem pure {value : α} (holds : post value state cells) :
    Spec state cells (Pure.pure value) post := by
  intro process same
  exact Heap.TripleAt.pure (same ▸ holds)

theorem bind {first : Action Stop (Process κ) β} {next : β → Action Stop (Process κ) α}
    {middle : β → κ → Cells → Prop} (before : Spec state cells first middle)
    (after : ∀ value between left, middle value between left →
      Spec between left (next value) post) :
    Spec state cells (first >>= next) post := by
  intro process same
  apply (before process same).bind
  intro value between left holds
  exact after value between.kernel left holds between rfl

theorem onMemory {inner : Action Stop Memory α} {holds : α → Cells → Prop}
    (triple : Heap.Triple cells inner holds) :
    Spec state cells (Process.onMemory inner) fun value after left =>
      holds value left ∧ after = state := by
  intro process same
  apply (Heap.TripleAt.focus triple).weaken
  rintro value after left ⟨held, memory, rfl⟩
  exact ⟨held, same⟩

theorem onKernel (step : κ → α × κ) :
    Spec state cells (Process.onKernel step) fun value after left =>
      value = (step state).1 ∧ after = (step state).2 ∧ left = cells := by
  rintro process rfl
  have ran : (Process.onKernel step).run process =
      (.ok (step process.kernel).1, { process with kernel := (step process.kernel).2 }) := rfl
  apply (Heap.TripleAt.outside ran rfl).weaken
  rintro value after left ⟨rfl, rfl, rfl⟩
  exact ⟨rfl, rfl, rfl⟩

end Spec

end Specifications

/-! ## Devices -/

/-- An open device. -/
structure Device where
  deviceHandle : Int
  blocking : Bool
  numbered : Bool
  lastError : Option WString
deriving DecidableEq, Repr

/-- These are the blocks of the device at `dev`. -/
def Keeps (dev : Nat) (device : Device) (box : Cells) : Prop :=
  ∃ error : Held, error.chars = device.lastError ∧ box = deviceCells dev
    ⟨device.deviceHandle, device.blocking, device.numbered, none⟩ error

namespace Device

variable {κ : Type} (kernel : Kernel κ) (locale : Locale)

/-- What `hid_open_path` makes of a file that it has opened. -/
def setUp (deviceHandle : Int) (state : κ) : Device × κ :=
  let (size, state) := kernel.descriptorSize deviceHandle state
  let sizeError := if size.isSome then none
    else some (wideOf locale (ioctlText "GRDESCSIZE" (errorText kernel state)))
  let (value, state) := kernel.descriptor deviceHandle (size.getD 0) state
  match value with
  | some value => (⟨deviceHandle, true, usesNumberedReports value, sizeError⟩, state)
  | none => (⟨deviceHandle, true, false,
      some (wideOf locale (ioctlText "GRDESC" (errorText kernel state)))⟩, state)

/-- `hid_open_path`: the device, or what the global error says then. -/
def openPath (path : Option CString) (state : κ) : Except WString Device × κ :=
  let (deviceHandle, state) := kernel.openFile path state
  if 0 < deviceHandle then
    let (device, state) := setUp kernel locale deviceHandle state
    (.ok device, state)
  else (.error (wideOf locale (errorText kernel state)), state)

/-- The path of the first device that fits. -/
def findPath (vendorId productId : UInt16) (serialNumber : Option WString)
    (visits : List (UdevDevice × HidId)) : Option CString :=
  ((visits.filterMap fun visited => visited.1.describe locale vendorId productId).find?
    (Info.fits vendorId productId serialNumber)).bind Info.path

/-- `hid_open`. -/
def openMatching (vendorId productId : UInt16) (serialNumber : Option WString) (state : κ) :
    Except WString Device × κ :=
  let (udev, state) := kernel.devices state
  match udev.bind (findPath locale vendorId productId serialNumber) with
  | some path => openPath kernel locale (some path) state
  | none => (.error (wideOf locale "No such device".toList), state)

/-- `hid_write`. -/
def write (device : Device) (data : Bytes) (state : κ) : Int × Device × κ :=
  let (written, state) := kernel.write device.deviceHandle data state
  match written with
  | some written => (written, { device with lastError := none }, state)
  | none => (-1, { device with lastError := some (wideOf locale (errorText kernel state)) }, state)

/-- `read`, and the tests on its result. -/
def report (device : Device) (length : Nat) (state : κ) : (Int × Bytes) × Device × κ :=
  let (data, state) := kernel.read device.deviceHandle length state
  match data with
  | some data => ((data.length, data), { device with lastError := none }, state)
  | none =>
      if kernel.errno state = eagain ∨ kernel.errno state = einprogress then
        ((0, []), { device with lastError := none }, state)
      else ((-1, []),
        { device with lastError := some (wideOf locale (errorText kernel state)) }, state)

/-- `hid_read_timeout`. -/
def readTimeout (device : Device) (length : Nat) (milliseconds : Int) (state : κ) :
    (Int × Bytes) × Device × κ :=
  if 0 ≤ milliseconds then
    let (answer, state) := kernel.poll device.deviceHandle milliseconds state
    match answer with
    | .timeout => ((0, []), { device with lastError := none }, state)
    | .failed => ((-1, []),
        { device with lastError := some (wideOf locale (errorText kernel state)) }, state)
    | .ready true => ((-1, []), { device with lastError := none }, state)
    | .ready false => device.report kernel locale length state
  else device.report kernel locale length state

/-- `hid_read`. -/
def read (device : Device) (length : Nat) (state : κ) : (Int × Bytes) × Device × κ :=
  device.readTimeout kernel locale length (if device.blocking then -1 else 0) state

end Device

/-! ## The functions of the source -/

section Functions

variable {κ : Type} {kernel : Kernel κ} {locale : Locale} {lastGlobalErrorStr : Nat}
  {state : κ} {dev : Nat} {device : Device} {box cells : Cells}

theorem registerError_spec (keeps : Keeps dev device box) (msg : Option CString) :
    Spec state (box + cells) (onMemory (registerDeviceError locale dev msg))
      fun _ after left => after = state ∧
        ∃ fresh, Keeps dev { device with lastError := msg.map (wideOf locale) } fresh ∧
          left = fresh + cells := by
  obtain ⟨error, chars, rfl⟩ := keeps
  apply (Spec.onMemory (registerDeviceError_spec locale dev _ error msg)).weaken
  rintro - after left ⟨⟨fresh, freshChars, rfl⟩, same⟩
  exact ⟨same, _, ⟨fresh, freshChars, rfl⟩, rfl⟩

theorem loadDevice_spec (keeps : Keeps dev device box) :
    Spec state (box + cells) (onMemory (loadAs Block.asDevice dev)) fun record after left =>
      record.deviceHandle = device.deviceHandle ∧ record.blocking = device.blocking ∧
        after = state ∧ left = box + cells := by
  obtain ⟨error, chars, rfl⟩ := keeps
  rw [deviceCells, Multiset.cons_add]
  refine Spec.weaken (Spec.onMemory (loadAs_spec rfl)) ?_
  rintro record after left ⟨⟨rfl, rfl⟩, same⟩
  exact ⟨rfl, rfl, same, rfl⟩

theorem currentError_spec :
    Spec state cells (currentError kernel) fun text after left =>
      text = errorText kernel state ∧ after = state ∧ left = cells :=
  Spec.onKernel _

/-- The result and the device are those of the counterpart. -/
def Matches {α : Type} (dev : Nat) (cells : Cells) (step : α × Device × κ) (value : α)
    (after : κ) (left : Cells) : Prop :=
  value = step.1 ∧ after = step.2.2 ∧ ∃ box, Keeps dev step.2.1 box ∧ left = box + cells

theorem hidWrite_spec (keeps : Keeps dev device box) (data : Bytes) :
    Spec state (box + cells) (hidWrite kernel locale dev data)
      (Matches dev cells (device.write kernel locale data state)) := by
  unfold hidWrite Device.write
  refine Spec.bind (loadDevice_spec keeps) ?_
  rintro record _ _ ⟨handle, -, same, rfl⟩
  rw [handle, same]
  refine Spec.bind (Spec.onKernel _) ?_
  rintro _ _ _ ⟨rfl, rfl, rfl⟩
  rcases kernel.write device.deviceHandle data state with ⟨- | written, after⟩
  · refine Spec.bind currentError_spec ?_
    rintro _ _ _ ⟨rfl, same, rfl⟩
    rw [same]
    refine Spec.bind (registerError_spec keeps _) ?_
    rintro _ _ _ ⟨same, fresh, kept, rfl⟩
    exact Spec.pure ⟨rfl, same, fresh, kept, rfl⟩
  · refine Spec.bind (registerError_spec keeps _) ?_
    rintro _ _ _ ⟨same, fresh, kept, rfl⟩
    exact Spec.pure ⟨rfl, same, fresh, kept, rfl⟩

theorem readReport_spec (keeps : Keeps dev { device with lastError := none } box)
    (length : Nat) :
    Spec state (box + cells) (readReport kernel locale dev device.deviceHandle length)
      (Matches dev cells (device.report kernel locale length state)) := by
  unfold readReport Device.report
  refine Spec.bind (Spec.onKernel _) ?_
  rintro _ _ _ ⟨rfl, rfl, rfl⟩
  rcases kernel.read device.deviceHandle length state with ⟨- | data, after⟩
  · refine Spec.bind (Spec.onKernel _) ?_
    rintro _ _ _ ⟨rfl, rfl, rfl⟩
    dsimp only
    split
    next => exact Spec.pure ⟨rfl, rfl, box, keeps, rfl⟩
    next =>
      refine Spec.bind (registerError_spec keeps _) ?_
      rintro _ _ _ ⟨same, fresh, kept, rfl⟩
      exact Spec.pure ⟨rfl, same, fresh, kept, rfl⟩
  · exact Spec.pure ⟨rfl, rfl, box, keeps, rfl⟩

theorem hidReadTimeout_spec (keeps : Keeps dev device box) (length : Nat)
    (milliseconds : Int) :
    Spec state (box + cells) (hidReadTimeout kernel locale dev length milliseconds)
      (Matches dev cells (device.readTimeout kernel locale length milliseconds state)) := by
  unfold hidReadTimeout Device.readTimeout
  refine Spec.bind (registerError_spec keeps none) ?_
  rintro _ _ _ ⟨same, cleared, clear, rfl⟩
  rw [same]
  refine Spec.bind (loadDevice_spec clear) ?_
  rintro record _ _ ⟨handle, -, same, rfl⟩
  rw [handle, same]
  split
  next =>
    refine Spec.bind (Spec.onKernel _) ?_
    rintro _ _ _ ⟨rfl, rfl, rfl⟩
    rcases kernel.poll device.deviceHandle milliseconds state with ⟨- | - | - | -, after⟩
    · exact Spec.pure ⟨rfl, rfl, cleared, clear, rfl⟩
    · refine Spec.bind currentError_spec ?_
      rintro _ _ _ ⟨rfl, same, rfl⟩
      rw [same]
      refine Spec.bind (registerError_spec clear _) ?_
      rintro _ _ _ ⟨same, fresh, kept, rfl⟩
      exact Spec.pure ⟨rfl, same, fresh, kept, rfl⟩
    · exact readReport_spec clear length
    · exact Spec.pure ⟨rfl, rfl, cleared, clear, rfl⟩
  next => exact readReport_spec clear length

theorem hidRead_spec (keeps : Keeps dev device box) (length : Nat) :
    Spec state (box + cells) (hidRead kernel locale dev length)
      (Matches dev cells (device.read kernel locale length state)) := by
  refine Spec.bind (loadDevice_spec keeps) ?_
  rintro record _ _ ⟨-, blocking, same, rfl⟩
  rw [blocking, same]
  exact hidReadTimeout_spec keeps length _

theorem hidSetNonblocking_spec (keeps : Keeps dev device box) (nonblock : Bool) :
    Spec state (box + cells) (onMemory (hidSetNonblocking dev nonblock))
      (Matches dev cells ((), { device with blocking := !nonblock }, state)) := by
  obtain ⟨error, chars, rfl⟩ := keeps
  rw [deviceCells, Multiset.cons_add]
  apply (Spec.onMemory (modifyDevice_spec _ _)).weaken
  rintro - after left ⟨rfl, same⟩
  refine ⟨rfl, same, _, ⟨error, chars, rfl⟩, ?_⟩
  rw [deviceCells, Multiset.cons_add]

theorem hidErrorOfDevice_spec (keeps : Keeps dev device box) :
    Spec state (box + cells) (onMemory (hidError lastGlobalErrorStr (some dev)))
      fun text after left =>
        text = device.lastError ∧ after = state ∧ left = box + cells := by
  obtain ⟨error, chars, rfl⟩ := keeps
  have shape : deviceCells dev ⟨device.deviceHandle, device.blocking, device.numbered, none⟩
      error + cells = error.cells .wide + ((dev, .device ⟨device.deviceHandle, device.blocking,
        device.numbered, error.pointer⟩) ::ₘ cells) := by
    rw [deviceCells]
    simp only [← Multiset.singleton_add]
    abel
  have triple : Heap.Triple (deviceCells dev ⟨device.deviceHandle, device.blocking,
      device.numbered, none⟩ error + cells) (hidError lastGlobalErrorStr (some dev))
      fun text left => text = error.chars ∧ left = deviceCells dev
        ⟨device.deviceHandle, device.blocking, device.numbered, none⟩ error + cells := by
    refine Heap.Triple.permute _ (by rw [deviceCells, Multiset.cons_add])
      (Heap.Triple.bind (loadAs_spec rfl) ?_)
    rintro _ _ ⟨rfl, rfl⟩
    rw [← Multiset.cons_add, ← deviceCells, shape]
    exact loadString_spec (fun _ => rfl) error
  apply (Spec.onMemory triple).weaken
  rintro text after left ⟨⟨rfl, rfl⟩, same⟩
  exact ⟨chars, same, rfl⟩

/-! ### The global error -/

/-- These are the blocks of the last global error. -/
def KeepsGlobal (lastGlobalErrorStr : Nat) (lastError : Option WString) (box : Cells) : Prop :=
  ∃ error : Held, error.chars = lastError ∧ box = globalCells lastGlobalErrorStr error

variable {lastGlobalError : Option WString} {global : Cells}

theorem registerGlobal_spec (keeps : KeepsGlobal lastGlobalErrorStr lastGlobalError global)
    (msg : Option CString) :
    Spec state (global + cells) (onMemory (registerGlobalError locale lastGlobalErrorStr msg))
      fun _ after left => after = state ∧
        ∃ fresh, KeepsGlobal lastGlobalErrorStr (msg.map (wideOf locale)) fresh ∧
          left = fresh + cells := by
  obtain ⟨error, chars, rfl⟩ := keeps
  apply (Spec.onMemory (registerGlobalError_spec locale lastGlobalErrorStr error msg)).weaken
  rintro - after left ⟨⟨fresh, freshChars, rfl⟩, same⟩
  exact ⟨same, _, ⟨fresh, freshChars, rfl⟩, rfl⟩

theorem hidErrorGlobal_spec (keeps : KeepsGlobal lastGlobalErrorStr lastGlobalError global) :
    Spec state (global + cells) (onMemory (hidError lastGlobalErrorStr none))
      fun text after left =>
        text = lastGlobalError ∧ after = state ∧ left = global + cells := by
  obtain ⟨error, chars, rfl⟩ := keeps
  have shape : globalCells lastGlobalErrorStr error + cells = error.cells .wide +
      ((lastGlobalErrorStr, .pointer error.pointer) ::ₘ cells) := by
    rw [globalCells]
    simp only [← Multiset.singleton_add]
    abel
  have triple : Heap.Triple (globalCells lastGlobalErrorStr error + cells)
      (hidError lastGlobalErrorStr none) fun text left =>
        text = error.chars ∧ left = globalCells lastGlobalErrorStr error + cells := by
    refine Heap.Triple.permute _ (by rw [globalCells, Multiset.cons_add])
      (Heap.Triple.bind (loadAs_spec rfl) ?_)
    rintro _ _ ⟨rfl, rfl⟩
    rw [← Multiset.cons_add, ← globalCells, shape]
    exact loadString_spec (fun _ => rfl) error
  apply (Spec.onMemory triple).weaken
  rintro text after left ⟨⟨rfl, rfl⟩, same⟩
  exact ⟨chars, same, rfl⟩

/-! ### Opening and closing -/

theorem hidClose_spec (keeps : Keeps dev device box)
    (keepsGlobal : KeepsGlobal lastGlobalErrorStr lastGlobalError global) :
    Spec state (box + (global + cells)) (hidClose kernel locale lastGlobalErrorStr dev)
      fun _ after left => after = (kernel.close device.deviceHandle state).2 ∧
        ∃ fresh, KeepsGlobal lastGlobalErrorStr
          (if (kernel.close device.deviceHandle state).1 then none
            else some (wideOf locale (errorText kernel after))) fresh ∧
          left = fresh + cells := by
  unfold hidClose
  refine Spec.bind (loadDevice_spec keeps) ?_
  rintro record _ _ ⟨handle, -, same, rfl⟩
  rw [handle, same]
  refine Spec.bind (Spec.onKernel _) ?_
  rintro closed _ _ ⟨rfl, rfl, rfl⟩
  refine Spec.bind currentError_spec ?_
  rintro _ after _ ⟨rfl, same, rfl⟩
  rw [same]
  have text : (if (kernel.close device.deviceHandle state).1 then none
      else some (wideOf locale (errorText kernel (kernel.close device.deviceHandle state).2))) =
      (if (kernel.close device.deviceHandle state).1 then none
        else some (errorText kernel (kernel.close device.deviceHandle state).2)).map
          (wideOf locale) := by
    split <;> rfl
  refine Spec.permute (global + (box + cells)) (by abel)
    (Spec.bind (registerGlobal_spec keepsGlobal _) ?_)
  rintro _ _ _ ⟨same, fresh, kept, rfl⟩
  rw [same]
  refine Spec.permute (box + (fresh + cells)) (by abel)
    (Spec.bind (registerError_spec keeps none) ?_)
  rintro _ _ _ ⟨same, _, ⟨error, chars, rfl⟩, rfl⟩
  rw [same]
  have empty : error = none := by
    cases error with
    | none => rfl
    | some held => cases chars
  rw [empty, deviceCells, Multiset.cons_add]
  apply (Spec.onMemory Heap.Triple.free).weaken
  rintro - after left ⟨rfl, same⟩
  refine ⟨same, fresh, ?_, by simp [Held.cells]⟩
  rw [same, text]
  exact kept

/-- A failed call leaves no device; one that succeeds leaves its blocks. -/
def Opened (lastGlobalErrorStr : Nat) (cells : Cells) (answer : Except WString Device × κ)
    (dev : Option Nat) (after : κ) (left : Cells) : Prop :=
  after = answer.2 ∧ ∃ global rest, left = global + (rest + cells) ∧
    match answer.1 with
    | .ok device => ∃ address, dev = some address ∧ Keeps address device rest ∧
        KeepsGlobal lastGlobalErrorStr none global
    | .error message => dev = none ∧ rest = 0 ∧
        KeepsGlobal lastGlobalErrorStr (some message) global

theorem readDescriptorSize_spec (device : Device)
    (keeps : Keeps dev { device with lastError := none } box) :
    Spec state (box + cells) (readDescriptorSize kernel locale dev device.deviceHandle)
      fun size after left =>
        size = (kernel.descriptorSize device.deviceHandle state).1.getD 0 ∧
        after = (kernel.descriptorSize device.deviceHandle state).2 ∧
        ∃ fresh, left = fresh + cells ∧ Keeps dev
          { device with
            lastError :=
              if (kernel.descriptorSize device.deviceHandle state).1.isSome then none
              else some (wideOf locale (ioctlText "GRDESCSIZE" (errorText kernel after))) }
          fresh := by
  unfold readDescriptorSize
  refine Spec.bind (Spec.onKernel _) ?_
  rintro _ _ _ ⟨rfl, rfl, rfl⟩
  rcases kernel.descriptorSize device.deviceHandle state with ⟨- | size, after⟩
  · refine Spec.bind currentError_spec ?_
    rintro _ _ _ ⟨rfl, same, rfl⟩
    rw [same]
    refine Spec.bind (registerError_spec keeps _) ?_
    rintro _ _ _ ⟨same, fresh, kept, rfl⟩
    refine Spec.pure ⟨rfl, same, fresh, rfl, ?_⟩
    rw [same]
    exact kept
  · exact Spec.pure ⟨rfl, rfl, box, rfl, keeps⟩

theorem readDescriptor_spec (keeps : Keeps dev device box) (size : Nat) :
    Spec state (box + cells) (readDescriptor kernel locale dev device.deviceHandle size)
      fun _ after left => after = (kernel.descriptor device.deviceHandle size state).2 ∧
        ∃ fresh, left = fresh + cells ∧
          match (kernel.descriptor device.deviceHandle size state).1 with
          | some value => Keeps dev { device with numbered := usesNumberedReports value } fresh
          | none => Keeps dev
              { device with
                lastError := some (wideOf locale (ioctlText "GRDESC" (errorText kernel after))) }
              fresh := by
  unfold readDescriptor
  refine Spec.bind (Spec.onKernel _) ?_
  rintro _ _ _ ⟨rfl, rfl, rfl⟩
  rcases kernel.descriptor device.deviceHandle size state with ⟨- | value, after⟩
  · refine Spec.bind currentError_spec ?_
    rintro _ _ _ ⟨rfl, same, rfl⟩
    rw [same]
    apply (registerError_spec keeps _).weaken
    rintro _ _ _ ⟨same, fresh, kept, rfl⟩
    refine ⟨same, fresh, rfl, ?_⟩
    rw [same]
    exact kept
  · obtain ⟨error, chars, rfl⟩ := keeps
    rw [deviceCells, Multiset.cons_add]
    apply (Spec.onMemory (modifyDevice_spec _ _)).weaken
    rintro - after left ⟨rfl, same⟩
    refine ⟨same, _, ?_, ⟨error, chars, rfl⟩⟩
    rw [deviceCells, Multiset.cons_add]

theorem setUp_spec {deviceHandle : Int} (keeps : Keeps dev ⟨deviceHandle, true, false, none⟩ box) :
    Spec state (box + cells)
      (do
        let size ← readDescriptorSize kernel locale dev deviceHandle
        readDescriptor kernel locale dev deviceHandle size)
      fun _ after left => after = (Device.setUp kernel locale deviceHandle state).2 ∧
        ∃ fresh, left = fresh + cells ∧
          Keeps dev (Device.setUp kernel locale deviceHandle state).1 fresh := by
  unfold Device.setUp
  rcases sized : kernel.descriptorSize deviceHandle state with ⟨size, between⟩
  rcases described : kernel.descriptor deviceHandle (size.getD 0) between with ⟨value, after⟩
  simp only [described]
  refine Spec.bind (readDescriptorSize_spec ⟨deviceHandle, true, false, none⟩ keeps) ?_
  dsimp only
  rw [sized]
  rintro _ _ _ ⟨rfl, rfl, middle, rfl, kept⟩
  apply (readDescriptor_spec kept _).weaken
  dsimp only
  rw [described]
  rintro _ _ _ ⟨rfl, fresh, rfl, final⟩
  cases value with
  | none => exact ⟨rfl, fresh, rfl, final⟩
  | some value => exact ⟨rfl, fresh, rfl, final⟩

theorem hidOpenPath_spec (keeps : KeepsGlobal lastGlobalErrorStr lastGlobalError global)
    (path : Held) :
    Spec state (global + (path.cells .text + cells))
      (hidOpenPath kernel locale lastGlobalErrorStr path.pointer)
      (Opened lastGlobalErrorStr (path.cells .text + cells)
        (Device.openPath kernel locale path.chars state)) := by
  unfold hidOpenPath Device.openPath
  refine Spec.bind (registerGlobal_spec keeps none) ?_
  rintro _ _ _ ⟨same, cleared, clear, rfl⟩
  rw [same]
  refine Spec.bind (Spec.onMemory (Heap.Triple.alloc _)) ?_
  rintro dev _ _ ⟨rfl, same⟩
  rw [same]
  refine Spec.permute (path.cells .text + ((dev, .device newHidDevice) ::ₘ
    (cleared + cells))) (by simp only [← Multiset.singleton_add]; abel) ?_
  refine Spec.bind (Spec.onMemory (loadString_spec (fun _ => rfl) path)) ?_
  rintro _ _ _ ⟨⟨rfl, rfl⟩, same⟩
  rw [same]
  refine Spec.bind (Spec.onKernel _) ?_
  rintro _ _ _ ⟨rfl, rfl, rfl⟩
  rcases kernel.openFile path.chars state with ⟨deviceHandle, after⟩
  rw [Multiset.add_cons]
  refine Spec.bind (Spec.onMemory (modifyDevice_spec newHidDevice _)) ?_
  rintro _ _ _ ⟨rfl, same⟩
  rw [same]
  have fresh : Keeps dev ⟨deviceHandle, true, false, none⟩
      {(dev, .device ⟨deviceHandle, true, false, none⟩)} := ⟨none, rfl, rfl⟩
  dsimp only
  split
  next =>
    rw [← Multiset.singleton_add]
    refine Spec.bind (registerError_spec fresh none) ?_
    rintro _ _ _ ⟨same, box, kept, rfl⟩
    rw [same]
    rw [← bind_assoc]
    refine Spec.bind (setUp_spec kept) ?_
    rintro _ _ _ ⟨same, box, rfl, kept⟩
    refine Spec.pure ⟨same, cleared, box, ?_, dev, rfl, kept, clear⟩
    abel
  next =>
    refine Spec.bind currentError_spec ?_
    rintro _ _ _ ⟨rfl, same, rfl⟩
    rw [same]
    refine Spec.permute (cleared + ((dev, .device ⟨deviceHandle, true, false, none⟩) ::ₘ
      (path.cells .text + cells))) ?_ ?_
    · simp only [newHidDevice, ← Multiset.singleton_add]
      abel
    refine Spec.bind (registerGlobal_spec clear _) ?_
    rintro _ _ _ ⟨same, global, kept, rfl⟩
    rw [same, Multiset.add_cons]
    refine Spec.bind (Spec.onMemory Heap.Triple.free) ?_
    rintro _ _ _ ⟨rfl, same⟩
    exact Spec.pure ⟨same, global, 0, by rw [Multiset.zero_add], rfl, rfl, kept⟩

/-- The path of a record is a part of the list. -/
theorem exists_path_cells {list : List Stored} {stored : Stored} (there : stored ∈ list) :
    ∃ rest, listCells list none = stored.path.cells .text + rest := by
  obtain ⟨front, back, rfl⟩ := List.append_of_mem there
  induction front with
  | nil =>
      refine ⟨(stored.address, .info (stored.record (first back))) ::ₘ
        (stored.serialNumber.cells .wide + (stored.manufacturerString.cells .wide +
          stored.productString.cells .wide) + listCells back none), ?_⟩
      rw [List.nil_append, listCells_cons, Stored.cells, Stored.strings]
      simp only [← Multiset.singleton_add]
      abel
  | cons other front inductionHypothesis =>
      obtain ⟨rest, same⟩ := inductionHypothesis (by simp)
      refine ⟨other.cells (first (front ++ stored :: back)) + rest, ?_⟩
      rw [List.cons_append, listCells_cons, same]
      abel

/-- Every record has a serial number. -/
theorem serialNumber_of_describe {vendorId productId : UInt16} {device : UdevDevice}
    {info : Info} (described : device.describe locale vendorId productId = some info) :
    info.serialNumber ≠ none := by
  unfold UdevDevice.describe at described
  split at described
  next uevent _ =>
    dsimp only at described
    generalize Uevent.parse ⟨0, 0, 0⟩ uevent = found at described
    split at described
    next complete =>
      have serial : found.serialNumber.isSome = true := by
        simp only [Uevent.result, Bool.and_eq_true] at complete
        exact complete.1.2
      have same : info.serialNumber = found.serialNumber.map (wideOf locale) := by
        unfold UdevDevice.report at described
        split at described
        next =>
          obtain ⟨usb, -, rfl⟩ := Option.map_eq_some_iff.mp described
          rfl
        next =>
          cases described
          rfl
      obtain ⟨number, present⟩ := Option.isSome_iff_exists.mp serial
      simp [same, present]
    next => cases described
  next => cases described

/-- The devices that udev lists. -/
def listed (kernel : Kernel κ) (state : κ) : List (UdevDevice × HidId) :=
  (kernel.devices state).1.getD []

theorem openFound_spec (keeps : KeepsGlobal lastGlobalErrorStr lastGlobalError global)
    (list : List Stored) (fits : Stored → Bool) :
    Spec state (global + (listCells list none + cells))
      (hidOpen.openFound kernel locale lastGlobalErrorStr
        ((list.find? fits).bind (·.path.pointer)))
      (Opened lastGlobalErrorStr (listCells list none + cells)
        (match (list.find? fits).bind (·.path.chars) with
          | some path => Device.openPath kernel locale (some path) state
          | none => (.error (wideOf locale "No such device".toList), state))) := by
  have absent : Spec state (global + (listCells list none + cells))
      (hidOpen.openFound kernel locale lastGlobalErrorStr none)
      (Opened lastGlobalErrorStr (listCells list none + cells)
        (.error (wideOf locale "No such device".toList), state)) := by
    refine Spec.bind (registerGlobal_spec keeps _) ?_
    rintro _ _ _ ⟨same, fresh, kept, rfl⟩
    exact Spec.pure ⟨same, fresh, 0, by rw [Multiset.zero_add], rfl, rfl, kept⟩
  cases found : list.find? fits with
  | none => exact absent
  | some stored =>
      rw [Option.bind_some, Option.bind_some]
      rcases path : stored.path with - | ⟨address, chars⟩
      · exact absent
      · obtain ⟨rest, split⟩ := exists_path_cells (List.mem_of_find?_eq_some found)
        rw [split, Multiset.add_assoc, path]
        exact hidOpenPath_spec keeps (some (address, chars))

/-- `hid_enumerate`, whether udev can be used or not. -/
theorem enumerate_spec (keeps : KeepsGlobal lastGlobalErrorStr lastGlobalError global)
    {udev : Option (List (UdevDevice × HidId))}
    (attributed : ∀ visited ∈ udev.getD [], visited.1.Attributed)
    (vendorId productId : UInt16) :
    Spec state (global + cells)
      (onMemory (hidEnumerate locale lastGlobalErrorStr vendorId productId udev))
      fun devs after left => after = state ∧
        ∃ (list : List Stored) (lost fresh : Cells) (lastError : Option WString),
          devs = first list ∧ KeepsGlobal lastGlobalErrorStr lastError fresh ∧
          list.map Stored.info = (udev.getD []).filterMap
            (fun visited => visited.1.describe locale vendorId productId) ∧
          lost.card = ((udev.getD []).map fun visited => visited.1.lost).sum ∧
          left = fresh + (listCells list none + (lost + cells)) := by
  cases udev with
  | none =>
      obtain ⟨error, chars, rfl⟩ := keeps
      have triple : Heap.Triple (globalCells lastGlobalErrorStr error + cells)
          (hidEnumerate locale lastGlobalErrorStr vendorId productId none)
          fun devs left => devs = none ∧
            ∃ fresh, left = globalCells lastGlobalErrorStr fresh + cells := by
        refine Heap.Triple.bind (registerGlobalError_spec locale _ error _) ?_
        rintro _ _ ⟨fresh, -, rfl⟩
        exact Heap.Triple.pure ⟨rfl, fresh, rfl⟩
      apply (Spec.onMemory triple).weaken
      rintro _ after _ ⟨⟨rfl, fresh, rfl⟩, same⟩
      exact ⟨same, [], 0, _, fresh.chars, rfl, ⟨fresh, rfl, rfl⟩, rfl, rfl, by simp⟩
  | some visits =>
      have framed := (hidEnumerate_spec locale lastGlobalErrorStr vendorId productId visits
        attributed).frame (global + cells)
      rw [Multiset.zero_add] at framed
      apply (Spec.onMemory framed).weaken
      rintro _ after _ ⟨⟨_, ⟨list, lost, rfl, infos, rfl, card⟩, rfl⟩, same⟩
      exact ⟨same, list, lost, global, lastGlobalError, rfl, keeps, infos, card, by abel⟩

/-- The search in the list finds the path that the devices give. -/
theorem find_path_eq {list : List Stored} {udev : Option (List (UdevDevice × HidId))}
    {vendorId productId : UInt16}
    (infos : list.map Stored.info = (udev.getD []).filterMap
      (fun visited => visited.1.describe locale vendorId productId))
    (serialNumber : Option WString) :
    (list.find? fun stored => stored.info.fits vendorId productId serialNumber).bind
        (·.path.chars) =
      udev.bind (Device.findPath locale vendorId productId serialNumber) := by
  have inList : (list.find? fun stored =>
      stored.info.fits vendorId productId serialNumber).bind (·.path.chars) =
      ((list.map Stored.info).find? (Info.fits vendorId productId serialNumber)).bind
        Info.path := by
    rw [List.find?_map, Option.bind_map]
    rfl
  rw [inList, infos]
  cases udev <;> rfl

theorem hidOpen_spec (keeps : KeepsGlobal lastGlobalErrorStr lastGlobalError global)
    (attributed : ∀ visited ∈ listed kernel state, visited.1.Attributed)
    (vendorId productId : UInt16) (serialNumber : Option WString) :
    Spec state (global + cells)
      (hidOpen kernel locale lastGlobalErrorStr vendorId productId serialNumber)
      fun dev after left => ∃ lost : Cells,
        Opened lastGlobalErrorStr (lost + cells)
          (Device.openMatching kernel locale vendorId productId serialNumber state)
          dev after left ∧
        lost.card = ((listed kernel state).map fun visited => visited.1.lost).sum := by
  unfold hidOpen Device.openMatching
  refine Spec.bind (registerGlobal_spec keeps none) ?_
  rintro _ _ _ ⟨same, cleared, clear, rfl⟩
  rw [same]
  refine Spec.bind (Spec.onKernel _) ?_
  rintro _ _ _ ⟨rfl, rfl, rfl⟩
  unfold listed at attributed ⊢
  generalize kernel.devices state = answer at attributed ⊢
  obtain ⟨udev, state⟩ := answer
  refine Spec.bind (enumerate_spec clear attributed vendorId productId) ?_
  rintro _ _ _ ⟨same, list, lost, global, lastError, rfl, kept, infos, card, rfl⟩
  rw [same]
  have numbered : ∀ stored ∈ list, stored.serialNumber.chars ≠ none := by
    intro stored there
    have described : stored.info ∈ list.map Stored.info := List.mem_map_of_mem there
    rw [infos] at described
    obtain ⟨visited, -, describes⟩ := List.mem_filterMap.mp described
    exact serialNumber_of_describe describes
  have search : Heap.Triple (listCells list none + (global + (lost + cells)))
      (Heap.bounded fun rounds =>
        findPath vendorId productId serialNumber rounds (first list))
      fun path left =>
        path = (list.find? fun stored =>
          stored.info.fits vendorId productId serialNumber).bind (·.path.pointer) ∧
        left = listCells list none + (global + (lost + cells)) := by
    apply Heap.Triple.bounded
    intro rounds enough
    exact findPath_spec vendorId productId serialNumber list numbered
      (Nat.le_trans (length_le_card list) enough)
  refine Spec.permute (listCells list none + (global + (lost + cells))) (by abel)
    (Spec.bind (Spec.onMemory search) ?_)
  rintro _ _ _ ⟨⟨rfl, rfl⟩, same⟩
  rw [same]
  refine Spec.permute (global + (listCells list none + (lost + cells))) (by abel)
    (Spec.bind (openFound_spec kept list _) ?_)
  rintro handle _ _ ⟨same, global, rest, rfl, outcome⟩
  refine Spec.permute (listCells list none + (global + (rest + (lost + cells))))
    (by abel) (Spec.bind (Spec.onMemory (hidFreeEnumeration_spec list)) ?_)
  rintro _ _ _ ⟨rfl, sameAgain⟩
  rw [find_path_eq infos] at same outcome
  exact Spec.pure ⟨lost, ⟨sameAgain.trans same, global, rest, rfl, outcome⟩, card⟩

end Functions

end MhWallet.Hid
