import MhWallet.Hid.Device

/-!
Contract: runs of calls of `linux/hid.c` on any number of devices, over memory, refine
runs on a table of devices without memory.

A caller names a device by the order in which the devices were opened, and keeps the
pointer that the call returned.

Owns: the calls, both levels, and the refinement of every run.

Does not own: calls on a device that is not open, whose behaviour is undefined.
-/

namespace MhWallet.Hid

open MhWallet.Effect MhWallet.Text Process

inductive Call where
  | openPath (path : Option CString)
  | openDevice (vendorId productId : UInt16) (serialNumber : Option WString)
  | write (handle : Nat) (data : Bytes)
  | readTimeout (handle length : Nat) (milliseconds : Int)
  | read (handle length : Nat)
  | setNonblocking (handle : Nat) (nonblock : Bool)
  | error (handle : Option Nat)
  | close (handle : Nat)
  | exit
deriving DecidableEq, Repr

inductive Answer where
  | opened (handle : Option Nat)
  | result (value : Int) (data : Bytes)
  | text (message : Option WString)
  | nothing
deriving DecidableEq, Repr

/-! ## Without memory -/

/-- The devices in the order in which they were opened, where they are still open, the
last global error, and how many blocks have been lost. -/
structure Desk (κ : Type) where
  kernel : κ
  devices : List (Option Device)
  lastGlobalError : Option WString
  lost : Nat

namespace Desk

variable {κ : Type} (kernel : Kernel κ) (locale : Locale)

/-- The table after an attempt to open a device. -/
def issue (desk : Desk κ) (answer : Except WString Device × κ) (lost : Nat) : Answer × Desk κ :=
  match answer.1 with
  | .ok device => (.opened (some desk.devices.length),
      ⟨answer.2, desk.devices ++ [some device], none, desk.lost + lost⟩)
  | .error message => (.opened none,
      ⟨answer.2, desk.devices, some message, desk.lost + lost⟩)

def device (desk : Desk κ) (handle : Nat) : Option Device := desk.devices[handle]?.join

/-- The table after a call on an open device. -/
def place (desk : Desk κ) (handle : Nat) (step : Answer × Device × κ) : Answer × Desk κ :=
  (step.1, { desk with
    kernel := step.2.2
    devices := desk.devices.set handle (some step.2.1) })

def result (step : (Int × Bytes) × Device × κ) : Answer × Device × κ :=
  (.result step.1.1 step.1.2, step.2)

/-- The table after `hid_close`. -/
def close (desk : Desk κ) (handle : Nat) (device : Device) : Desk κ :=
  let (closed, state) := kernel.close device.deviceHandle desk.kernel
  { desk with
    kernel := state
    devices := desk.devices.set handle none
    lastGlobalError := if closed then none else some (wideOf locale (errorText kernel state)) }

/-- A call; none where it names a device that is not open. -/
def call (desk : Desk κ) : Call → Option (Answer × Desk κ)
  | .openPath path => some (desk.issue (Device.openPath kernel locale path desk.kernel) 0)
  | .openDevice vendorId productId serialNumber =>
      some (desk.issue
        (Device.openMatching kernel locale vendorId productId serialNumber desk.kernel)
        ((listed kernel desk.kernel).map fun visited => visited.1.lost).sum)
  | .write handle data => do
      let device ← desk.device handle
      let (value, step) := device.write kernel locale data desk.kernel
      return desk.place handle (.result value [], step)
  | .readTimeout handle length milliseconds => do
      let device ← desk.device handle
      return desk.place handle
        (result (device.readTimeout kernel locale length milliseconds desk.kernel))
  | .read handle length => do
      let device ← desk.device handle
      return desk.place handle (result (device.read kernel locale length desk.kernel))
  | .setNonblocking handle nonblock => do
      let device ← desk.device handle
      return desk.place handle (.nothing, { device with blocking := !nonblock }, desk.kernel)
  | .error none => some (.text desk.lastGlobalError, desk)
  | .error (some handle) => do
      let device ← desk.device handle
      return (.text device.lastError, desk)
  | .close handle => do
      let device ← desk.device handle
      return (.nothing, desk.close kernel locale handle device)
  | .exit => some (.nothing, { desk with lastGlobalError := none })

def run (desk : Desk κ) : List Call → Option (List Answer × Desk κ)
  | [] => some ([], desk)
  | next :: calls => do
      let (answer, desk) ← desk.call kernel locale next
      let (answers, desk) ← desk.run calls
      return (answer :: answers, desk)

end Desk

/-! ## Over memory -/

/-- The process, and the pointers that its callers keep. -/
structure Session (κ : Type) where
  process : Process κ
  handles : List Nat

namespace Session

variable {κ α : Type}

def processLens : Lens (Session κ) (Process κ) where
  get := Session.process
  put process session := { session with process }
  get_put _ _ := rfl
  put_get _ := rfl
  put_put _ _ _ := rfl

def onProcess (inner : Action Stop (Process κ) α) : Action Stop (Session κ) α :=
  inner.focus processLens

/-- A call with the pointer of a device. -/
def onHandle (handle : Nat) (inner : Nat → Action Stop (Process κ) α) :
    Action Stop (Session κ) α := do
  let dev ← .ofOption .undefined (← Action.read).handles[handle]?
  onProcess (inner dev)

/-- Keep the pointer that a call has returned, unless it is null. -/
def issue (dev : Option Nat) : Action Stop (Session κ) Answer :=
  ⟨fun session =>
    match dev with
    | some dev => (.ok (.opened (some session.handles.length)),
        { session with handles := session.handles ++ [dev] })
    | none => (.ok (.opened none), session)⟩

variable (kernel : Kernel κ) (locale : Locale) (lastGlobalErrorStr : Nat)

/-- `hid_open_path`, with a path that belongs to the caller. -/
def openPath (path : Option CString) : Action Stop (Process κ) (Option Nat) := do
  let name ← onMemory (strdup path)
  let dev ← hidOpenPath kernel locale lastGlobalErrorStr name
  onMemory (Heap.free .undefined name)
  return dev

def call : Call → Action Stop (Session κ) Answer
  | .openPath path => do
      issue (← onProcess (openPath kernel locale lastGlobalErrorStr path))
  | .openDevice vendorId productId serialNumber => do
      issue (← onProcess
        (hidOpen kernel locale lastGlobalErrorStr vendorId productId serialNumber))
  | .write handle data => onHandle handle fun dev => do
      return .result (← hidWrite kernel locale dev data) []
  | .readTimeout handle length milliseconds => onHandle handle fun dev => do
      let (value, data) ← hidReadTimeout kernel locale dev length milliseconds
      return .result value data
  | .read handle length => onHandle handle fun dev => do
      let (value, data) ← hidRead kernel locale dev length
      return .result value data
  | .setNonblocking handle nonblock => onHandle handle fun dev => do
      onMemory (hidSetNonblocking dev nonblock)
      return .nothing
  | .error none => onProcess do
      return .text (← onMemory (hidError lastGlobalErrorStr none))
  | .error (some handle) => onHandle handle fun dev => do
      return .text (← onMemory (hidError lastGlobalErrorStr (some dev)))
  | .close handle => onHandle handle fun dev => do
      hidClose kernel locale lastGlobalErrorStr dev
      return .nothing
  | .exit => onProcess do
      onMemory (hidExit locale lastGlobalErrorStr)
      return .nothing

def run : List Call → Action Stop (Session κ) (List Answer)
  | [] => pure []
  | next :: calls => do
      let answer ← call kernel locale lastGlobalErrorStr next
      return answer :: (← run calls)

end Session

/-! ## The blocks of a table -/

/-- The blocks of the devices that are still open, at the addresses of all that were
opened. -/
inductive Shelf : List (Nat × Option Device) → Cells → Prop where
  | nil : Shelf [] 0
  | opened {dev : Nat} {device : Device} {box cells : Cells} {slots : List (Nat × Option Device)} :
      Keeps dev device box → Shelf slots cells → Shelf ((dev, some device) :: slots) (box + cells)
  | closed {dev : Nat} {cells : Cells} {slots : List (Nat × Option Device)} :
      Shelf slots cells → Shelf ((dev, none) :: slots) cells

namespace Shelf

variable {slots : List (Nat × Option Device)} {cells box : Cells} {dev : Nat} {device : Device}

theorem append (shelf : Shelf slots cells) (keeps : Keeps dev device box) :
    Shelf (slots ++ [(dev, some device)]) (box + cells) := by
  induction shelf with
  | nil => exact .opened keeps .nil
  | opened kept _ inductionHypothesis =>
      rw [← Multiset.add_assoc, Multiset.add_comm box, Multiset.add_assoc]
      exact .opened kept inductionHypothesis
  | closed _ inductionHypothesis => exact .closed inductionHypothesis

/-- The blocks of one open device, which may be replaced or freed. -/
theorem take {handle : Nat} (shelf : Shelf slots cells)
    (there : slots[handle]? = some (dev, some device)) :
    ∃ box rest, Keeps dev device box ∧ cells = box + rest ∧
      (∀ device' box', Keeps dev device' box' →
        Shelf (slots.set handle (dev, some device')) (box' + rest)) ∧
      Shelf (slots.set handle (dev, none)) rest := by
  induction shelf generalizing handle with
  | nil => cases there
  | opened kept shelf inductionHypothesis =>
      cases handle with
      | zero =>
          cases there
          exact ⟨_, _, kept, rfl, fun _ _ keeps => .opened keeps shelf, .closed shelf⟩
      | succ handle =>
          obtain ⟨box, rest, keeps, rfl, replaced, freed⟩ := inductionHypothesis there
          refine ⟨box, _ + rest, keeps, ?_, ?_, .opened kept freed⟩
          · abel
          · intro device' box' keeps'
            have shelf' := Shelf.opened kept (replaced device' box' keeps')
            rwa [← Multiset.add_assoc, Multiset.add_comm _ box', Multiset.add_assoc] at shelf'
  | closed shelf inductionHypothesis =>
      cases handle with
      | zero => cases there
      | succ handle =>
          obtain ⟨box, rest, keeps, same, replaced, freed⟩ := inductionHypothesis there
          exact ⟨box, rest, keeps, same, fun device' box' keeps' =>
            .closed (replaced device' box' keeps'), .closed freed⟩

end Shelf

end MhWallet.Hid
