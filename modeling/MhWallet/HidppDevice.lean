import MhWallet.Hidapi

/-!
Contract: `hidpp_device` and `hidpp::enumerate_devices`, as built for Linux.

A device object owns a mutex of its own, which no copy or assignment moves.
Copies duplicate the raw handle, assignment overwrites it, and the destructor
closes it, exactly as the source does.
-/

namespace MhWallet

open MhWallet.Effect MhWallet.Method

structure HidppDevice where
  object : Nat
  mDev : Option Handle
  mVendorId : UInt16
  mProductId : UInt16
  mPath : Option String
deriving DecidableEq, Repr

/-- A C `int` stored in a `size_t`. -/
def toSizeT (value : Int32) : Nat := (value.toInt % 2 ^ 64).toNat

namespace HidppDevice

variable {O σ : Type} (tb : Toolbox) (hid : Hidapi σ)

def mDevLock (dev : HidppDevice) : Mutex := .device dev.object

/-- A new object, with a mutex that no other object has. -/
def newObject : Method O σ Nat :=
  onWorld fun world => (world.objects, { world with objects := world.objects + 1 })

/-- `hidpp_device(vendorId, productId)`. -/
def construct (vendorId productId : UInt16) : Method O σ HidppDevice := do
  let object ← newObject
  return { object, mDev := none, mVendorId := vendorId, mProductId := productId,
           mPath := none }

/-- `hidpp_device(path)`. -/
def constructPath (path : String) : Method O σ HidppDevice := do
  let object ← newObject
  return { object, mDev := none, mVendorId := 0, mProductId := 0, mPath := some path }

/-- `hidpp_device(other)`. -/
def copyConstruct (other : HidppDevice) : Method O σ HidppDevice := do
  let object ← newObject
  return { other with object }

/-- `operator=`: everything but the mutex. -/
def assign (dev other : HidppDevice) : HidppDevice :=
  { other with object := dev.object }

def valid (dev : HidppDevice) : Bool := dev.mDev.isSome

def «open» : Method HidppDevice σ Bool := do
  let dev ← self
  withLock dev.mDevLock do
    let opened ←
      if dev.mVendorId = 0 ∨ dev.mProductId = 0 then hid.hidOpenPath dev.mPath
      else hid.hidOpen dev.mVendorId dev.mProductId
    updateSelf fun dev => { dev with mDev := opened }
    match opened with
    | some handle => do
        Hidapi.hidSetNonblocking handle
        return true
    | none => return false

def close : Method HidppDevice σ Unit := do
  let dev ← self
  withLock dev.mDevLock do
    match (← self).mDev with
    | some handle => do
        hid.hidClose handle
        updateSelf fun dev => { dev with mDev := none }
    | none => return ()

/-- `~hidpp_device`. -/
def destroy : Method HidppDevice σ Unit := close hid

def getDevError : Method HidppDevice σ String := do
  let dev ← self
  withLock dev.mDevLock do
    let text ←
      match dev.mDev with
      | some handle =>
          onWorld fun world =>
            let message := hid.error handle world.env
            (message.elim "" fun message => "HID error: " ++ message ++ ";",
              world.record (.hidError handle message))
      | none => pure ""
    let (errno, strerror) ← onWorld fun world => (hid.errno world.env, world)
    if errno = 0 then return text
    else return text ++ "[" ++ toString errno ++ "] " ++ strerror

def getError : Method HidppDevice σ String := getDevError hid

/-- `write(const uint8_t*, size_t)`; `write(const bytes_data&)` passes its
bytes on to it. -/
def write (data : Bytes) : Method HidppDevice σ Nat := do
  let dev ← self
  withLock dev.mDevLock do
    return toSizeT (← hid.hidWrite dev.mDev data)

/-- The `hid_error` test that follows `hid_read` in `read` and `read_back`. -/
def hidErrorAfter (dev : HidppDevice) (result : ReadResult) :
    Method HidppDevice σ (Option String) :=
  match dev.mDev with
  | some handle =>
      onWorld fun world =>
        (result.error, world.record (.hidError handle result.error))
  | none => return result.error

/-- `read(bytes_data&, size_t)`: its result and the buffer after. -/
def read (out : Bytes) (readLen : Nat) : Method HidppDevice σ (Nat × Bytes) := do
  let dev ← self
  withLock dev.mDevLock do
    let result ← hid.hidRead dev.mDev readLen
    match ← hidErrorAfter dev result with
    | some _ => do
        -- `get_dev_error` takes the mutex that this call holds.
        let _ ← getDevError hid
        return (0, out)
    | none => return (toSizeT result.res, (tb.write out 0 (result.buffer readLen)).2)

/-- `read_back`: its result and the buffer after. -/
def readBack (out : Bytes) (seq readLen : Nat) :
    Method HidppDevice σ (Nat × Bytes) := do
  let dev ← self
  let result ← withLock dev.mDevLock do
    let result ← hid.hidRead dev.mDev readLen
    match ← hidErrorAfter dev result with
    | some _ => do
        let _ ← getDevError hid
        return none
    | none => return some result
  match result with
  | none => return (0, out)
  | some result =>
      let position := seq * readLen
      let out := if out.length ≤ position then tb.resize out (out.length + position)
        else out
      return (readLen, (tb.write out position (result.buffer readLen)).2)

/-- `read(uint8_t*, size_t)`, where `hasOut` says that the pointer is not null:
its result and the bytes stored. -/
def readRaw (hasOut : Bool) (readLen : Nat) : Method HidppDevice σ (Nat × Bytes) := do
  if hasOut then
    let dev ← self
    withLock dev.mDevLock do
      let result ← hid.hidRead dev.mDev readLen
      return (toSizeT result.res, result.data.take readLen)
  else throw .nullOutput

end HidppDevice

/-! ## What each member function does

One equation for each member function that takes the mutex, from a state in
which the mutex is free. -/

namespace World

variable {σ : Type}

/-- The world after a read that came back. -/
def afterRead (world : World σ) (mutex : Mutex) (handle : Handle) (env : σ)
    (result : ReadResult) : World σ :=
  match result.error with
  | none =>
      world.extend env [.lock mutex, .hidRead (some handle) (some result),
        .hidError handle none, .unlock mutex]
  | some message =>
      { world.extend env [.lock mutex, .hidRead (some handle) (some result),
          .hidError handle (some message), .lock mutex] with
        held := mutex :: world.held }

/-- The world after a read that never comes back. -/
def afterWait (world : World σ) (mutex : Mutex) (handle : Handle) (env : σ) :
    World σ :=
  { world.extend env [.lock mutex, .hidRead (some handle) none] with
    held := mutex :: world.held }

/-- The handle that an open with this outcome returns. -/
def newHandle (world : World σ) (opened : Bool) : Option Handle :=
  if opened then some world.issued else none

end World

namespace HidppDevice

variable {O σ : Type} (tb : Toolbox) (hid : Hidapi σ) {dev : HidppDevice}
  {world : World σ}

theorem getDevError_run_of_held (held : dev.mDevLock ∈ world.held) :
    (getDevError hid).run ⟨dev, world⟩ =
      (.error (.deadlocks dev.mDevLock), ⟨dev, world.record (.lock dev.mDevLock)⟩) := by
  rw [getDevError, Action.run_bind, run_self]
  exact run_withLock_of_held held dev _

/-- The report of an error, when the mutex is free. -/
theorem getDevError_run (free : dev.mDevLock ∉ world.held) :
    ∃ text, (getDevError hid).run ⟨dev, world⟩ = (.ok text, ⟨dev, world.extend world.env
      ([.lock dev.mDevLock] ++
        dev.mDev.toList.map (fun handle => .hidError handle (hid.error handle world.env)) ++
        [.unlock dev.mDevLock])⟩) := by
  rw [getDevError, Action.run_bind, run_self]
  simp only [run_withLock free]
  rcases handle : dev.mDev with _ | handle
  · by_cases silent : (hid.errno world.env).1 = 0
    all_goals
      simp [Action.run_bind, World.acquire, World.release, World.extend, silent]
  · by_cases silent : (hid.errno world.env).1 = 0
    all_goals
      simp [Action.run_bind, World.acquire, World.release, World.extend,
        World.record, silent]

/-- `hid_read` and the `hid_error` test after it, as `read` and `read_back` make
them under the mutex. -/
def checkedRead {α : Type} (readLen : Nat) (failed : α) (returned : ReadResult → α) :
    Method HidppDevice σ α := do
  let dev ← self
  withLock dev.mDevLock do
    let result ← hid.hidRead dev.mDev readLen
    match ← hidErrorAfter dev result with
    | some _ => do
        let _ ← getDevError hid
        return failed
    | none => return returned result

theorem read_eq (out : Bytes) (readLen : Nat) :
    read tb hid out readLen = checkedRead hid readLen (0, out) fun result =>
      (toSizeT result.res, (tb.write out 0 (result.buffer readLen)).2) := rfl

/-- What `read_back` does with the report. -/
def placeBack (out : Bytes) (seq readLen : Nat) : Option ReadResult → Nat × Bytes
  | none => (0, out)
  | some result =>
      let position := seq * readLen
      let out := if out.length ≤ position then tb.resize out (out.length + position)
        else out
      (readLen, (tb.write out position (result.buffer readLen)).2)

theorem readBack_eq (out : Bytes) (seq readLen : Nat) :
    readBack tb hid out seq readLen =
      placeBack tb out seq readLen <$> checkedRead hid readLen none some := by
  rw [readBack, checkedRead, map_eq_pure_bind, bind_assoc]
  refine bind_congr fun dev => bind_congr fun result => ?_
  cases result <;> rfl

theorem checkedRead_run {α : Type} {handle : Handle} (live : dev.mDev = some handle)
    (free : dev.mDevLock ∉ world.held) (readLen : Nat) (failed : α)
    (returned : ReadResult → α) :
    (checkedRead hid readLen failed returned).run ⟨dev, world⟩ =
      match hid.read handle readLen world.env with
      | (none, env) =>
          (.error .waits, ⟨dev, world.afterWait dev.mDevLock handle env⟩)
      | (some result, env) =>
          (match result.error with
            | some _ => .error (.deadlocks dev.mDevLock)
            | none => .ok (returned result),
            ⟨dev, world.afterRead dev.mDevLock handle env result⟩) := by
  rw [checkedRead, Action.run_bind, run_self]
  simp only [run_withLock free, Hidapi.hidRead, live, Action.run_bind, run_onWorld,
    hidErrorAfter, World.acquire]
  rcases answer : Hidapi.read hid handle readLen world.env with ⟨result | result, env⟩
  · simp [answer, Action.run_ofOption, Stop.Unwinds, World.afterWait, World.extend,
      World.record]
  · rcases failure : result.error with _ | message
    · simp [answer, Action.run_ofOption, World.afterRead, World.extend, World.record,
        World.release, failure]
    · simp [answer, Action.run_ofOption, Stop.Unwinds, World.afterRead, World.extend,
        World.record, failure, getDevError_run_of_held, Action.run_map]

theorem checkedRead_run_of_null {α : Type} (null : dev.mDev = none)
    (free : dev.mDevLock ∉ world.held) (readLen : Nat) (failed : α)
    (returned : ReadResult → α) :
    (checkedRead hid readLen failed returned).run ⟨dev, world⟩ =
      (.error .undefined,
        ⟨dev, (world.acquire dev.mDevLock).record (.hidRead none none)⟩) := by
  rw [checkedRead, Action.run_bind, run_self]
  simp [run_withLock free, Hidapi.hidRead, null, Action.run_bind, Stop.Unwinds]

theorem read_run {handle : Handle} (live : dev.mDev = some handle)
    (free : dev.mDevLock ∉ world.held) (out : Bytes) (readLen : Nat) :
    (read tb hid out readLen).run ⟨dev, world⟩ =
      match hid.read handle readLen world.env with
      | (none, env) =>
          (.error .waits, ⟨dev, world.afterWait dev.mDevLock handle env⟩)
      | (some result, env) =>
          (match result.error with
            | some _ => .error (.deadlocks dev.mDevLock)
            | none => .ok (toSizeT result.res,
                Bytes.overwrite out 0 (result.buffer readLen)),
            ⟨dev, world.afterRead dev.mDevLock handle env result⟩) := by
  rw [read_eq, checkedRead_run hid live free]
  simp only [Toolbox.write_eq]

theorem write_run {handle : Handle} (live : dev.mDev = some handle)
    (free : dev.mDevLock ∉ world.held) (data : Bytes) :
    (write hid data).run ⟨dev, world⟩ =
      (.ok (toSizeT (hid.write handle data world.env).1),
        ⟨dev, world.extend (hid.write handle data world.env).2
          [.lock dev.mDevLock, .hidWrite (some handle) data, .unlock dev.mDevLock]⟩) := by
  rw [write, Action.run_bind, run_self]
  simp [run_withLock free, Hidapi.hidWrite, live, Action.run_bind, World.acquire,
    Action.run_map, World.extend, World.record, World.release]

theorem write_run_of_null (null : dev.mDev = none) (free : dev.mDevLock ∉ world.held)
    (data : Bytes) :
    (write hid data).run ⟨dev, world⟩ =
      (.error .undefined,
        ⟨dev, (world.acquire dev.mDevLock).record (.hidWrite none data)⟩) := by
  rw [write, Action.run_bind, run_self]
  simp [run_withLock free, Hidapi.hidWrite, null, Action.run_bind, Action.run_map,
    Stop.Unwinds]

theorem close_run (free : dev.mDevLock ∉ world.held) :
    (close hid).run ⟨dev, world⟩ =
      (.ok (),
        match dev.mDev with
        | some handle =>
            ⟨{ dev with mDev := none }, world.extend (hid.close handle world.env)
              [.lock dev.mDevLock, .hidClose handle, .unlock dev.mDevLock]⟩
        | none =>
            ⟨dev, world.extend world.env
              [.lock dev.mDevLock, .unlock dev.mDevLock]⟩) := by
  rw [close, Action.run_bind, run_self]
  rcases handle : dev.mDev with _ | handle
  · simp [run_withLock free, handle, Action.run_bind, World.acquire, World.extend,
      World.release]
  · simp [run_withLock free, handle, Action.run_bind, World.acquire, World.extend,
      World.release, Hidapi.hidClose, World.record]

/-- The answer to the open that a device makes for its identifiers. -/
def openAnswer (dev : HidppDevice) (env : σ) : Bool × σ :=
  if dev.mVendorId = 0 ∨ dev.mProductId = 0 then hid.openPath dev.mPath env
  else hid.openDevice dev.mVendorId dev.mProductId env

/-- The event of that open. -/
def openEvent (dev : HidppDevice) (opened : Option Handle) : Event :=
  if dev.mVendorId = 0 ∨ dev.mProductId = 0 then .hidOpenPath dev.mPath opened
  else .hidOpen dev.mVendorId dev.mProductId opened

/-- The events of `open`. -/
def openEvents (dev : HidppDevice) (opened : Option Handle) : List Event :=
  [.lock dev.mDevLock, dev.openEvent opened] ++
    (opened.toList.map Event.hidSetNonblocking) ++ [.unlock dev.mDevLock]

/-- The world after `open`. -/
def afterOpen (dev : HidppDevice) (world : World σ) : World σ :=
  let (opened, env) := dev.openAnswer hid world.env
  { world.extend env (dev.openEvents (world.newHandle opened)) with
    issued := if opened then world.issued + 1 else world.issued }

@[simp] theorem afterOpen_held (dev : HidppDevice) (world : World σ) :
    (dev.afterOpen hid world).held = world.held := rfl

@[simp] theorem afterOpen_log (dev : HidppDevice) (world : World σ) :
    (dev.afterOpen hid world).log = world.log ++
      dev.openEvents (world.newHandle (dev.openAnswer hid world.env).1) := rfl

theorem open_run (free : dev.mDevLock ∉ world.held) :
    («open» hid).run ⟨dev, world⟩ =
      (.ok (dev.openAnswer hid world.env).1,
        ⟨{ dev with mDev := world.newHandle (dev.openAnswer hid world.env).1 },
          dev.afterOpen hid world⟩) := by
  rw [«open», Action.run_bind, run_self]
  by_cases byPath : dev.mVendorId = 0 ∨ dev.mProductId = 0
  · rcases answer : hid.openPath dev.mPath world.env with ⟨_ | _, env⟩ <;>
      simp [run_withLock free, byPath, answer, Action.run_bind, Action.run_map,
        Hidapi.hidOpenPath, Hidapi.issue, Hidapi.hidSetNonblocking, World.acquire,
        World.record, World.release, World.extend, afterOpen, openAnswer, openEvents,
        openEvent, World.newHandle]
  · rcases answer : hid.openDevice dev.mVendorId dev.mProductId world.env with ⟨_ | _, env⟩ <;>
      simp [run_withLock free, byPath, answer, Action.run_bind, Action.run_map,
        Hidapi.hidOpen, Hidapi.issue, Hidapi.hidSetNonblocking, World.acquire,
        World.record, World.release, World.extend, afterOpen, openAnswer, openEvents,
        openEvent, World.newHandle]

end HidppDevice

/-- `hidpp::enumerate_devices`: the records of `hid_enumerate`, in its order. -/
def enumerateDevices {O σ : Type} (hid : Hidapi σ) (vendorId productId : UInt16) :
    Method O σ (List HidDeviceInfo) :=
  hid.hidEnumerate vendorId productId

end MhWallet
