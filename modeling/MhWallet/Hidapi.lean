import MhWallet.Core
import MhWallet.Effect.Action
import MhWallet.Toolbox

/-!
Contract: the hidapi calls of the library, the world they act on, and the
member functions of the library's objects as actions on an object in a world.

The devices and the operating system are the parameter `Hidapi`: any way in
which the calls of `hidapi.h` may answer.  The world records every hidapi call
and every lock operation in a log that only grows.

Owns: device handles, the log, the mutexes a call holds, the hidapi calls and
the scoped lock.

Does not own: which reports a device sends.
-/

namespace MhWallet

open MhWallet.Effect

/-- A pointer returned by `hid_open` or `hid_open_path`; no two calls return
the same one. -/
abbrev Handle := Nat

structure HidDeviceInfo where
  path : String
  vendorId : UInt16
  productId : UInt16
deriving DecidableEq, Repr

/-- One return of `hid_read`: its value, the bytes it stored, and what
`hid_error` says about the device right after it. -/
structure ReadResult where
  res : Int32
  data : Bytes
  error : Option String
deriving DecidableEq, Repr

/-- The content of a zeroed buffer of `readLen` bytes after the call. -/
def ReadResult.buffer (result : ReadResult) (readLen : Nat) : Bytes :=
  result.data.take readLen ++ List.replicate (readLen - result.data.length) 0

/-- How the hidapi calls answer.  `read` gives no result where the call waits
for a report that never comes. -/
structure Hidapi (σ : Type) where
  enumerate : σ → List HidDeviceInfo × σ
  openDevice : UInt16 → UInt16 → σ → Bool × σ
  openPath : Option String → σ → Bool × σ
  close : Handle → σ → σ
  write : Handle → Bytes → σ → Int32 × σ
  read : Handle → Nat → σ → Option ReadResult × σ
  error : Handle → σ → Option String
  errno : σ → Nat × String

inductive Event where
  | lock (mutex : Mutex)
  | unlock (mutex : Mutex)
  | hidEnumerate (vendorId productId : UInt16)
  | hidOpen (vendorId productId : UInt16) (opened : Option Handle)
  | hidOpenPath (path : Option String) (opened : Option Handle)
  | hidSetNonblocking (dev : Handle)
  | hidClose (dev : Handle)
  | hidWrite (dev : Option Handle) (data : Bytes)
  | hidRead (dev : Option Handle) (result : Option ReadResult)
  | hidError (dev : Handle) (message : Option String)
deriving DecidableEq, Repr

/-- Everything outside the object a member function runs on. -/
structure World (σ : Type) where
  env : σ
  objects : Nat
  issued : Nat
  held : List Mutex
  log : List Event

namespace World

variable {σ : Type}

def record (world : World σ) (event : Event) : World σ :=
  { world with log := world.log ++ [event] }

def acquire (world : World σ) (mutex : Mutex) : World σ :=
  { world with held := mutex :: world.held, log := world.log ++ [.lock mutex] }

def release (world : World σ) (mutex : Mutex) : World σ :=
  { world with
    held := world.held.erase mutex
    log := world.log ++ [.unlock mutex] }

/-- The world after `events`, with a new state of the environment. -/
def extend (world : World σ) (env : σ) (events : List Event) : World σ :=
  { world with env, log := world.log ++ events }

/-- The world before any object exists and any call is made. -/
def initial (env : σ) : World σ :=
  { env, objects := 0, issued := 0, held := [], log := [] }

/-- With no mutex held every mutex is free. -/
theorem free_of_idle {world : World σ} (idle : world.held = []) (mutex : Mutex) :
    mutex ∉ world.held := by
  rw [idle]
  exact List.not_mem_nil

end World

/-- An object and the world around it. -/
structure Scene (O σ : Type) where
  self : O
  world : World σ

/-- A member function of `O`. -/
abbrev Method (O σ : Type) := Action Stop (Scene O σ)

namespace Method

variable {O P σ α : Type}

def self : Method O σ O := do
  return (← Action.read).self

def updateSelf (change : O → O) : Method O σ Unit :=
  .update fun scene => { scene with self := change scene.self }

def throw (exception : Exception) : Method O σ α :=
  .stop (.throws exception)

/-- The value, or `std::out_of_range`. -/
def orOutOfRange (value : Option α) : Method O σ α :=
  .ofOption (.throws .outOfRange) value

/-- A member of an object, as a component of the scene. -/
def sceneLens (lens : Lens O P) : Lens (Scene O σ) (Scene P σ) where
  get scene := { self := lens.get scene.self, world := scene.world }
  put part scene := { self := lens.put part.self scene.self, world := part.world }
  get_put part scene := by simp [lens.get_put]
  put_get scene := by simp [lens.put_get]
  put_put first second scene := by simp [lens.put_put]

/-- Call a member function of a member object. -/
def onMember (lens : Lens O P) (inner : Method P σ α) : Method O σ α :=
  inner.focus (sceneLens lens)

/-- Call a member function of a temporary object, which is gone afterwards. -/
def onTemporary (temporary : P) (inner : Method P σ α) : Method O σ α :=
  ⟨fun scene =>
    let (outcome, reached) := inner.run { self := temporary, world := scene.world }
    (outcome, { scene with world := reached.world })⟩

/-- A step of the world that cannot stop. -/
def onWorld (step : World σ → α × World σ) : Method O σ α :=
  ⟨fun scene =>
    (.ok (step scene.world).1, { scene with world := (step scene.world).2 })⟩

/-- `std::lock_guard` around `body`: released on return and on a throw. -/
def withLock (mutex : Mutex) (body : Method O σ α) : Method O σ α :=
  ⟨fun scene =>
    if mutex ∈ scene.world.held then
      (.error (.deadlocks mutex), { scene with world := scene.world.record (.lock mutex) })
    else
      match body.run { scene with world := scene.world.acquire mutex } with
      | (.ok value, reached) =>
          (.ok value, { reached with world := reached.world.release mutex })
      | (.error reason, reached) =>
          if reason.Unwinds then
            (.error reason, { reached with world := reached.world.release mutex })
          else (.error reason, reached)⟩

/-! ### Run equations -/

@[simp] theorem run_self (scene : Scene O σ) :
    (self : Method O σ O).run scene = (.ok scene.self, scene) := rfl

@[simp] theorem run_updateSelf (change : O → O) (scene : Scene O σ) :
    (updateSelf change : Method O σ Unit).run scene =
      (.ok (), { scene with self := change scene.self }) := rfl

@[simp] theorem run_throw (exception : Exception) (scene : Scene O σ) :
    (throw exception : Method O σ α).run scene =
      (.error (.throws exception), scene) := rfl

@[simp] theorem run_orOutOfRange_some (value : α) (scene : Scene O σ) :
    (orOutOfRange (some value) : Method O σ α).run scene = (.ok value, scene) := rfl

@[simp] theorem run_orOutOfRange_none (scene : Scene O σ) :
    (orOutOfRange none : Method O σ α).run scene =
      (.error (.throws .outOfRange), scene) := rfl

@[simp] theorem run_onWorld (step : World σ → α × World σ) (scene : Scene O σ) :
    (onWorld step : Method O σ α).run scene =
      (.ok (step scene.world).1, { scene with world := (step scene.world).2 }) := rfl

theorem run_onMember (lens : Lens O P) (inner : Method P σ α) (scene : Scene O σ) :
    (onMember lens inner).run scene =
      ((inner.run ⟨lens.get scene.self, scene.world⟩).1,
        ⟨lens.put (inner.run ⟨lens.get scene.self, scene.world⟩).2.self scene.self,
          (inner.run ⟨lens.get scene.self, scene.world⟩).2.world⟩) := rfl

theorem run_onTemporary (temporary : P) (inner : Method P σ α) (scene : Scene O σ) :
    (onTemporary temporary inner).run scene =
      ((inner.run ⟨temporary, scene.world⟩).1,
        { scene with world := (inner.run ⟨temporary, scene.world⟩).2.world }) := rfl

theorem run_withLock_of_held {mutex : Mutex} {world : World σ}
    (held : mutex ∈ world.held) (object : O) (body : Method O σ α) :
    (withLock mutex body).run ⟨object, world⟩ =
      (.error (.deadlocks mutex), ⟨object, world.record (.lock mutex)⟩) := by
  simp [withLock, held]

theorem run_withLock {mutex : Mutex} {world : World σ}
    (free : mutex ∉ world.held) (object : O) (body : Method O σ α) :
    (withLock mutex body).run ⟨object, world⟩ =
      match body.run ⟨object, world.acquire mutex⟩ with
      | (.ok value, reached) =>
          (.ok value, { reached with world := reached.world.release mutex })
      | (.error reason, reached) =>
          if reason.Unwinds then
            (.error reason, { reached with world := reached.world.release mutex })
          else (.error reason, reached) := by
  simp [withLock, free]

/-- The lock is released by a body that comes back. -/
theorem run_withLock_eq {mutex : Mutex} {world : World σ} (free : mutex ∉ world.held)
    (object : O) (body : Method O σ α) :
    let ran := body.run ⟨object, world.acquire mutex⟩
    (withLock mutex body).run ⟨object, world⟩ =
      (ran.1, if Ended ran.1 then ⟨ran.2.self, ran.2.world.release mutex⟩ else ran.2) := by
  rw [run_withLock free]
  rcases body.run ⟨object, world.acquire mutex⟩ with ⟨reason | value, reached⟩
  · by_cases unwinds : reason.Unwinds <;> simp [Ended, unwinds]
  · simp [Ended]

end Method

/-! ## The hidapi calls -/

namespace Hidapi

open Method

variable {O σ : Type} (hid : Hidapi σ)

/-- A device matches an identifier that is zero or its own. -/
def idMatches (requested actual : UInt16) : Bool :=
  requested == 0 || requested == actual

def infoMatches (vendorId productId : UInt16) (info : HidDeviceInfo) : Bool :=
  idMatches vendorId info.vendorId && idMatches productId info.productId

/-- `hid_enumerate`: the attached devices that match. -/
def hidEnumerate (vendorId productId : UInt16) :
    Method O σ (List HidDeviceInfo) :=
  onWorld fun world =>
    let (attached, env) := hid.enumerate world.env
    (attached.filter (infoMatches vendorId productId),
      { world with env }.record (.hidEnumerate vendorId productId))

/-- The handle of a successful open is a new one. -/
def issue (opened : Bool) (world : World σ) : Option Handle × World σ :=
  if opened then
    (some world.issued, { world with issued := world.issued + 1 })
  else (none, world)

def hidOpen (vendorId productId : UInt16) : Method O σ (Option Handle) :=
  onWorld fun world =>
    let (opened, env) := hid.openDevice vendorId productId world.env
    let (handle, world) := issue opened { world with env }
    (handle, world.record (.hidOpen vendorId productId handle))

def hidOpenPath (path : Option String) : Method O σ (Option Handle) :=
  onWorld fun world =>
    let (opened, env) := hid.openPath path world.env
    let (handle, world) := issue opened { world with env }
    (handle, world.record (.hidOpenPath path handle))

def hidSetNonblocking (dev : Handle) : Method O σ Unit :=
  onWorld fun world => ((), world.record (.hidSetNonblocking dev))

def hidClose (dev : Handle) : Method O σ Unit :=
  onWorld fun world =>
    ((), { world with env := hid.close dev world.env }.record (.hidClose dev))

/-- `hid_write` dereferences the handle. -/
def hidWrite (dev : Option Handle) (data : Bytes) : Method O σ Int32 := do
  onWorld fun world => ((), world.record (.hidWrite dev data))
  match dev with
  | none => .stop .undefined
  | some handle =>
      onWorld fun world =>
        let (written, env) := hid.write handle data world.env
        (written, { world with env })

/-- `hid_read` dereferences the handle. -/
def hidRead (dev : Option Handle) (readLen : Nat) : Method O σ ReadResult :=
  match dev with
  | none => do
      onWorld fun world => ((), world.record (.hidRead none none))
      .stop .undefined
  | some handle => do
      let result ← onWorld fun world =>
        let (result, env) := hid.read handle readLen world.env
        (result, { world with env }.record (.hidRead (some handle) result))
      .ofOption .waits result

end Hidapi

end MhWallet
