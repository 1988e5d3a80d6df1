import Mathlib.Logic.Function.Basic
import MhWallet.Effect.Transition
import MhWallet.ReadThread.ReportQueue

/-!
Contract: an open device of `libusb/hid.c` or of `mac/hid.c` with its read
thread, any number of threads in `hid_read_timeout`, and a thread in `hid_close`.

A thread holds the mutex from one of its steps to a later one only inside
`hid_read_timeout`.  The other two threads do everything they do under the mutex
in one step, which needs the mutex to be free: what they touch there is not
touched without it.  The flags are read and written without the mutex, so each
access to them is a step of its own.

Every call is made on an open device, and `hid_close` is called while no other
call is under way: `hidpp_device` makes all of them under its mutex and forgets
the handle it closes.

Owns: the steps of the three kinds of threads, who holds the mutex, and the
account of every report.

Does not own: who is woken in time.
-/

namespace MhWallet.ReadThread

open MhWallet.Effect

/-- Where a thread is in `hid_read_timeout`. -/
inductive Place where
  | outside (last : Option Returned)
  /-- Before `pthread_mutex_lock`. -/
  | locking (call : ReadCall)
  /-- Before the first tests. -/
  | testing (call : ReadCall)
  /-- At the head of the loop around the wait. -/
  | looping (call : ReadCall)
  | asleep (call : ReadCall)
  /-- Woken, and about to take the mutex again. -/
  | waking (call : ReadCall) (res : Woken)
  /-- Back from the wait. -/
  | resumed (call : ReadCall) (res : Woken)
deriving DecidableEq, Repr

/-- The places at which a thread holds the mutex. -/
def Place.Holds : Place → Prop
  | .testing _ | .looping _ | .resumed _ _ => True
  | _ => False

/-- The two loops of `read_thread`; the thread of `mac/hid.c` has the first only. -/
inductive EventLoop where
  | running
  | cancelling
deriving DecidableEq, Repr

/-- Where `read_thread` is. -/
inductive Reader where
  /-- At the head of a loop. -/
  | polling (loop : EventLoop)
  /-- In the call that dispatches events. -/
  | handling (loop : EventLoop)
  /-- In the callback, before `pthread_mutex_lock`. -/
  | attaching (loop : EventLoop) (rpt : Bytes)
  /-- In `read_callback`, before `libusb_submit_transfer`. -/
  | submitting (loop : EventLoop)
  /-- Past the loops, before the broadcast. -/
  | leaving
  /-- At the barrier that `hid_close` of `mac/hid.c` waits at too. -/
  | parked
  | finished
deriving DecidableEq, Repr

/-- The report that the callback has received and not yet attached. -/
def Reader.carried : Reader → List Bytes
  | .attaching _ rpt => [rpt]
  | _ => []

/-- Where `hid_close` is; `closing` is before `pthread_join` returns. -/
inductive Closer where
  | opened
  | closing
  | joined
  | freed
deriving DecidableEq, Repr

/-- How a report left the list. -/
inductive Fate (ι : Type) where
  | delivered (client : ι)
  | popped
  | drained
deriving DecidableEq, Repr

/-- The status of a transfer in `read_callback`. -/
inductive TransferStatus where
  | completed (rpt : Bytes)
  | cancelled
  | noDevice
  | timedOut
  | other
deriving DecidableEq, Repr

/-- The result of `CFRunLoopRunInMode`. -/
inductive RunLoopCode where
  | finished
  | stopped
  | timedOut
  | handledSource
deriving DecidableEq, Repr

/-- A device, its threads, and the reports so far: `arrived` those that the
callback received, `gone` those that left the list. -/
structure Monitor (ι : Type) where
  dev : Device
  /-- A transfer is submitted (`libusb/hid.c`). -/
  pending : Bool
  /-- `dev->cancelled` (`libusb/hid.c`). -/
  cancelled : Bool
  holder : Option ι
  place : ι → Place
  reader : Reader
  closer : Closer
  arrived : List Bytes
  gone : List (Bytes × Fate ι)

/-- What the condition does to a thread that it wakes. -/
def Place.woken : Place → Place
  | .asleep call => .waking call .ok
  | place => place

/-- Whose step it is; `nobody` wakes a thread that nothing has signalled. -/
inductive Actor (ι : Type) where
  | client (client : ι)
  | reader
  | closer
  | nobody
deriving DecidableEq, Repr

namespace Monitor

variable {ι : Type} [DecidableEq ι]

/-- A device that has just been opened; `submitted` says whether the first
`libusb_submit_transfer` succeeded. -/
def opened (submitted : Bool) : Monitor ι where
  dev := ⟨[], false, false⟩
  pending := submitted
  cancelled := false
  holder := none
  place _ := .outside none
  reader := .polling .running
  closer := .opened
  arrived := []
  gone := []

def move (state : Monitor ι) (client : ι) (place : Place) : Monitor ι :=
  { state with place := Function.update state.place client place }

/-- The thread takes the mutex and goes on there. -/
def enter (state : Monitor ι) (client : ι) (place : Place) : Monitor ι :=
  { state.move client place with holder := some client }

/-- A thread that holds the mutex does what it has decided.  The wait and every
way out of `hid_read_timeout` give the mutex back. -/
def carryOut (state : Monitor ι) (client : ι) (call : ReadCall) : Decision → Monitor ι
  | .takes rpt rest =>
      { state.move client (.outside (some (returnData rpt call.length))) with
        dev := { state.dev with inputReports := rest }
        holder := none
        gone := state.gone ++ [(rpt, .delivered client)] }
  | .returns bytesRead =>
      { state.move client (.outside (some ⟨bytesRead, []⟩)) with holder := none }
  | .loops => state.move client (.looping call)
  | .sleeps => { state.move client (.asleep call) with holder := none }

/-- `pthread_cond_signal` wakes a sleeper, if there is one. -/
def Wakes (state : Monitor ι) : Option ι → Prop
  | some client => ∃ call, state.place client = .asleep call
  | none => ∀ client call, state.place client ≠ .asleep call

/-- `dev->shutdown_thread = 1`, and what comes with it. -/
def shutDown (state : Monitor ι) : Monitor ι :=
  { state with dev := { state.dev with shutdownThread := true } }

/-- The head of a loop of `read_thread`. -/
def poll (backend : Backend) (state : Monitor ι) : EventLoop → Monitor ι
  | .running =>
      if state.dev.down backend then
        match backend with
        -- `libusb_cancel_transfer`: a pending transfer will come back.
        | .libusb => { state with reader := .polling .cancelling }
        | .mac => { state with reader := .leaving }
      else { state with reader := .handling .running }
  | .cancelling =>
      if state.cancelled then { state with reader := .leaving }
      else { state with reader := .handling .cancelling }

/-- `read_callback` up to its mutex or its last call. -/
def readCallback (state : Monitor ι) (loop : EventLoop) : TransferStatus → Monitor ι
  | .completed rpt =>
      { state with
        pending := false
        reader := .attaching loop rpt
        arrived := state.arrived ++ [rpt] }
  | .cancelled | .noDevice =>
      { state.shutDown with pending := false, cancelled := true }
  | .timedOut | .other => { state with pending := false, reader := .submitting loop }

/-- `libusb_submit_transfer` at the end of `read_callback`. -/
def submit (state : Monitor ι) (loop : EventLoop) (submitted : Bool) : Monitor ι :=
  if submitted then { state with pending := true, reader := .handling loop }
  else { state.shutDown with cancelled := true, reader := .handling loop }

/-- The code of `read_thread` in `mac/hid.c` after `CFRunLoopRunInMode`. -/
def runLoopReturned (state : Monitor ι) : RunLoopCode → Monitor ι
  | .finished =>
      { state with dev := { state.dev with disconnected := true }, reader := .leaving }
  | .stopped => { state.shutDown with reader := .leaving }
  | .timedOut | .handledSource => { state with reader := .polling .running }

/-- The part of the callback under the mutex. -/
def attachReport (backend : Backend) (state : Monitor ι) (loop : EventLoop) (rpt : Bytes)
    (signalled : Option ι) : Monitor ι :=
  { state with
    dev := { state.dev with inputReports := (attach state.dev.inputReports rpt).2 }
    gone := state.gone ++
      (attach state.dev.inputReports rpt).1.toList.map fun oldest => (oldest, .popped)
    place := fun client =>
      if signals backend state.dev.inputReports ∧ signalled = some client then
        (state.place client).woken
      else state.place client
    reader :=
      match backend with
      | .libusb => .submitting loop
      | .mac => .handling loop }

/-- `pthread_cond_broadcast` at the end of `read_thread`. -/
def broadcast (backend : Backend) (state : Monitor ι) : Monitor ι :=
  { state with
    place := fun client => (state.place client).woken
    reader :=
      match backend with
      | .libusb => .finished
      | .mac => .parked }

/-- Where the read thread is when `hid_close` gets past it. -/
def joinable : Backend → Reader
  | .libusb => .finished
  | .mac => .parked

/-- `hid_close` empties the list. -/
def drain (state : Monitor ι) : Monitor ι :=
  { state with
    dev := { state.dev with inputReports := [] }
    gone := state.gone ++ state.dev.inputReports.map fun rpt => (rpt, .drained)
    closer := .freed }

/-- One step. -/
inductive Step (backend : Backend) : Actor ι → Monitor ι → Monitor ι → Prop where
  | call {state : Monitor ι} {client : ι} {last : Option Returned} (call : ReadCall)
      (place : state.place client = .outside last) (opened : state.closer = .opened) :
      Step backend (.client client) state (state.move client (.locking call))
  | lock {state : Monitor ι} {client : ι} {call : ReadCall}
      (place : state.place client = .locking call) (free : state.holder = none) :
      Step backend (.client client) state (state.enter client (.testing call))
  | test {state : Monitor ι} {client : ι} {call : ReadCall}
      (place : state.place client = .testing call) :
      Step backend (.client client) state
        (state.carryOut client call (firstTests backend state.dev call))
  | loop {state : Monitor ι} {client : ι} {call : ReadCall}
      (place : state.place client = .looping call) :
      Step backend (.client client) state
        (state.carryOut client call (loopHead backend state.dev call))
  | wake {state : Monitor ι} {client : ι} {call : ReadCall} (res : Woken)
      (place : state.place client = .asleep call) (timed : res = .timedOut → call.Timed) :
      Step backend .nobody state (state.move client (.waking call res))
  | relock {state : Monitor ι} {client : ι} {call : ReadCall} {res : Woken}
      (place : state.place client = .waking call res) (free : state.holder = none) :
      Step backend (.client client) state (state.enter client (.resumed call res))
  | resume {state : Monitor ι} {client : ι} {call : ReadCall} {res : Woken}
      (place : state.place client = .resumed call res) :
      Step backend (.client client) state
        (state.carryOut client call (afterWait backend state.dev call res))
  | poll {state : Monitor ι} {loop : EventLoop} (place : state.reader = .polling loop) :
      Step backend .reader state (state.poll backend loop)
  | dispatch {state : Monitor ι} {loop : EventLoop} (status : TransferStatus)
      (libusb : backend = .libusb) (place : state.reader = .handling loop)
      (pending : state.pending = true) :
      Step backend .reader state (state.readCallback loop status)
  | handled {state : Monitor ι} {loop : EventLoop}
      (libusb : backend = .libusb) (place : state.reader = .handling loop) :
      Step backend .reader state { state with reader := .polling loop }
  | broken {state : Monitor ι} (libusb : backend = .libusb)
      (place : state.reader = .handling .running) :
      Step backend .reader state { state with reader := .polling .cancelling }
  | submit {state : Monitor ι} {loop : EventLoop} (submitted : Bool)
      (place : state.reader = .submitting loop) :
      Step backend .reader state (state.submit loop submitted)
  | report {state : Monitor ι} {loop : EventLoop} (rpt : Bytes)
      (mac : backend = .mac) (place : state.reader = .handling loop) :
      Step backend .reader state
        { state with reader := .attaching loop rpt, arrived := state.arrived ++ [rpt] }
  | removal {state : Monitor ι} {loop : EventLoop}
      (mac : backend = .mac) (place : state.reader = .handling loop) :
      Step backend .reader state { state with dev := { state.dev with disconnected := true } }
  | returned {state : Monitor ι} {loop : EventLoop} (code : RunLoopCode)
      (mac : backend = .mac) (place : state.reader = .handling loop) :
      Step backend .reader state (state.runLoopReturned code)
  | attach {state : Monitor ι} {loop : EventLoop} {rpt : Bytes} (signalled : Option ι)
      (place : state.reader = .attaching loop rpt) (free : state.holder = none)
      (wakes : state.Wakes signalled) :
      Step backend .reader state (state.attachReport backend loop rpt signalled)
  | broadcast {state : Monitor ι} (place : state.reader = .leaving)
      (free : state.holder = none) :
      Step backend .reader state (state.broadcast backend)
  | close {state : Monitor ι} (opened : state.closer = .opened)
      (quiet : ∀ client, ∃ last, state.place client = .outside last) :
      Step backend .closer state { state.shutDown with closer := .closing }
  | join {state : Monitor ι} (place : state.closer = .closing)
      (reader : state.reader = joinable backend) :
      Step backend .closer state { state with reader := .finished, closer := .joined }
  | drain {state : Monitor ι} (place : state.closer = .joined) (free : state.holder = none) :
      Step backend .closer state state.drain

/-- A device from when it has been opened; whether the first transfer was
submitted is open. -/
def system (ι : Type) [DecidableEq ι] (backend : Backend) : Transition (Monitor ι) where
  initial state := ∃ submitted, state = opened submitted
  step before after := ∃ actor, Step backend actor before after

/-- What every step keeps holds at the end of a run. -/
theorem keeps_of_step {backend : Backend} {property : Monitor ι → Prop}
    (kept : ∀ {actor : Actor ι} {before after : Monitor ι}, Step backend actor before after →
      property before → property after) {before after : Monitor ι}
    (ran : (system ι backend).Runs before after) (start : property before) : property after := by
  apply ran.keeps _ start
  rintro between next holds ⟨actor, step⟩
  exact kept step holds

end Monitor

end MhWallet.ReadThread
