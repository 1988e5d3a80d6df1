import Mathlib.Data.List.Forall2
import MhWallet.Effect.Transition
import MhWallet.Toolbox

/-!
Contract: `hid_read_timeout`, `hid_read` and `hid_close` of `windows/hid.c`.

A call that times out leaves its overlapped read running, and a later call takes it
over.  The system completes a read at any moment, also after `hid_close`, since
`CancelIo` only asks for an end of it.  One thread at a time makes calls, as
`hidpp_device` does under its mutex.

Owns: the account of every report with which the system completes a read, what a
timed call waits for, and when `hid_close` frees a buffer that is still in use.

Does not own: how the system comes by the reports.
-/

namespace MhWallet.Windows

open MhWallet.Effect MhWallet.Bytes

/-- The read that `ReadFile` has started, as the system sees it; completed with an
error it has no length. -/
inductive Request where
  | idle
  | running
  | completed (bytesRead : Option Nat)
deriving DecidableEq, Repr

/-- The fields of `hid_device_` that a read uses. -/
structure Device where
  inputReportLength : Nat
  readPending : Bool
  readBuf : Bytes
  /-- The event of `ol`. -/
  signalled : Bool
  request : Request
deriving DecidableEq, Repr

structure ReadCall where
  length : Nat
  milliseconds : Int
deriving DecidableEq, Repr

/-- `hid_read`: `INFINITE` is -1 as an `int`. -/
def hidRead (length : Nat) : ReadCall := ⟨length, -1⟩

/-- The value that a call returns, and the bytes that it stores. -/
structure Returned where
  result : Int
  data : Bytes
deriving DecidableEq, Repr

inductive Place where
  | outside (last : Option Returned)
  /-- Before the test of `read_pending`. -/
  | starting (call : ReadCall)
  /-- In `WaitForSingleObject`. -/
  | waiting (call : ReadCall)
  /-- In `GetOverlappedResult`. -/
  | fetching (call : ReadCall)
  | closed
deriving DecidableEq, Repr

/-- A call is past the start of its read. -/
def Place.Reading : Place → Prop
  | .waiting _ | .fetching _ => True
  | _ => False

/-- The call that is under way. -/
def Place.call : Place → Option ReadCall
  | .starting call | .waiting call | .fetching call => some call
  | _ => none

/-- How many steps a call has before it at most. -/
def Place.stepsLeft : Place → Nat
  | .starting _ => 3
  | .waiting _ => 2
  | .fetching _ => 1
  | _ => 0

def ReadCall.afterStart (call : ReadCall) : Place :=
  if 0 ≤ call.milliseconds then .waiting call else .fetching call

/-- What comes before `ReadFile`. -/
def Device.prepare (dev : Device) : Device :=
  { dev with
    readPending := true
    readBuf := List.replicate dev.inputReportLength 0
    signalled := false }

/-- What follows `GetOverlappedResult`, where it succeeds. -/
def Device.fetch (dev : Device) (call : ReadCall) (bytesRead : Nat) : Returned × Device :=
  let dev := { dev with readPending := false, request := .idle }
  if 0 < bytesRead then
    let copyLen := if bytesRead < call.length then bytesRead else call.length
    (⟨copyLen, dev.readBuf.take copyLen⟩,
      { dev with readBuf := overwrite dev.readBuf 0 (List.replicate bytesRead 0) })
  else (⟨0, []⟩, dev)

/-- A device, the thread that uses it, the reports with which the system has completed
reads, and the lengths asked for and bytes stored by the calls that fetched one. -/
structure Overlapped where
  dev : Device
  place : Place
  handed : List Bytes
  stored : List (Nat × Bytes)

/-- Whose step it is. -/
inductive Actor where
  | caller
  | system
deriving DecidableEq, Repr

namespace Overlapped

def opened (inputReportLength : Nat) (readBuf : Bytes) : Overlapped where
  dev := ⟨inputReportLength, false, readBuf, false, .idle⟩
  place := .outside none
  handed := []
  stored := []

/-- One step.  A wait may end without a signal, by a timeout or by an error, and a
signal that nothing has waited for may stay. -/
inductive Step : Actor → Overlapped → Overlapped → Prop where
  | call {state : Overlapped} {last : Option Returned} (call : ReadCall)
      (place : state.place = .outside last) :
      Step .caller state { state with place := .starting call }
  | continued {state : Overlapped} {call : ReadCall} (place : state.place = .starting call)
      (pending : state.dev.readPending = true) :
      Step .caller state { state with place := call.afterStart }
  | started {state : Overlapped} {call : ReadCall} (place : state.place = .starting call)
      (idle : state.dev.readPending = false) :
      Step .caller state { state with
        dev := { state.dev.prepare with request := .running }
        place := call.afterStart }
  | refused {state : Overlapped} {call : ReadCall} (place : state.place = .starting call)
      (idle : state.dev.readPending = false) :
      Step .caller state { state with
        dev := { state.dev.prepare with readPending := false }
        place := .outside (some ⟨-1, []⟩) }
  | awoken {state : Overlapped} {call : ReadCall} (place : state.place = .waiting call)
      (signalled : state.dev.signalled = true) :
      Step .caller state { state with
        dev := { state.dev with signalled := false }
        place := .fetching call }
  | timedOut {state : Overlapped} {call : ReadCall} (place : state.place = .waiting call) :
      Step .caller state { state with place := .outside (some ⟨0, []⟩) }
  | fetched {state : Overlapped} {call : ReadCall} {bytesRead : Nat} (signalled : Bool)
      (place : state.place = .fetching call)
      (stays : signalled = true → state.dev.signalled = true)
      (completed : state.dev.request = .completed (some bytesRead)) :
      Step .caller state { state with
        dev := { (state.dev.fetch call bytesRead).2 with signalled }
        place := .outside (some (state.dev.fetch call bytesRead).1)
        stored := state.stored ++ [(call.length, (state.dev.fetch call bytesRead).1.data)] }
  | failed {state : Overlapped} {call : ReadCall} (signalled : Bool)
      (place : state.place = .fetching call)
      (stays : signalled = true → state.dev.signalled = true)
      (completed : state.dev.request = .completed none) :
      Step .caller state { state with
        dev := { state.dev with readPending := false, request := .idle, signalled }
        place := .outside (some ⟨-1, []⟩) }
  | close {state : Overlapped} {last : Option Returned} (place : state.place = .outside last) :
      Step .caller state { state with place := .closed }
  | complete {state : Overlapped} (rpt : Bytes) (running : state.dev.request = .running)
      (fits : rpt.length ≤ state.dev.inputReportLength) :
      Step .system state { state with
        dev := { state.dev with
          readBuf := overwrite state.dev.readBuf 0 rpt
          request := .completed (some rpt.length)
          signalled := true }
        handed := state.handed ++ [rpt] }
  | completeError {state : Overlapped} (running : state.dev.request = .running) :
      Step .system state { state with
        dev := { state.dev with request := .completed none, signalled := true } }

/-- A device from when it has been opened. -/
def system : Transition Overlapped where
  initial state := ∃ inputReportLength readBuf, state = opened inputReportLength readBuf
  step before after := ∃ actor, Step actor before after

/-! ## The account of the reports -/

/-- The reports that are in the buffer and have not been fetched. -/
def InBuffer (dev : Device) (left : List Bytes) : Prop :=
  match dev.request with
  | .completed (some bytesRead) => ∃ rpt, left = [rpt] ∧ rpt.length = bytesRead ∧
      dev.readBuf.take bytesRead = rpt
  | _ => left = []

theorem InBuffer.nothing {dev : Device} {left : List Bytes} (inBuffer : InBuffer dev left)
    (unread : ∀ bytesRead, dev.request ≠ .completed (some bytesRead)) : left = [] := by
  unfold InBuffer at inBuffer
  split at inBuffer
  next bytesRead completed => exact absurd completed (unread bytesRead)
  next => exact inBuffer

theorem InBuffer.bounded {dev : Device} {left : List Bytes} (inBuffer : InBuffer dev left) :
    left.length ≤ 1 ∧ (left ≠ [] → dev.request ≠ .idle) := by
  unfold InBuffer at inBuffer
  split at inBuffer
  next bytesRead completed =>
    obtain ⟨rpt, rfl, -, -⟩ := inBuffer
    exact ⟨Nat.le_refl 1, fun _ => by simp [completed]⟩
  next => simp [inBuffer]

/-- A call has stored as much of a report as it was asked for. -/
def Stores (rpt : Bytes) (given : Nat × Bytes) : Prop := given.2 = rpt.take given.1

structure Accounted (state : Overlapped) : Prop where
  pending : state.dev.readPending = true ↔ state.dev.request ≠ .idle
  reading : state.place.Reading → state.dev.readPending = true
  reports : ∃ taken left, state.handed = taken ++ left ∧
    List.Forall₂ Stores taken state.stored ∧ InBuffer state.dev left

theorem take_overwrite (buffer content : Bytes) :
    (overwrite buffer 0 content).take content.length = content := by
  simp [overwrite]

/-- What a call stores of the report in the buffer. -/
theorem stores_fetch {dev : Device} {rpt : Bytes}
    (held : dev.readBuf.take rpt.length = rpt) (call : ReadCall) :
    Stores rpt (call.length, (dev.fetch call rpt.length).1.data) := by
  unfold Stores Device.fetch
  by_cases some : 0 < rpt.length
  · rw [if_pos some]
    by_cases short : rpt.length < call.length
    · simp only [if_pos short, held]
      exact (List.take_of_length_le (Nat.le_of_lt short)).symm
    · simp only [if_neg short]
      rw [← held, List.take_take, Nat.min_eq_left (Nat.le_of_not_lt short)]
  · have empty : rpt = [] := List.length_eq_zero_iff.mp (by omega)
    simp [empty]

/-- A fetched read is over. -/
theorem fetch_dev (dev : Device) (call : ReadCall) (bytesRead : Nat) :
    (dev.fetch call bytesRead).2.readPending = false ∧
      (dev.fetch call bytesRead).2.request = .idle := by
  unfold Device.fetch
  dsimp only
  split <;> exact ⟨rfl, rfl⟩

variable {actor : Actor} {state after : Overlapped}

theorem Accounted.idle (accounted : Accounted state) (idle : state.dev.readPending = false) :
    state.dev.request = .idle := by
  by_contra busy
  exact Bool.false_ne_true (idle.symm.trans (accounted.pending.mpr busy))

/-- A step that leaves the read alone. -/
theorem Accounted.moved (accounted : Accounted state) (signalled : Bool) (place : Place)
    (reading : place.Reading → state.dev.readPending = true) :
    Accounted { state with dev := { state.dev with signalled }, place } := by
  obtain ⟨pending, -, reports⟩ := accounted
  exact ⟨pending, reading, reports⟩

theorem Step.accounted (step : Step actor state after) (accounted : Accounted state) :
    Accounted after := by
  cases step with
  | call call place => exact accounted.moved _ (.starting call) False.elim
  | @continued _ call place pending =>
      exact accounted.moved _ call.afterStart fun _ => pending
  | @started _ call place idle =>
      obtain ⟨taken, left, handed, stores, inBuffer⟩ := accounted.reports
      have none := inBuffer.nothing (by simp [accounted.idle idle])
      exact ⟨by simp [Device.prepare], fun _ => rfl, taken, left, handed, stores, none⟩
  | refused place idle =>
      have request := accounted.idle idle
      obtain ⟨taken, left, handed, stores, inBuffer⟩ := accounted.reports
      have none := inBuffer.nothing (by simp [request])
      refine ⟨by simp [Device.prepare, request], False.elim, taken, left, handed, stores, ?_⟩
      simpa [InBuffer, Device.prepare, request] using none
  | @awoken _ call place signalled =>
      exact accounted.moved false (.fetching call) fun _ =>
        accounted.reading (by rw [place]; trivial)
  | timedOut place => exact accounted.moved _ (.outside _) False.elim
  | @fetched _ call bytesRead signalled place stays completed =>
      obtain ⟨taken, left, handed, stores, inBuffer⟩ := accounted.reports
      rw [InBuffer, completed] at inBuffer
      obtain ⟨rpt, rfl, rfl, held⟩ := inBuffer
      obtain ⟨idle, request⟩ := fetch_dev state.dev call rpt.length
      refine ⟨by simp [idle, request], False.elim, taken ++ [rpt], [], ?_, ?_, ?_⟩
      · rw [List.append_nil, handed]
      · exact List.rel_append stores (.cons (stores_fetch held call) .nil)
      · rw [InBuffer]
        simp only [request]
  | failed signalled place stays completed =>
      obtain ⟨taken, left, handed, stores, inBuffer⟩ := accounted.reports
      have none := inBuffer.nothing (by simp [completed])
      exact ⟨by simp, False.elim, taken, left, handed, stores, none⟩
  | close place => exact accounted.moved _ .closed False.elim
  | complete rpt running fits =>
      obtain ⟨taken, left, handed, stores, inBuffer⟩ := accounted.reports
      have none := inBuffer.nothing (by simp [running])
      have pending := accounted.pending.mpr (by simp [running])
      refine ⟨by simp [pending], fun _ => pending, taken, [rpt], ?_, stores, ?_⟩
      · rw [handed, none, List.append_nil]
      · exact ⟨rpt, rfl, rfl, take_overwrite _ _⟩
  | completeError running =>
      obtain ⟨taken, left, handed, stores, inBuffer⟩ := accounted.reports
      have none := inBuffer.nothing (by simp [running])
      have pending := accounted.pending.mpr (by simp [running])
      exact ⟨by simp [pending], fun _ => pending, taken, left, handed, stores, none⟩

theorem accounted_of_reachable (reachable : system.Reachable state) : Accounted state := by
  apply reachable.invariant
  · rintro _ ⟨inputReportLength, readBuf, rfl⟩
    exact ⟨by simp [opened], False.elim, [], [], rfl, .nil, rfl⟩
  · rintro before after _ holds ⟨actor, step⟩
    exact step.accounted holds

/-- Whatever calls are made, with whatever timeouts, and whenever the system completes a
read: every report with which it does is stored by one call, in order, up to the length
asked for; at most one report has not been stored yet, and the next call takes it over. -/
theorem reads_accounted (reachable : system.Reachable state) :
    ∃ taken left, state.handed = taken ++ left ∧ List.Forall₂ Stores taken state.stored ∧
      left.length ≤ 1 ∧ (left ≠ [] → state.dev.readPending = true) := by
  have accounted := accounted_of_reachable reachable
  obtain ⟨taken, left, handed, stores, inBuffer⟩ := accounted.reports
  exact ⟨taken, left, handed, stores, inBuffer.bounded.1, fun some =>
    accounted.pending.mpr (inBuffer.bounded.2 some)⟩

/-- A report that comes after the call that asked for it has timed out. -/
theorem reads_accounted_after_timeout :
    ∃ state : Overlapped, state.handed = [[1, 5]] ∧ state.stored = [(1, [1])] ∧
      ∃ taken left, state.handed = taken ++ left ∧ List.Forall₂ Stores taken state.stored ∧
        left.length ≤ 1 ∧ (left ≠ [] → state.dev.readPending = true) := by
  have start : system.Reachable (opened 64 []) := .of_initial ⟨64, [], rfl⟩
  have calling := start.next ⟨_, .call ⟨64, 0⟩ rfl⟩
  have waiting := calling.next ⟨_, .started rfl rfl⟩
  have returned := waiting.next ⟨_, .timedOut rfl⟩
  have completed := returned.next ⟨_, .complete [1, 5] rfl (by decide)⟩
  have again := completed.next ⟨_, .call (hidRead 1) rfl⟩
  have fetching := again.next ⟨_, .continued rfl rfl⟩
  have fetched := fetching.next ⟨_, .fetched true rfl (fun _ => rfl) rfl⟩
  exact ⟨_, rfl, rfl, reads_accounted fetched⟩

/-! ## Calls with a timeout -/

/-- A signal says that the read is over, and a call with a timeout fetches the result of
none before. -/
structure Prompt (state : Overlapped) : Prop where
  event : state.dev.readPending = true → state.dev.signalled = true →
    ∃ result, state.dev.request = .completed result
  timed : ∀ call, state.place = .fetching call → 0 ≤ call.milliseconds →
    ∃ result, state.dev.request = .completed result

theorem afterStart_ne_fetching {call other : ReadCall} (timed : 0 ≤ other.milliseconds) :
    call.afterStart ≠ .fetching other := by
  unfold ReadCall.afterStart
  split
  next => simp
  next untimed =>
    intro same
    cases same
    exact untimed timed

theorem Step.prompt (step : Step actor state after) (accounted : Accounted state)
    (prompt : Prompt state) : Prompt after := by
  cases step with
  | call call place => exact ⟨prompt.event, fun _ => Place.noConfusion⟩
  | @continued _ call place pending =>
      exact ⟨prompt.event, fun _ same timed => absurd same (afterStart_ne_fetching timed)⟩
  | @started _ call place idle =>
      exact ⟨fun _ => Bool.noConfusion,
        fun _ same timed => absurd same (afterStart_ne_fetching timed)⟩
  | refused place idle => exact ⟨Bool.noConfusion, fun _ => Place.noConfusion⟩
  | @awoken _ call place signalled =>
      have pending := accounted.reading (by rw [place]; trivial)
      exact ⟨fun _ => Bool.noConfusion, fun _ _ _ => prompt.event pending signalled⟩
  | timedOut place => exact ⟨prompt.event, fun _ => Place.noConfusion⟩
  | @fetched _ call bytesRead signalled place stays completed =>
      have idle := (fetch_dev state.dev call bytesRead).1
      exact ⟨fun pending => absurd (idle.symm.trans pending) Bool.false_ne_true,
        fun _ => Place.noConfusion⟩
  | failed signalled place stays completed => exact ⟨Bool.noConfusion, fun _ => Place.noConfusion⟩
  | close place => exact ⟨prompt.event, fun _ => Place.noConfusion⟩
  | complete rpt running fits => exact ⟨fun _ _ => ⟨_, rfl⟩, fun _ _ _ => ⟨_, rfl⟩⟩
  | completeError running => exact ⟨fun _ _ => ⟨_, rfl⟩, fun _ _ _ => ⟨_, rfl⟩⟩

theorem prompt_of_reachable (reachable : system.Reachable state) : Prompt state := by
  apply reachable.invariant
  · rintro _ ⟨inputReportLength, readBuf, rfl⟩
    exact ⟨Bool.noConfusion, fun _ => Place.noConfusion⟩
  · rintro before after earlier holds ⟨actor, step⟩
    exact step.prompt (accounted_of_reachable earlier) holds

/-- Each step of a call brings it nearer to its end. -/
theorem Step.stepsLeft (step : Step .caller state after) {call : ReadCall}
    (inside : state.place.call = some call) :
    after.place.stepsLeft < state.place.stepsLeft := by
  have later : ∀ call : ReadCall, call.afterStart.stepsLeft ≤ 2 := by
    intro call
    unfold ReadCall.afterStart
    split <;> simp [Place.stepsLeft]
  cases step with
  | call call place => simp [place, Place.call] at inside
  | continued place pending =>
      rw [place]
      exact Nat.lt_succ_of_le (later _)
  | started place idle =>
      rw [place]
      exact Nat.lt_succ_of_le (later _)
  | refused place idle => simp [place, Place.stepsLeft]
  | awoken place signalled => simp [place, Place.stepsLeft]
  | timedOut place => simp [place, Place.stepsLeft]
  | fetched signalled place stays completed => simp [place, Place.stepsLeft]
  | failed signalled place stays completed => simp [place, Place.stepsLeft]
  | close place => simp [place, Place.call] at inside

/-- A call with a timeout never waits for a report: in every reachable state it can go on
without a step of the system, and each of its at most three steps brings it nearer to
its end. -/
theorem timed_call_returns (reachable : system.Reachable state) {call : ReadCall}
    (inside : state.place.call = some call) (timed : 0 ≤ call.milliseconds) :
    (∃ after, Step .caller state after) ∧
      ∀ after, Step .caller state after →
        after.place.stepsLeft < state.place.stepsLeft := by
  refine ⟨?_, fun after step => step.stepsLeft inside⟩
  rcases place : state.place with last | own | own | own | -
  · simp [place, Place.call] at inside
  · cases pending : state.dev.readPending with
    | true => exact ⟨_, .continued place pending⟩
    | false => exact ⟨_, .started place pending⟩
  · exact ⟨_, .timedOut place⟩
  · have same : own = call := by
      simpa [place, Place.call] using inside
    obtain ⟨result, completed⟩ := (prompt_of_reachable reachable).timed own place (same ▸ timed)
    cases result with
    | none => exact ⟨_, .failed false place Bool.noConfusion completed⟩
    | some bytesRead => exact ⟨_, .fetched false place Bool.noConfusion completed⟩
  · simp [place, Place.call] at inside

theorem timed_call_returns_without_report :
    ∃ state : Overlapped, state.place = .waiting ⟨64, 500⟩ ∧ state.dev.request = .running ∧
      (∃ after, Step .caller state after) ∧
      ∀ after, Step .caller state after →
        after.place.stepsLeft < state.place.stepsLeft := by
  have start : system.Reachable (opened 64 []) := .of_initial ⟨64, [], rfl⟩
  have calling := start.next ⟨_, .call ⟨64, 500⟩ rfl⟩
  have waiting := calling.next ⟨_, .started rfl rfl⟩
  exact ⟨_, rfl, rfl, @timed_call_returns _ waiting ⟨64, 500⟩ rfl (by decide)⟩

/-! ## Closing -/

/-- The call that is under way is one of `hid_read`. -/
def Untimed (state : Overlapped) : Prop :=
  ∀ call, state.place.call = some call → call.milliseconds < 0

/-- Between two calls no read is left running. -/
structure Tidy (state : Overlapped) : Prop where
  idle : ¬ state.place.Reading → state.dev.readPending = false
  unwatched : ∀ call, state.place ≠ .waiting call

theorem afterStart_of_untimed {call : ReadCall} (untimed : call.milliseconds < 0) :
    call.afterStart = .fetching call :=
  if_neg (Int.not_le.mpr untimed)

theorem Step.tidy (step : Step actor state after) (untimed : Untimed state)
    (tidy : Tidy state) : Tidy after := by
  cases step with
  | call call place =>
      refine ⟨fun _ => tidy.idle ?_, fun _ => Place.noConfusion⟩
      rw [place]
      exact id
  | continued place pending =>
      rw [afterStart_of_untimed (untimed _ (by rw [place]; rfl))]
      exact ⟨fun outside => absurd trivial outside, fun _ => Place.noConfusion⟩
  | started place idle =>
      rw [afterStart_of_untimed (untimed _ (by rw [place]; rfl))]
      exact ⟨fun outside => absurd trivial outside, fun _ => Place.noConfusion⟩
  | refused place idle => exact ⟨fun _ => rfl, fun _ => Place.noConfusion⟩
  | awoken place signalled => exact absurd place (tidy.unwatched _)
  | timedOut place => exact absurd place (tidy.unwatched _)
  | @fetched _ call bytesRead signalled place stays completed =>
      exact ⟨fun _ => (fetch_dev state.dev call bytesRead).1, fun _ => Place.noConfusion⟩
  | failed signalled place stays completed => exact ⟨fun _ => rfl, fun _ => Place.noConfusion⟩
  | close place =>
      refine ⟨fun _ => tidy.idle ?_, fun _ => Place.noConfusion⟩
      rw [place]
      exact id
  | complete rpt running fits => exact ⟨tidy.idle, tidy.unwatched⟩
  | completeError running => exact ⟨tidy.idle, tidy.unwatched⟩

/-- Where all calls are calls of `hid_read`, `hid_close` frees no buffer that the system
may still fill.  After a call with a timeout it may do so. -/
theorem hidClose_frees_idle_buffer :
    (∀ state, (system.within Untimed).Reachable state → state.place = .closed →
      state.dev.request = .idle) ∧
    ∃ state, system.Reachable state ∧ state.place = .closed ∧ state.dev.request = .running := by
  constructor
  · intro state reachable closed
    have both : Accounted state ∧ Untimed state ∧ Tidy state := by
      apply reachable.invariant
      · rintro _ ⟨inputReportLength, readBuf, rfl⟩
        refine ⟨accounted_of_reachable (.of_initial ⟨_, _, rfl⟩), ?_, fun _ => rfl, ?_⟩
        · intro call inside
          cases inside
        · exact fun _ => Place.noConfusion
      · rintro before after _ ⟨accounted, untimed, tidy⟩ ⟨⟨actor, step⟩, next⟩
        exact ⟨step.accounted accounted, next, step.tidy untimed tidy⟩
    obtain ⟨accounted, -, tidy⟩ := both
    apply accounted.idle
    apply tidy.idle
    rw [closed]
    exact id
  · have start : system.Reachable (opened 64 []) := .of_initial ⟨64, [], rfl⟩
    have calling := start.next ⟨_, .call ⟨64, 0⟩ rfl⟩
    have waiting := calling.next ⟨_, .started rfl rfl⟩
    have returned := waiting.next ⟨_, .timedOut rfl⟩
    exact ⟨_, returned.next ⟨_, .close rfl⟩, rfl, rfl⟩

end Overlapped

end MhWallet.Windows
