import MhWallet.Toolbox

/-!
Contract: the queue of input reports that the read thread of `libusb/hid.c` and
of `mac/hid.c` fills and `hid_read_timeout` empties.

The two files keep the queue in the same way.  They differ in when the thread
signals the condition, and in what a reader does that has been woken.

Owns: the shared fields, `return_data`, the part of the callback that attaches a
report, and each decision of `hid_read_timeout` between two waits.

Does not own: the mutex, the condition, and in which order threads run.
-/

namespace MhWallet.ReadThread

/-- The two files. -/
inductive Backend where
  | libusb
  | mac
deriving DecidableEq, Repr

/-- The fields of `hid_device_` that the read thread shares with the readers. -/
structure Device where
  inputReports : List Bytes
  shutdownThread : Bool
  disconnected : Bool
deriving DecidableEq, Repr

/-- What `hid_read_timeout` looks at before it goes to sleep. -/
def Device.down : Backend → Device → Bool
  | .libusb, dev => dev.shutdownThread
  | .mac, dev => dev.disconnected || dev.shutdownThread

/-- The arguments of a call of `hid_read_timeout`. -/
structure ReadCall where
  length : Nat
  milliseconds : Int
deriving DecidableEq, Repr

namespace ReadCall

def Blocking (call : ReadCall) : Prop := call.milliseconds = -1

def Timed (call : ReadCall) : Prop := 0 < call.milliseconds

instance (call : ReadCall) : Decidable call.Blocking :=
  inferInstanceAs (Decidable (call.milliseconds = -1))

instance (call : ReadCall) : Decidable call.Timed :=
  inferInstanceAs (Decidable (0 < call.milliseconds))

end ReadCall

/-- `hid_read` on a device that `hid_set_nonblocking` has not made non-blocking. -/
def hidRead (length : Nat) : ReadCall := ⟨length, -1⟩

/-- The value that `hid_read_timeout` returns and the bytes that it stores. -/
structure Returned where
  bytesRead : Int
  data : Bytes
deriving DecidableEq, Repr

/-- `return_data` for the first report of the list. -/
def returnData (rpt : Bytes) (length : Nat) : Returned :=
  let len := if length < rpt.length then length else rpt.length
  ⟨len, rpt.take len⟩

/-- How `pthread_cond_wait` or `pthread_cond_timedwait` returns. -/
inductive Woken where
  | ok
  | timedOut
  | failed
deriving DecidableEq, Repr

/-- What a call of `hid_read_timeout` does at a point of its code. -/
inductive Decision where
  /-- It takes the first report off the list and returns it. -/
  | takes (rpt : Bytes) (rest : List Bytes)
  | returns (bytesRead : Int)
  /-- It goes to the head of the loop around the wait. -/
  | loops
  | sleeps
deriving DecidableEq, Repr

/-- The tests that come before any waiting. -/
def firstTests (backend : Backend) (dev : Device) (call : ReadCall) : Decision :=
  match dev.inputReports with
  | rpt :: rest => .takes rpt rest
  | [] =>
      if dev.down backend then .returns (-1)
      else if call.Blocking ∨ call.Timed then .loops
      else .returns 0

/-- The head of the loop around the wait, and what follows the loop. -/
def loopHead : Backend → Device → ReadCall → Decision
  | .libusb, dev, call =>
      match dev.inputReports with
      | rpt :: rest => if call.Blocking then .takes rpt rest else .returns (-1)
      | [] => if dev.shutdownThread then .returns (-1) else .sleeps
  | .mac, dev, _ =>
      match dev.inputReports with
      | rpt :: rest => .takes rpt rest
      | [] => .sleeps

/-- The code after the wait, up to the head of the loop. -/
def afterWait : Backend → Device → ReadCall → Woken → Decision
  | .libusb, dev, call, res =>
      if call.Blocking then .loops
      else
        match res with
        | .ok =>
            match dev.inputReports with
            | rpt :: rest => .takes rpt rest
            | [] => .loops
        | .timedOut => .returns 0
        | .failed => .returns (-1)
  | .mac, dev, call, res =>
      match res with
      | .ok => if dev.shutdownThread || dev.disconnected then .returns (-1) else .loops
      | .timedOut => if call.Blocking then .returns (-1) else .returns 0
      | .failed => .returns (-1)

/-- `num_queued` after the walk to the last report of the list. -/
def numQueued : List Bytes → Nat
  | [] => 0
  | [_] => 0
  | _ :: second :: rest => numQueued (second :: rest) + 1

/-- The callback attaches a report: the report that it pops again, and the list. -/
def attach (reports : List Bytes) (rpt : Bytes) : Option Bytes × List Bytes :=
  match reports with
  | [] => (none, [rpt])
  | first :: rest =>
      if 30 < numQueued (first :: rest) then (some first, rest ++ [rpt])
      else (none, first :: rest ++ [rpt])

/-- Whether the callback signals the condition. -/
def signals : Backend → List Bytes → Bool
  | .libusb, reports => reports.isEmpty
  | .mac, _ => true

/-- The largest number of reports in the list. -/
def capacity : Nat := 32

/-! ## The list -/

theorem numQueued_eq (reports : List Bytes) : numQueued reports = reports.length - 1 := by
  induction reports using numQueued.induct with
  | case1 => rfl
  | case2 rpt => rfl
  | case3 first second rest inductionHypothesis =>
      rw [numQueued, inductionHypothesis]
      simp

/-- The list and the report popped are the list before, with the new report at
its end. -/
theorem attach_append (reports : List Bytes) (rpt : Bytes) :
    (attach reports rpt).1.toList ++ (attach reports rpt).2 = reports ++ [rpt] := by
  cases reports with
  | nil => rfl
  | cons first rest =>
      rw [attach]
      split <;> rfl

/-- A report is popped exactly when the list was full. -/
theorem attach_fst (reports : List Bytes) (rpt : Bytes) :
    (attach reports rpt).1 = if capacity ≤ reports.length then reports.head? else none := by
  cases reports with
  | nil => rfl
  | cons first rest =>
      rw [attach, numQueued_eq, capacity]
      by_cases full : 32 ≤ (first :: rest).length
      · have popped : 30 < (first :: rest).length - 1 := by omega
        rw [if_pos popped, if_pos full]
        rfl
      · have kept : ¬ 30 < (first :: rest).length - 1 := by omega
        rw [if_neg kept, if_neg full]

theorem attach_length (reports : List Bytes) (rpt : Bytes) :
    (attach reports rpt).2.length =
      if capacity ≤ reports.length then reports.length else reports.length + 1 := by
  have balance := congrArg List.length (attach_append reports rpt)
  rw [List.length_append, List.length_append, attach_fst] at balance
  by_cases full : capacity ≤ reports.length
  · rw [if_pos full] at balance ⊢
    cases reports with
    | nil => simp [capacity] at full
    | cons first rest =>
        simp at balance ⊢
        omega
  · rw [if_neg full] at balance ⊢
    simpa using balance

theorem attach_length_le {reports : List Bytes} (bounded : reports.length ≤ capacity)
    (rpt : Bytes) : (attach reports rpt).2.length ≤ capacity := by
  rw [attach_length]
  split <;> omega

theorem attach_ne_nil (reports : List Bytes) (rpt : Bytes) : (attach reports rpt).2 ≠ [] := by
  cases reports with
  | nil => simp [attach]
  | cons first rest =>
      rw [attach]
      split <;> simp

/-! ## The decisions -/

/-- What a decision takes is the first report of the list. -/
def Decision.Takes (decision : Decision) (dev : Device) : Prop :=
  ∀ rpt rest, decision = .takes rpt rest → dev.inputReports = rpt :: rest

theorem firstTests_takes (backend : Backend) (dev : Device) (call : ReadCall) :
    (firstTests backend dev call).Takes dev := by
  intro rpt rest taken
  grind [firstTests]

theorem loopHead_takes (backend : Backend) (dev : Device) (call : ReadCall) :
    (loopHead backend dev call).Takes dev := by
  intro rpt rest taken
  cases backend with
  | libusb => grind [loopHead]
  | mac => grind [loopHead]

theorem afterWait_takes (backend : Backend) (dev : Device) (call : ReadCall) (res : Woken) :
    (afterWait backend dev call res).Takes dev := by
  intro rpt rest taken
  cases backend with
  | libusb => cases res <;> grind [afterWait]
  | mac => cases res <;> grind [afterWait]

/-- Only the head of the loop makes a thread sleep. -/
theorem firstTests_ne_sleeps (backend : Backend) (dev : Device) (call : ReadCall) :
    firstTests backend dev call ≠ .sleeps := by
  grind [firstTests]

theorem afterWait_ne_sleeps (backend : Backend) (dev : Device) (call : ReadCall) (res : Woken) :
    afterWait backend dev call res ≠ .sleeps := by
  cases backend with
  | libusb => cases res <;> grind [afterWait]
  | mac => cases res <;> grind [afterWait]

theorem loopHead_ne_loops (backend : Backend) (dev : Device) (call : ReadCall) :
    loopHead backend dev call ≠ .loops := by
  cases backend with
  | libusb => grind [loopHead]
  | mac => grind [loopHead]

/-- A thread sleeps only on an empty list. -/
theorem loopHead_sleeps {backend : Backend} {dev : Device} {call : ReadCall}
    (sleeps : loopHead backend dev call = .sleeps) : dev.inputReports = [] := by
  cases backend with
  | libusb => grind [loopHead]
  | mac => grind [loopHead]

/-- `libusb/hid.c` tests the flag right before it sleeps. -/
theorem loopHead_libusb_sleeps {dev : Device} {call : ReadCall}
    (sleeps : loopHead .libusb dev call = .sleeps) : dev.down .libusb = false := by
  grind [loopHead, Device.down]

theorem firstTests_loops {backend : Backend} {dev : Device} {call : ReadCall}
    (loops : firstTests backend dev call = .loops) : dev.down backend = false := by
  grind [firstTests]

/-- `mac/hid.c` tests the flags right after it has slept. -/
theorem afterWait_mac_loops {dev : Device} {call : ReadCall} {res : Woken}
    (loops : afterWait .mac dev call res = .loops) : dev.down .mac = false := by
  cases res <;> grind [afterWait, Device.down]

end MhWallet.ReadThread
