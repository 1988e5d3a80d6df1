import MhWallet.ReadThread.Wakeups

/-!
Contract: the wakeup that two readers of `libusb/hid.c` lose.

A report that finds the list empty wakes one of two sleeping threads.  A second
report that comes before that thread has run finds the list not empty, so nothing
is signalled for it.  The thread takes the first report and leaves the second one
to a thread that sleeps.

Owns: a run that ends there, and that no later report wakes the sleeper.
-/

namespace MhWallet.ReadThread

open MhWallet.Effect

namespace Monitor

variable {ι : Type} [DecidableEq ι] {actor : Actor ι} {state after : Monitor ι}

/-! ## The run -/

/-- A read of an empty list puts the thread to sleep. -/
theorem reachable_asleep (reachable : (system ι .libusb).Reachable state) (client : ι)
    {last : Option Returned} (place : state.place client = .outside last)
    (opened : state.closer = .opened) (free : state.holder = none)
    (empty : state.dev.inputReports = []) (up : state.dev.shutdownThread = false)
    (length : Nat) :
    (system ι .libusb).Reachable (state.move client (.asleep (hidRead length))) := by
  have tests : firstTests .libusb state.dev (hidRead length) = .loops := by
    simp [firstTests, empty, up, Device.down, hidRead, ReadCall.Blocking]
  have sleeps : loopHead .libusb state.dev (hidRead length) = .sleeps := by
    simp [loopHead, empty, up]
  have locking := reachable.next ⟨_, .call (hidRead length) place opened⟩
  have testing : (system ι .libusb).Reachable
      ((state.move client (.locking (hidRead length))).enter client
        (.testing (hidRead length))) :=
    locking.next ⟨_, .lock (by simp) free⟩
  have looping : (system ι .libusb).Reachable
      (((state.move client (.locking (hidRead length))).enter client
        (.testing (hidRead length))).carryOut client (hidRead length)
          (firstTests .libusb state.dev (hidRead length))) :=
    testing.next ⟨_, .test (by simp)⟩
  rw [tests] at looping
  have asleep : (system ι .libusb).Reachable
      ((((state.move client (.locking (hidRead length))).enter client
        (.testing (hidRead length))).carryOut client (hidRead length) .loops).carryOut
          client (hidRead length) (loopHead .libusb state.dev (hidRead length))) :=
    looping.next ⟨_, .loop (by simp [carryOut_place, reached])⟩
  rw [sleeps] at asleep
  simpa [carryOut, enter, move, free] using asleep

/-- The callback receives a report, attaches it and submits the transfer again. -/
theorem reachable_report (reachable : (system ι .libusb).Reachable state)
    (reader : state.reader = .handling .running) (pending : state.pending = true)
    (free : state.holder = none) (rpt : Bytes) (signalled : Option ι)
    (wakes : state.Wakes signalled) :
    (system ι .libusb).Reachable
      { state.attachReport .libusb .running rpt signalled with
        pending := true
        arrived := state.arrived ++ [rpt]
        reader := .handling .running } := by
  have received := reachable.next ⟨_, .dispatch (.completed rpt) rfl reader pending⟩
  have attached := received.next ⟨_, .attach signalled rfl free wakes⟩
  exact attached.next ⟨_, .submit true rfl⟩

/-- A thread that has been woken takes the first report. -/
theorem reachable_taken (reachable : (system ι .libusb).Reachable state) (client : ι)
    (length : Nat) {rpt : Bytes} {rest : List Bytes}
    (place : state.place client = .waking (hidRead length) .ok)
    (free : state.holder = none) (first : state.dev.inputReports = rpt :: rest) :
    (system ι .libusb).Reachable
      (state.carryOut client (hidRead length) (.takes rpt rest)) := by
  have loops : afterWait .libusb state.dev (hidRead length) .ok = .loops := by
    simp [afterWait, hidRead, ReadCall.Blocking]
  have takes : loopHead .libusb state.dev (hidRead length) = .takes rpt rest := by
    simp [loopHead, first, hidRead, ReadCall.Blocking]
  have locked := reachable.next ⟨_, .relock place free⟩
  have looping : (system ι .libusb).Reachable
      ((state.enter client (.resumed (hidRead length) .ok)).carryOut client
        (hidRead length) (afterWait .libusb state.dev (hidRead length) .ok)) :=
    locked.next ⟨_, .resume (by simp)⟩
  rw [loops] at looping
  have taken : (system ι .libusb).Reachable
      (((state.enter client (.resumed (hidRead length) .ok)).carryOut client
        (hidRead length) .loops).carryOut client (hidRead length)
          (loopHead .libusb state.dev (hidRead length))) :=
    looping.next ⟨_, .loop (by simp [carryOut_place, reached])⟩
  rw [takes] at taken
  simpa [carryOut, enter, move, free] using taken

/-- A sleeping thread, a report in the list, and everybody else outside. -/
structure Neglected (state : Monitor ι) (sleeper : ι) (call : ReadCall) : Prop where
  asleep : state.place sleeper = .asleep call
  others : ∀ other, other ≠ sleeper → ∃ last, state.place other = .outside last
  reports : state.dev.inputReports ≠ []
  up : state.dev.down .libusb = false

theorem exists_neglected {first second : ι} (differ : first ≠ second) (length : Nat)
    (taken left : Bytes) :
    ∃ state, (system ι .libusb).Reachable state ∧ Neglected state first (hidRead length) := by
  have start : (system ι .libusb).Reachable (opened true) := .of_initial ⟨true, rfl⟩
  have one := reachable_asleep start first rfl rfl rfl rfl rfl length
  have idle : ((opened true).move first (.asleep (hidRead length))).place second =
      .outside none := by
    simp [differ.symm, opened]
  have two := reachable_asleep one second idle rfl rfl rfl rfl length
  have polled := two.next ⟨_, .poll rfl⟩
  have handling : (system ι .libusb).Reachable
      { ((opened true).move first (.asleep (hidRead length))).move second
          (.asleep (hidRead length)) with reader := .handling .running } := polled
  have three := reachable_report handling rfl rfl rfl taken (some second)
    ⟨hidRead length, by simp⟩
  have four := reachable_report three rfl rfl rfl left (some first)
    ⟨hidRead length, by simp [attachReport, differ, differ.symm, move, Function.update_apply]⟩
  have woken := reachable_taken four second length
    (by simp [attachReport, signals, opened, move, Place.woken]) rfl rfl
  refine ⟨_, woken, ?_, ?_, ?_, ?_⟩
  · simp [carryOut, attachReport, attach, signals, differ, differ.symm, opened, move]
  · intro other another
    by_cases same : other = second
    · simp [carryOut, same]
    · simp [carryOut, attachReport, opened, move, Function.update_apply, same, another,
        Ne.symm same, Ne.symm another]
  · simp [carryOut]
  · rfl

/-! ## What follows it -/

/-- A step of the read thread that leaves the flags alone wakes nobody: the list is
not empty. -/
theorem Step.neglected {sleeper : ι} {call : ReadCall}
    (step : Step .libusb .reader state after) (flagged : Flagged .libusb state)
    (up : after.dev.down .libusb = false) (neglected : Neglected state sleeper call) :
    Neglected after sleeper call := by
  have kept : after.place = state.place → after.dev.inputReports = state.dev.inputReports →
      Neglected after sleeper call := by
    intro places reports
    refine ⟨?_, ?_, ?_, up⟩
    · rw [places, neglected.asleep]
    · rw [places]
      exact neglected.others
    · rw [reports]
      exact neglected.reports
  cases step with
  | @poll _ loop place =>
      apply kept (poll_place loop)
      cases loop <;> simp only [Monitor.poll] <;> split <;> rfl
  | dispatch status libusb place pending => cases status <;> exact kept rfl rfl
  | handled libusb place => exact kept rfl rfl
  | broken libusb place => exact kept rfl rfl
  | submit submitted place => cases submitted <;> exact kept rfl rfl
  | report rpt mac place => cases mac
  | removal mac place => cases mac
  | returned code mac place => cases mac
  | @attach _ loop rpt signalled place free wakes =>
      have places : (state.attachReport .libusb loop rpt signalled).place = state.place := by
        funext client
        simp [attachReport, signals, neglected.reports]
      refine ⟨?_, ?_, attach_ne_nil _ _, up⟩
      · rw [places, neglected.asleep]
      · rw [places]
        exact neglected.others
  | broadcast place free =>
      have down : state.dev.down .libusb = true := by
        apply flagged.leaves
        rw [place]
        trivial
      exact absurd (neglected.up.symm.trans down) Bool.false_ne_true

/-- With two readers, `libusb/hid.c` reaches a state in which a thread sleeps, a
report is in the list, no other thread is in a call, and the thread sleeps on
whatever the read thread does while the device is up. -/
theorem libusb_loses_wakeup {first second : ι} (differ : first ≠ second) (length : Nat) :
    ∃ state : Monitor ι, (system ι .libusb).Reachable state ∧
      Neglected state first (hidRead length) ∧
      ∀ later, Relation.ReflTransGen
          (fun before after => Step .libusb .reader before after ∧
            after.dev.down .libusb = false) state later →
        Neglected later first (hidRead length) := by
  obtain ⟨state, reachable, neglected⟩ := exists_neglected differ length [] []
  refine ⟨state, reachable, neglected, ?_⟩
  intro later ran
  have both : (system ι .libusb).Reachable later ∧
      Neglected later first (hidRead length) := by
    induction ran with
    | refl => exact ⟨reachable, neglected⟩
    | tail _ step inductionHypothesis =>
        obtain ⟨earlier, before⟩ := inductionHypothesis
        exact ⟨earlier.next ⟨_, step.1⟩,
          step.1.neglected (flagged_of_reachable earlier) step.2 before⟩
  exact both.2

theorem libusb_loses_wakeup_of_two :
    ∃ state : Monitor Bool, (system Bool .libusb).Reachable state ∧
      Neglected state false (hidRead 64) ∧
      ∀ later, Relation.ReflTransGen
          (fun before after => Step .libusb .reader before after ∧
            after.dev.down .libusb = false) state later →
        Neglected later false (hidRead 64) :=
  libusb_loses_wakeup Bool.false_ne_true 64

end Monitor

end MhWallet.ReadThread
