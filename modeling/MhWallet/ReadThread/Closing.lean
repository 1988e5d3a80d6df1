import MhWallet.ReadThread.Lifecycle

/-!
Contract: whether `hid_close` of `libusb/hid.c` can return.

`hid_close` joins the read thread, and the read thread ends only after the
callback has seen a transfer fail or come back cancelled.  Nothing calls the
callback unless a transfer is submitted, and the result of the first submission
is not looked at.

Owns: both directions, for every state in which `hid_close` is under way.
-/

namespace MhWallet.ReadThread

open MhWallet.Effect

/-- In the callback, which submits the transfer again. -/
def Reader.InCallback : Reader → Prop
  | .attaching _ _ | .submitting _ => True
  | _ => False

/-- In one of the two loops, outside the callback. -/
def Reader.Idles : Reader → Prop
  | .polling _ | .handling _ => True
  | _ => False

namespace Monitor

variable {ι : Type} [DecidableEq ι] {actor : Actor ι} {state after : Monitor ι}

theorem carryOut_pending (client : ι) (call : ReadCall) (decision : Decision) :
    (state.carryOut client call decision).pending = state.pending := by
  cases decision <;> rfl

theorem carryOut_closer (client : ι) (call : ReadCall) (decision : Decision) :
    (state.carryOut client call decision).closer = state.closer := by
  cases decision <;> rfl

/-! ## Without a first transfer -/

/-- No transfer will ever come back. -/
structure Starved (state : Monitor ι) : Prop where
  pending : state.pending = false
  cancelled : state.cancelled = false
  reader : state.reader.Idles
  closer : state.closer = .opened ∨ state.closer = .closing

theorem Starved.carryOut (starved : Starved state) (client : ι) (call : ReadCall)
    (decision : Decision) : Starved (state.carryOut client call decision) := by
  refine ⟨?_, ?_, ?_, ?_⟩
  · rw [carryOut_pending, starved.pending]
  · rw [carryOut_cancelled, starved.cancelled]
  · rw [carryOut_reader]
    exact starved.reader
  · rw [carryOut_closer]
    exact starved.closer

theorem Step.starved (step : Step .libusb actor state after) (starved : Starved state) :
    Starved after := by
  have idles := starved.reader
  cases step with
  | call call place opened => exact ⟨starved.pending, starved.cancelled, idles, starved.closer⟩
  | lock place free => exact ⟨starved.pending, starved.cancelled, idles, starved.closer⟩
  | test place => exact starved.carryOut _ _ _
  | loop place => exact starved.carryOut _ _ _
  | wake res place timed => exact ⟨starved.pending, starved.cancelled, idles, starved.closer⟩
  | relock place free => exact ⟨starved.pending, starved.cancelled, idles, starved.closer⟩
  | resume place => exact starved.carryOut _ _ _
  | @poll _ loop place =>
      cases loop with
      | running =>
          simp only [Monitor.poll]
          split <;> exact ⟨starved.pending, starved.cancelled, trivial, starved.closer⟩
      | cancelling =>
          simp only [Monitor.poll]
          rw [if_neg (by simp [starved.cancelled])]
          exact ⟨starved.pending, starved.cancelled, trivial, starved.closer⟩
  | dispatch status libusb place pending =>
      exact absurd (starved.pending.symm.trans pending) Bool.false_ne_true
  | handled libusb place => exact ⟨starved.pending, starved.cancelled, trivial, starved.closer⟩
  | broken libusb place => exact ⟨starved.pending, starved.cancelled, trivial, starved.closer⟩
  | submit submitted place =>
      rw [place] at idles
      exact idles.elim
  | report rpt mac place => cases mac
  | removal mac place => cases mac
  | returned code mac place => cases mac
  | attach signalled place free wakes =>
      rw [place] at idles
      exact idles.elim
  | broadcast place free =>
      rw [place] at idles
      exact idles.elim
  | close opened quiet => exact ⟨starved.pending, starved.cancelled, idles, .inr rfl⟩
  | join place reader =>
      rw [reader] at idles
      exact idles.elim
  | drain place free =>
      rcases starved.closer with opened | closing
      · exact absurd (place.symm.trans opened) (by decide)
      · exact absurd (place.symm.trans closing) (by decide)

/-! ## With a first transfer -/

/-- Until the callback has seen the end of the transfer, the transfer is either
submitted or in the callback. -/
def Fed (state : Monitor ι) : Prop :=
  state.cancelled = true ∨ state.pending = true ∨ state.reader.InCallback

/-- No call is under way once `hid_close` has been called. -/
def Deserted (state : Monitor ι) : Prop :=
  state.closer ≠ .opened → ∀ client, ∃ last, state.place client = .outside last

theorem Fed.carryOut (fed : Fed state) (client : ι) (call : ReadCall) (decision : Decision) :
    Fed (state.carryOut client call decision) := by
  rw [Fed, carryOut_pending, carryOut_cancelled, carryOut_reader]
  exact fed

omit [DecidableEq ι] in
/-- Outside the callback the transfer is submitted, or its end has been seen. -/
theorem Fed.outside (fed : Fed state) (outside : ¬ state.reader.InCallback) :
    state.cancelled = true ∨ state.pending = true := by
  rcases fed with cancelled | pending | callback
  · exact .inl cancelled
  · exact .inr pending
  · exact absurd callback outside

theorem Step.fed (step : Step .libusb actor state after) (fed : Fed state) : Fed after := by
  have away : ¬ state.reader.InCallback → after.cancelled = state.cancelled →
      after.pending = state.pending → Fed after := by
    intro outside cancelled pending
    rcases fed.outside outside with seen | submitted
    · exact .inl (cancelled.trans seen)
    · exact .inr (.inl (pending.trans submitted))
  cases step with
  | call call place opened => exact fed
  | lock place free => exact fed
  | test place => exact fed.carryOut _ _ _
  | loop place => exact fed.carryOut _ _ _
  | wake res place timed => exact fed
  | relock place free => exact fed
  | resume place => exact fed.carryOut _ _ _
  | @poll _ loop place =>
      have outside : ¬ state.reader.InCallback := by
        rw [place]
        exact id
      apply away outside
      · cases loop <;> simp only [Monitor.poll] <;> split <;> rfl
      · cases loop <;> simp only [Monitor.poll] <;> split <;> rfl
  | dispatch status libusb place pending =>
      cases status with
      | completed rpt => exact .inr (.inr trivial)
      | cancelled => exact .inl rfl
      | noDevice => exact .inl rfl
      | timedOut => exact .inr (.inr trivial)
      | other => exact .inr (.inr trivial)
  | handled libusb place =>
      apply away _ rfl rfl
      rw [place]
      exact id
  | broken libusb place =>
      apply away _ rfl rfl
      rw [place]
      exact id
  | submit submitted place =>
      cases submitted with
      | true => exact .inr (.inl rfl)
      | false => exact .inl rfl
  | report rpt mac place => cases mac
  | removal mac place => cases mac
  | returned code mac place => cases mac
  | attach signalled place free wakes => exact .inr (.inr trivial)
  | broadcast place free =>
      apply away _ rfl rfl
      rw [place]
      exact id
  | close opened quiet => exact fed
  | join place reader =>
      apply away _ rfl rfl
      rw [reader]
      exact id
  | drain place free => exact fed

omit [DecidableEq ι] in
theorem Deserted.outside (deserted : Deserted state) (closer : state.closer ≠ .opened)
    {client : ι} {place : Place} (there : state.place client = place)
    (inside : ∀ last, place ≠ .outside last) : False := by
  obtain ⟨last, outside⟩ := deserted closer client
  exact inside last (there.symm.trans outside)

theorem Step.deserted {backend : Backend} (step : Step backend actor state after)
    (deserted : Deserted state) : Deserted after := by
  cases step with
  | call call place opened => exact fun closer => absurd opened closer
  | lock place free => exact fun closer => (deserted.outside closer place (by simp)).elim
  | test place =>
      intro closer
      rw [carryOut_closer] at closer
      exact (deserted.outside closer place (by simp)).elim
  | loop place =>
      intro closer
      rw [carryOut_closer] at closer
      exact (deserted.outside closer place (by simp)).elim
  | wake res place timed => exact fun closer => (deserted.outside closer place (by simp)).elim
  | relock place free => exact fun closer => (deserted.outside closer place (by simp)).elim
  | resume place =>
      intro closer
      rw [carryOut_closer] at closer
      exact (deserted.outside closer place (by simp)).elim
  | @poll _ loop place =>
      rw [Deserted, poll_place]
      cases loop <;> cases backend <;> simp only [Monitor.poll] <;> split <;> exact deserted
  | dispatch status libusb place pending => cases status <;> exact deserted
  | handled libusb place => exact deserted
  | broken libusb place => exact deserted
  | submit submitted place => cases submitted <;> exact deserted
  | report rpt mac place => exact deserted
  | removal mac place => exact deserted
  | returned code mac place => cases code <;> exact deserted
  | attach signalled place free wakes =>
      intro closer client
      obtain ⟨last, outside⟩ := deserted closer client
      refine ⟨last, ?_⟩
      simp only [attachReport, outside]
      split <;> rfl
  | broadcast place free =>
      intro closer client
      obtain ⟨last, outside⟩ := deserted closer client
      exact ⟨last, congrArg Place.woken outside⟩
  | close opened quiet => exact fun _ => quiet
  | join place reader =>
      intro _
      apply deserted
      rw [place]
      decide
  | drain place free =>
      intro _
      apply deserted
      rw [place]
      decide

/-- `hid_close` has set the flag, and the thread of `libusb/hid.c` knows no barrier. -/
structure Shut (state : Monitor ι) : Prop where
  shutdown : state.closer ≠ .opened → state.dev.shutdownThread = true
  reader : state.reader ≠ .parked

theorem Shut.carryOut (shut : Shut state) (client : ι) (call : ReadCall) (decision : Decision) :
    Shut (state.carryOut client call decision) := by
  constructor
  · rw [carryOut_closer, carryOut_shutdown]
    exact shut.shutdown
  · rw [carryOut_reader]
    exact shut.reader

theorem Step.shut (step : Step .libusb actor state after) (shut : Shut state) : Shut after := by
  cases step with
  | call call place opened => exact ⟨shut.shutdown, shut.reader⟩
  | lock place free => exact ⟨shut.shutdown, shut.reader⟩
  | test place => exact shut.carryOut _ _ _
  | loop place => exact shut.carryOut _ _ _
  | wake res place timed => exact ⟨shut.shutdown, shut.reader⟩
  | relock place free => exact ⟨shut.shutdown, shut.reader⟩
  | resume place => exact shut.carryOut _ _ _
  | @poll _ loop place =>
      cases loop <;> simp only [Monitor.poll] <;> split <;> exact ⟨shut.shutdown, by simp⟩
  | dispatch status libusb place pending =>
      cases status with
      | completed rpt => exact ⟨shut.shutdown, by simp [readCallback]⟩
      | cancelled => exact ⟨fun _ => rfl, shut.reader⟩
      | noDevice => exact ⟨fun _ => rfl, shut.reader⟩
      | timedOut => exact ⟨shut.shutdown, by simp [readCallback]⟩
      | other => exact ⟨shut.shutdown, by simp [readCallback]⟩
  | handled libusb place => exact ⟨shut.shutdown, by simp⟩
  | broken libusb place => exact ⟨shut.shutdown, by simp⟩
  | submit submitted place =>
      cases submitted with
      | true => exact ⟨shut.shutdown, by simp [Monitor.submit]⟩
      | false => exact ⟨fun _ => rfl, by simp [Monitor.submit]⟩
  | report rpt mac place => cases mac
  | removal mac place => cases mac
  | returned code mac place => cases mac
  | attach signalled place free wakes => exact ⟨shut.shutdown, by simp [attachReport]⟩
  | broadcast place free => exact ⟨shut.shutdown, by simp [Monitor.broadcast]⟩
  | close opened quiet => exact ⟨fun _ => rfl, shut.reader⟩
  | join place reader =>
      refine ⟨fun _ => shut.shutdown ?_, by simp⟩
      rw [place]
      decide
  | drain place free =>
      refine ⟨fun _ => shut.shutdown ?_, shut.reader⟩
      rw [place]
      decide

/-! ## The end of the read thread -/

/-- A run goes on from here to the end of `hid_close`. -/
def Closes (state : Monitor ι) : Prop :=
  ∃ final, (system ι .libusb).Runs state final ∧ final.closer = .freed

theorem Step.closes (step : Step .libusb actor state after) (closes : Closes after) :
    Closes state := by
  obtain ⟨final, ran, freed⟩ := closes
  exact ⟨final, .head ⟨actor, step⟩ ran, freed⟩

/-- `hid_close` waits for the read thread. -/
structure Joining (state : Monitor ι) : Prop where
  closing : state.closer = .closing
  free : state.holder = none
  shutdown : state.dev.shutdownThread = true
  awake : ∀ client call, state.place client ≠ .asleep call

omit [DecidableEq ι] in
/-- A step of the read thread that leaves the rest of the state alone. -/
theorem Joining.same (joining : Joining state) (closer : after.closer = state.closer)
    (holder : after.holder = state.holder)
    (shutdown : after.dev.shutdownThread = state.dev.shutdownThread)
    (places : after.place = state.place) : Joining after := by
  refine ⟨?_, ?_, ?_, ?_⟩
  · rw [closer, joining.closing]
  · rw [holder, joining.free]
  · rw [shutdown, joining.shutdown]
  · rw [places]
    exact joining.awake

theorem Joining.closes_of_finished (joining : Joining state) (place : state.reader = .finished) :
    Closes state := by
  have reader : state.reader = joinable .libusb := place
  apply (Step.join joining.closing reader).closes
  exact ⟨_, .single ⟨.closer, .drain rfl joining.free⟩, rfl⟩

theorem Joining.closes_of_leaving (joining : Joining state) (place : state.reader = .leaving) :
    Closes state := by
  apply (Step.broadcast place joining.free).closes
  apply Joining.closes_of_finished _ rfl
  refine ⟨joining.closing, joining.free, joining.shutdown, ?_⟩
  intro client call asleep
  simp only [broadcast] at asleep
  cases there : state.place client <;> simp [there, Place.woken] at asleep

/-- The second loop ends once the callback has seen the end of the transfer. -/
theorem Joining.closes_of_cancelled (joining : Joining state)
    (place : state.reader = .polling .cancelling) (cancelled : state.cancelled = true) :
    Closes state := by
  apply (Step.poll place).closes
  simp only [poll, if_pos cancelled]
  apply Joining.closes_of_leaving _ rfl
  exact joining.same rfl rfl rfl rfl

/-- A transfer that was submitted comes back cancelled. -/
theorem Joining.closes_of_pending (joining : Joining state)
    (place : state.reader = .handling .cancelling) (pending : state.pending = true) :
    Closes state := by
  apply (Step.dispatch .cancelled rfl place pending).closes
  have back : (state.readCallback .cancelling .cancelled).reader = .handling .cancelling := place
  apply (Step.handled rfl back).closes
  apply Joining.closes_of_cancelled _ rfl rfl
  exact ⟨joining.closing, joining.free, rfl, joining.awake⟩

theorem Joining.closes_of_cancelling (joining : Joining state)
    (place : state.reader = .polling .cancelling)
    (fed : state.cancelled = true ∨ state.pending = true) : Closes state := by
  by_cases cancelled : state.cancelled = true
  · exact joining.closes_of_cancelled place cancelled
  · apply (Step.poll place).closes
    simp only [poll, if_neg cancelled]
    apply Joining.closes_of_pending _ rfl
    · exact fed.resolve_left cancelled
    · exact joining.same rfl rfl rfl rfl

/-- The head of either loop: the first one ends because of the flag. -/
theorem Joining.closes_of_polling (joining : Joining state) {loop : EventLoop}
    (place : state.reader = .polling loop)
    (fed : state.cancelled = true ∨ state.pending = true) : Closes state := by
  cases loop with
  | running =>
      have down : state.dev.down .libusb = true := joining.shutdown
      apply (Step.poll place).closes
      simp only [poll, if_pos down]
      exact Joining.closes_of_cancelling (joining.same rfl rfl rfl rfl) rfl fed
  | cancelling => exact joining.closes_of_cancelling place fed

theorem Joining.closes_of_handling (joining : Joining state) {loop : EventLoop}
    (place : state.reader = .handling loop)
    (fed : state.cancelled = true ∨ state.pending = true) : Closes state := by
  apply (Step.handled rfl place).closes
  exact Joining.closes_of_polling (joining.same rfl rfl rfl rfl) rfl fed

theorem Joining.closes_of_submitting (joining : Joining state) {loop : EventLoop}
    (place : state.reader = .submitting loop) : Closes state := by
  apply (Step.submit true place).closes
  apply Joining.closes_of_handling _ rfl (.inr rfl)
  exact joining.same rfl rfl rfl rfl

theorem Joining.closes_of_attaching (joining : Joining state) {loop : EventLoop} {rpt : Bytes}
    (place : state.reader = .attaching loop rpt) : Closes state := by
  apply (Step.attach none place joining.free joining.awake).closes
  have places : (state.attachReport .libusb loop rpt none).place = state.place := by
    funext client
    simp [attachReport]
  exact Joining.closes_of_submitting (joining.same rfl rfl rfl places) rfl

theorem Joining.closes (joining : Joining state) (fed : Fed state)
    (reader : state.reader ≠ .parked) : Closes state := by
  rcases place : state.reader with loop | loop | ⟨loop, rpt⟩ | loop | _ | _ | _
  · apply joining.closes_of_polling place
    apply fed.outside
    rw [place]
    exact id
  · apply joining.closes_of_handling place
    apply fed.outside
    rw [place]
    exact id
  · exact joining.closes_of_attaching place
  · exact joining.closes_of_submitting place
  · exact joining.closes_of_leaving place
  · exact absurd place reader
  · exact joining.closes_of_finished place

/-! ## Both directions -/

/-- A run that starts with a submitted transfer and is in `hid_close`. -/
private theorem joining_of_runs (ran : (system ι .libusb).Runs (opened true) state)
    (closing : state.closer = .closing) : Joining state ∧ Fed state ∧ Shut state := by
  have closer : state.closer ≠ .opened := by
    rw [closing]
    decide
  have fed : Fed state := keeps_of_step Step.fed ran (.inr (.inl rfl))
  have deserted : Deserted state :=
    keeps_of_step Step.deserted ran fun closer => absurd rfl closer
  have shut : Shut state :=
    keeps_of_step Step.shut ran ⟨fun closer => absurd rfl closer, by simp [opened]⟩
  have exclusive : Exclusive state := exclusive_of_reachable ⟨_, ⟨true, rfl⟩, ran⟩
  refine ⟨⟨closing, ?_, shut.shutdown closer, ?_⟩, fed, shut⟩
  · -- Whoever held the mutex would be in a call.
    rcases holder : state.holder with _ | client
    · rfl
    · obtain ⟨last, outside⟩ := deserted closer client
      have holds := (exclusive client).mpr holder
      rw [outside] at holds
      exact holds.elim
  · intro client call asleep
    exact (deserted.outside closer asleep (by simp)).elim

/-- `hid_close` of `libusb/hid.c` can return if and only if the first transfer
was submitted. -/
theorem hidClose_returns_iff {submitted : Bool}
    (ran : (system ι .libusb).Runs (opened submitted) state)
    (closing : state.closer = .closing) :
    (∃ final, (system ι .libusb).Runs state final ∧ final.closer = .freed) ↔
      submitted = true := by
  constructor
  · rintro ⟨final, further, freed⟩
    by_contra unsubmitted
    have starved : Starved final :=
      keeps_of_step Step.starved (ran.trans further)
        ⟨Bool.eq_false_iff.mpr unsubmitted, rfl, trivial, .inl rfl⟩
    rcases starved.closer with opened | closing
    · exact absurd (freed.symm.trans opened) (by decide)
    · exact absurd (freed.symm.trans closing) (by decide)
  · rintro rfl
    obtain ⟨joining, fed, shut⟩ := joining_of_runs ran closing
    exact joining.closes fed shut.reader

/-- A device whose first transfer was not submitted. -/
theorem hidClose_returns_unless_unsubmitted :
    ∃ state : Monitor Unit, state.closer = .closing ∧
      ¬ ∃ final, (system Unit .libusb).Runs state final ∧ final.closer = .freed := by
  have ran : (system Unit .libusb).Runs (opened false)
      { (opened false).shutDown with closer := .closing } :=
    .single ⟨.closer, .close rfl fun _ => ⟨none, rfl⟩⟩
  exact ⟨_, rfl, fun returns =>
    Bool.false_ne_true ((hidClose_returns_iff ran rfl).mp returns)⟩

end Monitor

end MhWallet.ReadThread
