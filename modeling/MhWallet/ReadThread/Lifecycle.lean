import MhWallet.ReadThread.Accounts

/-!
Contract: the end of the read thread.

The flags are written without the mutex, so a reader may have tested them just
before one of them is set.  The broadcast that ends `read_thread` is made under
the mutex, hence after such a reader has gone to sleep.

Owns: what the read thread leaves behind, and how `hid_close` gets past it.

Does not own: how a thread learns of a report.
-/

namespace MhWallet.ReadThread

open MhWallet.Effect

/-- Past the loops of `read_thread`. -/
def Reader.PastLoops : Reader → Prop
  | .leaving | .parked | .finished => True
  | _ => False

/-- Past the broadcast. -/
def Reader.PastBroadcast : Reader → Prop
  | .parked | .finished => True
  | _ => False

theorem Reader.PastBroadcast.pastLoops {reader : Reader} (past : reader.PastBroadcast) :
    reader.PastLoops := by
  cases reader <;> trivial

/-- A thread in this place will not go to sleep unnoticed. -/
def Place.Settled (backend : Backend) : Place → Prop
  | .asleep _ => False
  -- `mac/hid.c` does not test the flags again before the thread sleeps.
  | .looping _ => backend = .libusb
  | _ => True

theorem Place.Settled.woken {backend : Backend} {place : Place}
    (settled : place.Settled backend ∨ ¬ place.Holds) : place.woken.Settled backend := by
  cases place <;> simp_all [Place.Settled, Place.woken, Place.Holds]

namespace Monitor

variable {ι : Type} [DecidableEq ι] {backend : Backend} {actor : Actor ι}
  {state after : Monitor ι}

/-- The flags that the read thread sets before it leaves its loops. -/
structure Flagged (backend : Backend) (state : Monitor ι) : Prop where
  cancelled : state.cancelled = true → state.dev.shutdownThread = true
  leaves : state.reader.PastLoops → state.dev.down backend = true

omit [DecidableEq ι] in
theorem down_of_shutdown (shutdown : state.dev.shutdownThread = true) :
    state.dev.down backend = true := by
  cases backend <;> simp [Device.down, shutdown]

theorem carryOut_reader (client : ι) (call : ReadCall) (decision : Decision) :
    (state.carryOut client call decision).reader = state.reader := by
  cases decision <;> rfl

theorem carryOut_cancelled (client : ι) (call : ReadCall) (decision : Decision) :
    (state.carryOut client call decision).cancelled = state.cancelled := by
  cases decision <;> rfl

theorem carryOut_shutdown (client : ι) (call : ReadCall) (decision : Decision) :
    (state.carryOut client call decision).dev.shutdownThread = state.dev.shutdownThread := by
  cases decision <;> rfl

theorem carryOut_down (client : ι) (call : ReadCall) (decision : Decision) :
    (state.carryOut client call decision).dev.down backend = state.dev.down backend := by
  cases decision <;> cases backend <;> rfl

theorem Flagged.carryOut (flagged : Flagged backend state) (client : ι) (call : ReadCall)
    (decision : Decision) : Flagged backend (state.carryOut client call decision) := by
  constructor
  · rw [carryOut_cancelled, carryOut_shutdown]
    exact flagged.cancelled
  · rw [carryOut_reader, carryOut_down]
    exact flagged.leaves

omit [DecidableEq ι] in
theorem Flagged.poll (flagged : Flagged backend state) (loop : EventLoop) :
    Flagged backend (state.poll backend loop) := by
  cases loop with
  | running =>
      simp only [Monitor.poll]
      split
      next down =>
        cases backend with
        | libusb => exact ⟨flagged.cancelled, fun past => past.elim⟩
        | mac => exact ⟨flagged.cancelled, fun _ => down⟩
      next => exact ⟨flagged.cancelled, fun past => past.elim⟩
  | cancelling =>
      simp only [Monitor.poll]
      split
      next cancelled =>
        exact ⟨flagged.cancelled, fun _ => down_of_shutdown (flagged.cancelled cancelled)⟩
      next => exact ⟨flagged.cancelled, fun past => past.elim⟩

theorem Step.flagged (step : Step backend actor state after) (flagged : Flagged backend state) :
    Flagged backend after := by
  cases step with
  | call call place opened => exact ⟨flagged.cancelled, flagged.leaves⟩
  | lock place free => exact ⟨flagged.cancelled, flagged.leaves⟩
  | test place => exact flagged.carryOut _ _ _
  | loop place => exact flagged.carryOut _ _ _
  | wake res place timed => exact ⟨flagged.cancelled, flagged.leaves⟩
  | relock place free => exact ⟨flagged.cancelled, flagged.leaves⟩
  | resume place => exact flagged.carryOut _ _ _
  | poll place => exact flagged.poll _
  | dispatch status libusb place pending =>
      have shut : Flagged backend { state.shutDown with pending := false, cancelled := true } :=
        ⟨fun _ => rfl, fun _ => down_of_shutdown rfl⟩
      cases status with
      | completed rpt => exact ⟨flagged.cancelled, fun past => past.elim⟩
      | cancelled => exact shut
      | noDevice => exact shut
      | timedOut => exact ⟨flagged.cancelled, fun past => past.elim⟩
      | other => exact ⟨flagged.cancelled, fun past => past.elim⟩
  | handled libusb place => exact ⟨flagged.cancelled, fun past => past.elim⟩
  | broken libusb place => exact ⟨flagged.cancelled, fun past => past.elim⟩
  | submit submitted place =>
      cases submitted with
      | true => exact ⟨flagged.cancelled, fun past => past.elim⟩
      | false => exact ⟨fun _ => rfl, fun _ => down_of_shutdown rfl⟩
  | report rpt mac place => exact ⟨flagged.cancelled, fun past => past.elim⟩
  | removal mac place =>
      refine ⟨flagged.cancelled, fun _ => ?_⟩
      rw [mac]
      rfl
  | returned code mac place =>
      cases code with
      | finished =>
          refine ⟨flagged.cancelled, fun _ => ?_⟩
          rw [mac]
          rfl
      | stopped => exact ⟨fun _ => rfl, fun _ => down_of_shutdown rfl⟩
      | timedOut => exact ⟨flagged.cancelled, fun past => past.elim⟩
      | handledSource => exact ⟨flagged.cancelled, fun past => past.elim⟩
  | attach signalled place free wakes =>
      refine ⟨flagged.cancelled, fun past => ?_⟩
      cases backend <;> exact past.elim
  | broadcast place free =>
      refine ⟨flagged.cancelled, fun _ => ?_⟩
      apply flagged.leaves
      rw [place]
      trivial
  | close opened quiet => exact ⟨fun _ => rfl, fun _ => down_of_shutdown rfl⟩
  | join place reader =>
      refine ⟨flagged.cancelled, fun _ => ?_⟩
      apply flagged.leaves
      rw [reader]
      cases backend <;> trivial
  | drain place free =>
      refine ⟨flagged.cancelled, ?_⟩
      cases backend <;> exact flagged.leaves

theorem flagged_of_reachable (reachable : (system ι backend).Reachable state) :
    Flagged backend state := by
  apply reachable.invariant
  · rintro _ ⟨submitted, rfl⟩
    exact ⟨fun cancelled => absurd cancelled Bool.false_ne_true, fun past => past.elim⟩
  · rintro before after _ flagged ⟨actor, step⟩
    exact step.flagged flagged

/-! ## The broadcast -/

/-- Once the read thread has made its broadcast, every thread is settled. -/
def Quiet (backend : Backend) (state : Monitor ι) : Prop :=
  state.reader.PastBroadcast → ∀ client, (state.place client).Settled backend

/-- A thread moves to a place at which it is settled. -/
theorem Quiet.of_places (quiet : Quiet backend state) (reader : after.reader = state.reader)
    {client : ι} {place : Place}
    (places : ∀ other, after.place other = if other = client then place else state.place other)
    (settled : state.reader.PastBroadcast → (state.place client).Settled backend →
      place.Settled backend) : Quiet backend after := by
  intro past other
  rw [reader] at past
  rw [places]
  split
  next => exact settled past (quiet past client)
  next => exact quiet past other

omit [DecidableEq ι] in
theorem Quiet.same_places (quiet : Quiet backend state) (places : after.place = state.place)
    (reader : after.reader.PastBroadcast → state.reader.PastBroadcast) : Quiet backend after := by
  intro past
  rw [places]
  exact quiet (reader past)

omit [DecidableEq ι] in
theorem poll_not_past (loop : EventLoop) : ¬ (state.poll backend loop).reader.PastBroadcast := by
  cases loop <;> cases backend <;> simp only [poll] <;> split <;> exact id

/-- A decision made when the flags say that the read thread may be over. -/
theorem Quiet.carryOut (quiet : Quiet backend state) (flagged : Flagged backend state)
    {client : ι} {call : ReadCall} {decision : Decision}
    (loops : decision = .loops → backend = .libusb ∨ state.dev.down backend = false)
    (sleeps : decision = .sleeps →
      (state.place client).Settled backend → state.dev.down backend = false) :
    Quiet backend (state.carryOut client call decision) := by
  apply quiet.of_places (carryOut_reader client call decision)
    (fun other => carryOut_place state client other call decision)
  intro past settled
  have down := flagged.leaves past.pastLoops
  cases decision with
  | takes rpt rest => trivial
  | returns bytesRead => trivial
  | loops =>
      rcases loops rfl with libusb | running
      · exact libusb
      · exact absurd (running.symm.trans down) Bool.false_ne_true
  | sleeps => exact absurd ((sleeps rfl settled).symm.trans down) Bool.false_ne_true

theorem Step.quiet (step : Step backend actor state after) (exclusive : Exclusive state)
    (flagged : Flagged backend state) (quiet : Quiet backend state) : Quiet backend after := by
  cases step with
  | call call place opened =>
      exact quiet.of_places rfl (move_place _ _ · _) fun _ _ => trivial
  | lock place free => exact quiet.of_places rfl (enter_place _ _ · _) fun _ _ => trivial
  | test place =>
      apply quiet.carryOut flagged
      · intro loops
        exact .inr (firstTests_loops loops)
      · intro sleeps
        exact absurd sleeps (firstTests_ne_sleeps _ _ _)
  | @loop _ client call place =>
      apply quiet.carryOut flagged
      · intro loops
        exact absurd loops (loopHead_ne_loops _ _ _)
      · intro sleeps settled
        rw [place] at settled
        have libusb : backend = .libusb := settled
        subst libusb
        exact loopHead_libusb_sleeps sleeps
  | wake res place timed => exact quiet.of_places rfl (move_place _ _ · _) fun _ _ => trivial
  | relock place free => exact quiet.of_places rfl (enter_place _ _ · _) fun _ _ => trivial
  | resume place =>
      apply quiet.carryOut flagged
      · intro loops
        cases backend with
        | libusb => exact .inl rfl
        | mac => exact .inr (afterWait_mac_loops loops)
      · intro sleeps
        exact absurd sleeps (afterWait_ne_sleeps _ _ _ _)
  | poll place => exact quiet.same_places (poll_place _) fun past => absurd past (poll_not_past _)
  | dispatch status libusb place pending =>
      have handling : ¬ state.reader.PastBroadcast := by
        rw [place]
        exact id
      cases status with
      | completed rpt => exact fun past => past.elim
      | cancelled => exact fun past => absurd past handling
      | noDevice => exact fun past => absurd past handling
      | timedOut => exact fun past => past.elim
      | other => exact fun past => past.elim
  | handled libusb place => exact fun past => past.elim
  | broken libusb place => exact fun past => past.elim
  | submit submitted place =>
      cases submitted <;> exact fun past => past.elim
  | report rpt mac place => exact fun past => past.elim
  | removal mac place => exact quiet.same_places rfl id
  | returned code mac place =>
      cases code <;> exact fun past => past.elim
  | attach signalled place free wakes =>
      intro past
      cases backend <;> exact past.elim
  | broadcast place free =>
      intro _ client
      apply Place.Settled.woken
      exact .inr (exclusive.not_holds free client)
  | close opened outside => exact quiet.same_places rfl id
  | join place reader =>
      have parked : state.reader.PastBroadcast := by
        rw [reader]
        cases backend <;> trivial
      exact fun _ => quiet parked
  | drain place free => exact quiet.same_places rfl id

theorem quiet_of_reachable (reachable : (system ι backend).Reachable state) :
    Quiet backend state := by
  apply reachable.invariant
  · rintro _ ⟨submitted, rfl⟩ past
    exact past.elim
  · rintro before after earlier quiet ⟨actor, step⟩
    exact step.quiet (exclusive_of_reachable earlier) (flagged_of_reachable earlier) quiet

/-- The read thread does not come back from its end. -/
theorem Step.pastBroadcast (step : Step backend actor state after)
    (past : state.reader.PastBroadcast) : after.reader.PastBroadcast := by
  cases step with
  | call call place opened => exact past
  | lock place free => exact past
  | test place =>
      rw [carryOut_reader]
      exact past
  | loop place =>
      rw [carryOut_reader]
      exact past
  | wake res place timed => exact past
  | relock place free => exact past
  | resume place =>
      rw [carryOut_reader]
      exact past
  | poll place => simp [place, Reader.PastBroadcast] at past
  | dispatch status libusb place pending => simp [place, Reader.PastBroadcast] at past
  | handled libusb place => simp [place, Reader.PastBroadcast] at past
  | broken libusb place => simp [place, Reader.PastBroadcast] at past
  | submit submitted place => simp [place, Reader.PastBroadcast] at past
  | report rpt mac place => simp [place, Reader.PastBroadcast] at past
  | removal mac place => exact past
  | returned code mac place => simp [place, Reader.PastBroadcast] at past
  | attach signalled place free wakes => simp [place, Reader.PastBroadcast] at past
  | broadcast place free => simp [place, Reader.PastBroadcast] at past
  | close opened quiet => exact past
  | join place reader => trivial
  | drain place free => exact past

/-- Once the read thread has made its broadcast, no thread sleeps, and none ever
goes to sleep again, even one that tested the flags before they were set. -/
theorem nobody_sleeps_after_broadcast (reachable : (system ι backend).Reachable state)
    (past : state.reader.PastBroadcast) {later : Monitor ι}
    (ran : (system ι backend).Runs state later) (client : ι) (call : ReadCall) :
    later.dev.down backend = true ∧ later.place client ≠ .asleep call := by
  have still : later.reader.PastBroadcast := keeps_of_step Step.pastBroadcast ran past
  have reached : (system ι backend).Reachable later := by
    obtain ⟨start, initial, earlier⟩ := reachable
    exact ⟨start, initial, earlier.trans ran⟩
  refine ⟨(flagged_of_reachable reached).leaves still.pastLoops, ?_⟩
  intro asleep
  have settled := quiet_of_reachable reached still client
  rw [asleep] at settled
  exact settled

/-- A thread of `mac/hid.c` that had tested the flags when the device was removed. -/
theorem nobody_sleeps_after_removal :
    ∃ state : Monitor Unit, state.place () = .waking (hidRead 64) .ok ∧
      state.reader = .parked ∧ state.dev.down .mac = true ∧
      state.place () ≠ .asleep (hidRead 64) := by
  have start : (system Unit .mac).Reachable (opened true) := .of_initial ⟨true, rfl⟩
  have polled := start.next ⟨_, .poll rfl⟩
  have calling := polled.next ⟨.client (), .call (hidRead 64) rfl rfl⟩
  have testing := calling.next ⟨.client (), .lock rfl rfl⟩
  have looping := testing.next ⟨.client (), .test rfl⟩
  have removed := looping.next ⟨_, .removal rfl rfl⟩
  have leaving := removed.next ⟨_, .returned .stopped rfl rfl⟩
  have asleep := leaving.next ⟨.client (), .loop rfl⟩
  have parked := asleep.next ⟨_, .broadcast rfl rfl⟩
  exact ⟨_, rfl, rfl, nobody_sleeps_after_broadcast parked trivial .refl () (hidRead 64)⟩

end Monitor

end MhWallet.ReadThread
