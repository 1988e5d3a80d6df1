import MhWallet.Framing.Exchange
import MhWallet.NanosWallet

/-!
Contract: the retry loop of `nanos_wallet::exchange`.

Owns: what one round does, what reopening the device does, and the invariant
rule of the loop.

Does not own: any particular invariant.
-/

namespace MhWallet

open MhWallet.Effect MhWallet.Method

namespace NanosWallet

variable {σ : Type} (tb : Toolbox) (hid : Hidapi σ) {wallet : NanosWallet}
  {world : World σ} {apdu : Apdu} {resCode : Option UInt16}

/-- Another state of the wallet's device. -/
def withDevice (wallet : NanosWallet) (mIo : HidppDevice) : NanosWallet :=
  { wallet with mFramer := { wallet.mFramer with mIo } }

/-- The device after the handle was closed and given up. -/
def closedDevice (wallet : NanosWallet) : HidppDevice :=
  { wallet.mFramer.mIo with mDev := none }

/-- The world after the wallet closed its handle. -/
def afterClose (hid : Hidapi σ) (wallet : NanosWallet) (world : World σ) (handle : Handle) :
    World σ :=
  world.extend (hid.close handle world.env)
    [.lock wallet.mFramer.mIo.mDevLock, .hidClose handle,
      .unlock wallet.mFramer.mIo.mDevLock]

/-- `m_framer.io().open()`. -/
theorem open_run (free : wallet.mFramer.mIo.mDevLock ∉ world.held) :
    (onMember io (HidppDevice.open hid)).run ⟨wallet, world⟩ =
      (.ok (wallet.mFramer.mIo.openAnswer hid world.env).1,
        ⟨wallet.withDevice { wallet.mFramer.mIo with
          mDev := world.newHandle (wallet.mFramer.mIo.openAnswer hid world.env).1 },
          wallet.mFramer.mIo.afterOpen hid world⟩) := by
  have ran := HidppDevice.open_run hid free
  rw [run_onMember]
  simp only [io]
  rw [ran]
  rfl

/-- `m_framer.io().close()` on an open device. -/
theorem closeDevice_run {handle : Handle} (live : wallet.mFramer.mIo.mDev = some handle)
    (free : wallet.mFramer.mIo.mDevLock ∉ world.held) :
    (onMember io (HidppDevice.close hid)).run ⟨wallet, world⟩ =
      (.ok (), ⟨wallet.withDevice wallet.closedDevice, wallet.afterClose hid world handle⟩) := by
  have ran := HidppDevice.close_run hid free
  rw [live] at ran
  rw [run_onMember]
  simp only [io]
  rw [ran]
  rfl

/-- Reopening closes the handle and opens another, or none. -/
theorem reopen_run {handle : Handle} (live : wallet.mFramer.mIo.mDev = some handle)
    (free : wallet.mFramer.mIo.mDevLock ∉ world.held) :
    let closed := wallet.afterClose hid world handle
    (reopen hid).run ⟨wallet, world⟩ =
      (.ok (), ⟨wallet.withDevice { wallet.closedDevice with
          mDev := closed.newHandle (wallet.closedDevice.openAnswer hid closed.env).1 },
        wallet.closedDevice.afterOpen hid closed⟩) := by
  intro closed
  have freeClosed : (wallet.withDevice wallet.closedDevice).mFramer.mIo.mDevLock ∉
      closed.held := free
  rw [reopen, Action.run_bind_ok (closeDevice_run hid live free),
    Action.run_bind_ok (open_run hid freeClosed)]
  rfl

/-- The exceptions that start another round. -/
def Retried : Except Stop (Bytes × Option UInt16) → Prop
  | .error (.throws (.wrongSeqno _ _)) => True
  | _ => False

theorem exchangeRound_run_of_null (null : wallet.mFramer.mIo.mDev = none)
    (again : Method NanosWallet σ (Bytes × Option UInt16)) :
    (exchangeRound tb hid apdu resCode again).run ⟨wallet, world⟩ =
      (.ok ([], resCode), ⟨{ wallet with mValid := false }, world⟩) := by
  rw [exchangeRound, Action.run_bind, run_self]
  simp only [null]
  rfl

theorem exchangeRound_run_of_live {handle : Handle}
    (live : wallet.mFramer.mIo.mDev = some handle)
    (again : Method NanosWallet σ (Bytes × Option UInt16)) :
    (exchangeRound tb hid apdu resCode again).run ⟨wallet, world⟩ =
      match (FrameIoApdu.exchange tb hid apdu resCode).run ⟨wallet.mFramer, world⟩ with
      | (.error (.throws (.wrongSeqno _ _)), reached) =>
          (do reopen hid; again).run
            ⟨{ wallet with mFramer := reached.self }, reached.world⟩
      | (outcome, reached) =>
          (outcome, ⟨{ wallet with mFramer := reached.self }, reached.world⟩) := by
  rw [exchangeRound, Action.run_bind, run_self]
  simp only [live, Action.run_recover, run_onMember, framer]
  rcases (FrameIoApdu.exchange tb hid apdu resCode).run ⟨wallet.mFramer, world⟩ with
    ⟨reason | response, reached⟩
  · rcases reason with exception | _ | _ | _ | _
    · cases exception <;> rfl
    all_goals rfl
  · rfl

section Rule

variable (apdu resCode)
  (Inv : NanosWallet → World σ → Prop)
  (Post : Except Stop (Bytes × Option UInt16) → NanosWallet → World σ → Prop)

/-- What an invariant owes to each way in which a round can go. -/
structure LoopRule : Prop where
  broken : ∀ wallet world, Inv wallet world → wallet.mFramer.mIo.mDev = none →
    Post (.ok ([], resCode)) { wallet with mValid := false } world
  ended : ∀ wallet world handle outcome framer reached, Inv wallet world →
    wallet.mFramer.mIo.mDev = some handle →
    (FrameIoApdu.exchange tb hid apdu resCode).run ⟨wallet.mFramer, world⟩ =
      (outcome, ⟨framer, reached⟩) → ¬ Retried outcome →
    Post outcome { wallet with mFramer := framer } reached
  retried : ∀ wallet world handle expected given framer reached, Inv wallet world →
    wallet.mFramer.mIo.mDev = some handle →
    (FrameIoApdu.exchange tb hid apdu resCode).run ⟨wallet.mFramer, world⟩ =
      (.error (.throws (.wrongSeqno expected given)), ⟨framer, reached⟩) →
    ∃ next after, (reopen hid).run ⟨{ wallet with mFramer := framer }, reached⟩ =
        (.ok (), ⟨next, after⟩) ∧
      Inv next after ∧ Post (.error .unfinished) next after

variable {tb hid apdu resCode Inv Post}

private theorem LoopRule.round (rule : LoopRule tb hid apdu resCode Inv Post)
    (again : Method NanosWallet σ (Bytes × Option UInt16))
    (next : ∀ wallet world, Inv wallet world → Post (.error .unfinished) wallet world →
      Post (again.run ⟨wallet, world⟩).1 (again.run ⟨wallet, world⟩).2.self
        (again.run ⟨wallet, world⟩).2.world)
    (wallet : NanosWallet) (world : World σ) (start : Inv wallet world) :
    let ran := (exchangeRound tb hid apdu resCode again).run ⟨wallet, world⟩
    Post ran.1 ran.2.self ran.2.world := by
  intro ran
  rcases device : wallet.mFramer.mIo.mDev with _ | handle
  · have broken : ran = _ := exchangeRound_run_of_null tb hid device again
    rw [broken]
    exact rule.broken wallet world start device
  · have round : ran = _ := exchangeRound_run_of_live tb hid device again
    rcases attempt : (FrameIoApdu.exchange tb hid apdu resCode).run ⟨wallet.mFramer, world⟩ with
      ⟨outcome, ⟨framer, reached⟩⟩
    rw [attempt] at round
    by_cases retried : Retried outcome
    · obtain ⟨expected, given, rfl⟩ : ∃ expected given,
          outcome = .error (.throws (.wrongSeqno expected given)) := by
        unfold Retried at retried
        split at retried
        next expected given => exact ⟨expected, given, rfl⟩
        next => exact retried.elim
      obtain ⟨reopened, after, reopenRan, invariant, post⟩ :=
        rule.retried wallet world handle expected given framer reached start device attempt
      have continued : ran = again.run ⟨reopened, after⟩ := by
        rw [round]
        exact Action.run_bind_ok reopenRan _
      rw [continued]
      exact next reopened after invariant post
    · have ended := rule.ended wallet world handle outcome framer reached start device attempt
        retried
      have stopped : ran = (outcome, ⟨{ wallet with mFramer := framer }, reached⟩) := by
        rw [round]
        unfold Retried at retried
        split at retried
        next => exact absurd trivial retried
        next other =>
          split
          next expected given _ same =>
            simp only [Prod.mk.injEq] at same
            exact absurd same.1 (other expected given)
          next _ same =>
            simp only [Prod.mk.injEq] at same
            obtain ⟨rfl, rfl⟩ := same
            rfl
      rw [stopped]
      exact ended

/-- An invariant of the rounds holds through the loop, however often it goes
round. -/
theorem LoopRule.run (rule : LoopRule tb hid apdu resCode Inv Post) :
    ∀ (retries : Nat) (wallet : NanosWallet) (world : World σ), Inv wallet world →
      let ran := (exchangeLoop tb hid apdu resCode retries).run ⟨wallet, world⟩
      Post ran.1 ran.2.self ran.2.world := by
  intro retries
  induction retries with
  | zero =>
      intro wallet world start
      exact rule.round (.stop .unfinished) (fun _ _ _ post => post) wallet world start
  | succ retries inductionHypothesis =>
      intro wallet world start
      exact rule.round (exchangeLoop tb hid apdu resCode retries)
        (fun wallet world invariant _ => inductionHypothesis wallet world invariant)
        wallet world start

end Rule

/-! ## The reports that a call writes -/

theorem writtenReports_openEvents (device : HidppDevice) (opened : Option Handle) :
    writtenReports (device.openEvents opened) = [] := by
  rw [HidppDevice.openEvents, HidppDevice.openEvent]
  split <;> cases opened <;> rfl

/-- The state of a wallet between two calls, and inside a call between two
rounds. -/
structure Ready (wallet : NanosWallet) (world : World σ) : Prop where
  free : wallet.mFramer.mIo.mDevLock ∉ world.held
  room : wallet.mFramer.mBuffer.length ≤ 64

/-- After an exchange of the framer that came back the wallet is still ready, on
the same device. -/
theorem Ready.afterAttempt {handle : Handle} {outcome : Except Stop (Bytes × Option UInt16)}
    {framer : FrameIoApdu} {reached : World σ} (ready : Ready wallet world)
    (live : wallet.mFramer.mIo.mDev = some handle)
    (ran : (FrameIoApdu.exchange tb hid apdu resCode).run ⟨wallet.mFramer, world⟩ =
      (outcome, ⟨framer, reached⟩))
    (ended : Ended outcome) :
    Ready { wallet with mFramer := framer } reached ∧ framer.mIo = wallet.mFramer.mIo ∧
      ∃ env reports results, reached = world.extend env
        (FrameIoApdu.exchangeEvents wallet.mFramer.mIo.mDevLock handle reports results) ∧
        ∀ result ∈ results, result.error = none := by
  obtain ⟨env, reports, results, sameWorld, clean, sameDevice, room⟩ :=
    FrameIoApdu.exchange_ended tb hid live ready.free ready.room ran ended
  dsimp only at sameWorld sameDevice room
  refine ⟨⟨?_, room⟩, sameDevice, env, reports, results, sameWorld, clean⟩
  rw [sameDevice, sameWorld]
  exact ready.free

/-- A wallet on the open device of a scripted world. -/
def connected : NanosWallet :=
  { mFramer := FrameIoApdu.fresh Toolbox.reference .connected, mValid := true }

theorem connected_ready (script : Script) : Ready connected script.world :=
  ⟨List.not_mem_nil, by decide⟩

/-- A log that grew by this many copies of the reports of a request. -/
def WroteCopies (apdu : Apdu) (start reached : World σ) (attempts : Nat) : Prop :=
  ∃ events, reached.log = start.log ++ events ∧
    writtenReports events = (List.replicate attempts (requestReports apdu)).flatten

theorem WroteCopies.quiet {start middle reached : World σ} {attempts : Nat}
    {events : List Event} (wrote : WroteCopies apdu start middle attempts)
    (grown : reached.log = middle.log ++ events) (quiet : writtenReports events = []) :
    WroteCopies apdu start reached attempts := by
  obtain ⟨before, log, copies⟩ := wrote
  refine ⟨before ++ events, by rw [grown, log, List.append_assoc], ?_⟩
  rw [writtenReports_append, copies, quiet, List.append_nil]

theorem WroteCopies.again {start middle reached : World σ} {attempts : Nat}
    {events : List Event} (wrote : WroteCopies apdu start middle attempts)
    (grown : reached.log = middle.log ++ events)
    (written : writtenReports events = requestReports apdu) :
    WroteCopies apdu start reached (attempts + 1) := by
  obtain ⟨before, log, copies⟩ := wrote
  refine ⟨before ++ events, by rw [grown, log, List.append_assoc], ?_⟩
  rw [writtenReports_append, copies, written, List.replicate_succ', List.flatten_append]
  simp

private theorem writes_rule (small : apdu.payloadSize ≤ 255) (start : World σ) :
    LoopRule tb hid apdu resCode
      (fun wallet world => Ready wallet world ∧ ∃ attempts,
        WroteCopies apdu start world attempts ∧
          (attempts = 0 → wallet.mFramer.mIo.mDev ≠ none))
      (fun _ _ world => ∃ attempts, 0 < attempts ∧ WroteCopies apdu start world attempts) where
  broken := by
    rintro wallet world ⟨-, attempts, wrote, first⟩ null
    exact ⟨attempts, Nat.pos_of_ne_zero fun none => first none null, wrote⟩
  ended := by
    rintro wallet world handle outcome framer reached ⟨ready, attempts, wrote, -⟩ live ran -
    obtain ⟨events, grown, written, -, -⟩ :=
      FrameIoApdu.exchange_writes tb hid small live ready.free ready.room
    rw [ran] at grown
    exact ⟨attempts + 1, Nat.succ_pos _, wrote.again grown written⟩
  retried := by
    rintro wallet world handle expected given framer reached ⟨ready, attempts, wrote, -⟩ live
      ran
    obtain ⟨events, grown, written, -, -⟩ :=
      FrameIoApdu.exchange_writes tb hid small live ready.free ready.room
    rw [ran] at grown
    obtain ⟨readyStopped, sameDevice, -⟩ := ready.afterAttempt tb hid live ran trivial
    let stopped : NanosWallet := { wallet with mFramer := framer }
    have liveStopped : stopped.mFramer.mIo.mDev = some handle := by
      rw [show stopped.mFramer.mIo = wallet.mFramer.mIo from sameDevice, live]
    have wroteClosed : WroteCopies apdu start (stopped.afterClose hid reached handle)
        (attempts + 1) := (wrote.again grown written).quiet rfl rfl
    have wroteOpened : WroteCopies apdu start
        (stopped.closedDevice.afterOpen hid (stopped.afterClose hid reached handle))
        (attempts + 1) :=
      wroteClosed.quiet (HidppDevice.afterOpen_log ..) (writtenReports_openEvents ..)
    exact ⟨_, _, reopen_run hid liveStopped readyStopped.free,
      ⟨⟨readyStopped.free, readyStopped.room⟩, attempts + 1, wroteOpened, by simp⟩,
      attempts + 1, Nat.succ_pos _, wroteOpened⟩

/-! ## The whole call -/

theorem exchange_run_of_invalid (free : Mutex.wallet ∉ world.held)
    (invalid : wallet.mValid = false) (retries : Nat) :
    (exchange tb hid retries apdu resCode).run ⟨wallet, world⟩ =
      (.error (.throws .uninitializedDevice),
        ⟨wallet, world.extend world.env [.lock .wallet, .unlock .wallet]⟩) := by
  rw [exchange, run_withLock free, Action.run_bind, run_self]
  simp [invalid, Stop.Unwinds, World.acquire, World.release, World.extend]

theorem exchange_run_of_valid (free : Mutex.wallet ∉ world.held)
    (valid : wallet.mValid = true) (retries : Nat) :
    let ran := (exchangeLoop tb hid apdu resCode retries).run ⟨wallet, world.acquire .wallet⟩
    (exchange tb hid retries apdu resCode).run ⟨wallet, world⟩ =
      (ran.1, if Ended ran.1 then ⟨ran.2.self, ran.2.world.release .wallet⟩ else ran.2) := by
  have body : (do
      if (← self).mValid then exchangeLoop tb hid apdu resCode retries
      else throw .uninitializedDevice : Method NanosWallet σ (Bytes × Option UInt16)).run
        ⟨wallet, world.acquire .wallet⟩ =
      (exchangeLoop tb hid apdu resCode retries).run ⟨wallet, world.acquire .wallet⟩ := by
    rw [Action.run_bind, run_self]
    simp only [valid, if_true]
  rw [exchange, run_withLock_eq free, body]

variable {tb hid} in
/-- A call is refused, or ends as its rounds do and releases the mutex if it comes
back. -/
theorem LoopRule.call {Inv : NanosWallet → World σ → Prop}
    {Post : Except Stop (Bytes × Option UInt16) → NanosWallet → World σ → Prop}
    (rule : LoopRule tb hid apdu resCode Inv Post) (free : Mutex.wallet ∉ world.held)
    (start : wallet.mValid = true → Inv wallet (world.acquire .wallet)) (retries : Nat) :
    (wallet.mValid = false ∧ (exchange tb hid retries apdu resCode).run ⟨wallet, world⟩ =
        (.error (.throws .uninitializedDevice),
          ⟨wallet, world.extend world.env [.lock .wallet, .unlock .wallet]⟩)) ∨
      ∃ outcome next after, wallet.mValid = true ∧ Post outcome next after ∧
        (exchange tb hid retries apdu resCode).run ⟨wallet, world⟩ =
          (outcome, ⟨next, if Ended outcome then after.release .wallet else after⟩) := by
  rcases valid : wallet.mValid with _ | _
  · exact .inl ⟨rfl, exchange_run_of_invalid tb hid free valid retries⟩
  · have called := @exchange_run_of_valid σ tb hid wallet world apdu resCode free valid retries
    have rounds := rule.run retries wallet (world.acquire .wallet) (start valid)
    refine .inr ⟨_, _, _, rfl, rounds, called.trans ?_⟩
    split <;> rfl

/-- Without a handle the call gives up and returns what it was given. -/
theorem exchange_run_of_null (free : Mutex.wallet ∉ world.held)
    (valid : wallet.mValid = true) (null : wallet.mFramer.mIo.mDev = none) (retries : Nat) :
    (exchange tb hid retries apdu resCode).run ⟨wallet, world⟩ =
      (.ok ([], resCode), ⟨{ wallet with mValid := false },
        world.extend world.env [.lock .wallet, .unlock .wallet]⟩) := by
  have broken : (exchangeLoop tb hid apdu resCode retries).run
      ⟨wallet, world.acquire .wallet⟩ =
      (.ok ([], resCode), ⟨{ wallet with mValid := false }, world.acquire .wallet⟩) := by
    cases retries <;> rw [exchangeLoop, exchangeRound_run_of_null tb hid null]
  rw [exchange_run_of_valid tb hid free valid, broken]
  simp [Ended, World.acquire, World.release, World.extend]

/-- However a call ends, it has written whole copies of its request: at least
one with an open device, none without. -/
theorem exchange_writes (small : apdu.payloadSize ≤ 255) (ready : Ready wallet world)
    (free : Mutex.wallet ∉ world.held) (retries : Nat) :
    ∃ attempts,
      ((exchange tb hid retries apdu resCode).run ⟨wallet, world⟩).2.world.writesSince world =
        (List.replicate attempts (requestReports apdu)).flatten ∧
      (0 < attempts ↔ wallet.mValid = true ∧ wallet.mFramer.mIo.mDev ≠ none) := by
  rcases valid : wallet.mValid with _ | _
  · refine ⟨0, ?_, by simp⟩
    rw [exchange_run_of_invalid tb hid free valid]
    simp [World.writesSince, World.extend, writtenReports, Event.writtenReport?]
  · let ran := (exchangeLoop tb hid apdu resCode retries).run ⟨wallet, world.acquire .wallet⟩
    have called : ((exchange tb hid retries apdu resCode).run ⟨wallet, world⟩).2 =
        if Ended ran.1 then ⟨ran.2.self, ran.2.world.release .wallet⟩ else ran.2 :=
      congrArg Prod.snd (exchange_run_of_valid tb hid free valid retries)
    have since : ∀ attempts, WroteCopies apdu (world.acquire .wallet) ran.2.world attempts →
        ((exchange tb hid retries apdu resCode).run ⟨wallet, world⟩).2.world.writesSince world =
          (List.replicate attempts (requestReports apdu)).flatten := by
      rintro attempts ⟨events, log, copies⟩
      have locked : ran.2.world.log = world.log ++ (.lock .wallet :: events) := by
        rw [log]
        simp [World.acquire]
      rw [called]
      split
      · simp only [World.writesSince, World.release, locked, List.append_assoc,
          List.drop_left, writtenReports_append, ← copies]
        exact List.append_nil _
      · simp only [World.writesSince, locked, List.drop_left, ← copies]
        rfl
    rcases device : wallet.mFramer.mIo.mDev with _ | handle
    · refine ⟨0, since 0 ⟨[], ?_, rfl⟩, by simp⟩
      have broken : ran.2.world = world.acquire .wallet := by
        simp only [ran]
        cases retries <;>
          rw [exchangeLoop, exchangeRound_run_of_null tb hid device]
      rw [broken, List.append_nil]
    · have readyLocked : Ready wallet (world.acquire .wallet) :=
        ⟨by simpa [World.acquire, HidppDevice.mDevLock] using ready.free, ready.room⟩
      obtain ⟨attempts, positive, wrote⟩ :=
        (writes_rule tb hid small (world.acquire .wallet)).run retries wallet _
          ⟨readyLocked, 0, ⟨[], by simp, rfl⟩, by simp [device]⟩
      exact ⟨attempts, since attempts wrote, by simpa using positive⟩

end NanosWallet

end MhWallet
