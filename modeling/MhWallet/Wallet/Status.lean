import MhWallet.Locking

/-!
Contract: where the success of a wallet command comes from.

The commands preset their status to success, and `exchange` leaves it so when
it gives up without a handle.  Otherwise the status is taken from the reports
that were read after the request.

Owns: the commands that test a status, and the account of every success.

Does not own: what a command makes of the response.
-/

namespace MhWallet

open MhWallet.Effect MhWallet.Method MhWallet.Framing

/-- An open that returned no handle. -/
def Event.Refused : Event → Prop
  | .hidOpen _ _ opened => opened = none
  | .hidOpenPath _ opened => opened = none
  | _ => False

instance : DecidablePred Event.Refused := fun event => by
  cases event <;> unfold Event.Refused <;> infer_instance

/-- Among these events the whole request is written, these reads follow it
directly, and then come these events. -/
def Asked (apdu : Apdu) (results : List ReadResult) (events rest : List Event) : Prop :=
  ∃ before mutex handle, events = before ++
    FrameIoApdu.exchangeEvents mutex handle (requestReports apdu) results ++ rest

/-- These events end with the request and the reads of a whole response with
this status. -/
def Answered (apdu : Apdu) (status : UInt16) (events rest : List Event) : Prop :=
  ∃ results, Asked apdu results events rest ∧ Carries results status

namespace Asked

variable {apdu : Apdu} {results : List ReadResult} {events rest : List Event}

theorem around (asked : Asked apdu results events rest) (before after : List Event) :
    Asked apdu results (before ++ events ++ after) (rest ++ after) := by
  obtain ⟨earlier, mutex, handle, rfl⟩ := asked
  exact ⟨before ++ earlier, mutex, handle, by simp only [List.append_assoc]⟩

/-- The first of the reads, before the others. -/
theorem first {result : ReadResult} (asked : Asked apdu (result :: results) events rest) :
    ∃ later, Asked apdu [result] events later := by
  obtain ⟨before, mutex, handle, rfl⟩ := asked
  refine ⟨results.flatMap (readEvents mutex handle) ++ rest, before, mutex, handle, ?_⟩
  simp only [FrameIoApdu.exchangeEvents, List.flatMap_cons, List.flatMap_nil, List.append_assoc,
    List.append_nil]

/-- The reads are among the events. -/
theorem reads (asked : Asked apdu results events rest) {result : ReadResult}
    (member : result ∈ results) : some result ∈ readResults events := by
  obtain ⟨before, mutex, handle, rfl⟩ := asked
  rw [readResults_append, readResults_append, FrameIoApdu.exchangeEvents, readResults_append,
    readResults_readEvents]
  simp [member]

end Asked

namespace NanosWallet

variable {σ : Type} (tb : Toolbox) (hid : Hidapi σ) {wallet : NanosWallet} {world : World σ}
  {apdu : Apdu} {resCode : Option UInt16}

/-- The ways to a success: there was no handle, a reopen was refused, the
response was misplaced, or it was delivered. -/
def Explains (unconnected : Prop) (apdu : Apdu) (events rest : List Event) : Prop :=
  unconnected ∨ (∃ event ∈ events, event.Refused) ∨
    (∃ result later, Asked apdu [result] events later ∧ Misplaced result) ∨
    Answered apdu codeSuccess events rest

theorem Explains.around {unconnected : Prop} {events rest : List Event}
    (explains : Explains unconnected apdu events rest) (before after : List Event) :
    Explains unconnected apdu (before ++ events ++ after) (rest ++ after) := by
  rcases explains with null | ⟨event, member, refused⟩ | ⟨result, later, asked, misplaced⟩ |
    ⟨results, asked, carries⟩
  · exact .inl null
  · exact .inr (.inl ⟨event, by simp [member], refused⟩)
  · exact .inr (.inr (.inl ⟨result, _, asked.around before after, misplaced⟩))
  · exact .inr (.inr (.inr ⟨results, asked.around before after, carries⟩))

/-- What `status == CODE_SUCCESS` lets pass. -/
def Passes (status : Option UInt16) : Prop := ∀ code, status = some code → code = codeSuccess

/-- A round that ends with a success. -/
private theorem explains_of_attempt {framer : FrameIoApdu} {handle : Handle} {preset : UInt16}
    {response : Bytes} {status : Option UInt16} {reached : Scene FrameIoApdu σ}
    (unconnected : Prop)
    (placed : framer.Placed) (live : framer.mIo.mDev = some handle)
    (free : framer.mIo.mDevLock ∉ world.held) (room : framer.mBuffer.length ≤ 64)
    (ran : (FrameIoApdu.exchange tb hid apdu (some preset)).run ⟨framer, world⟩ =
      (.ok (response, status), reached)) (passes : Passes status) :
    ∃ events, reached.world.log = world.log ++ events ∧ Explains unconnected apdu events [] := by
  by_cases small : apdu.payloadSize ≤ 255
  · obtain ⟨env, results, outcome, _, sameWorld, _⟩ :=
      FrameIoApdu.exchange_ended_run tb hid small live free room ran trivial
    have placedAgain : framer.restarted.Placed := placed
    rw [FrameIoApdu.receive_success outcome.symm passes] at outcome
    obtain ⟨first, rest, rfl, account⟩ :=
      FrameIoApdu.carries_of_success rfl placedAgain outcome.symm
    refine ⟨_, congrArg World.log sameWorld, ?_⟩
    have asked : Asked apdu ((first :: rest).take
        (framer.restarted.receive (some preset) (first :: rest)).calls) _ [] :=
      ⟨[], framer.mIo.mDevLock, handle, (List.append_nil _).symm⟩
    rcases account with misplaced | carries
    · obtain ⟨_, _, _, _, _, _, calls⟩ := FrameIoApdu.receive_ok outcome.symm
      rw [calls, List.take_succ_cons] at asked ⊢
      obtain ⟨later, askedFirst⟩ := asked.first
      exact .inr (.inr (.inl ⟨first, later, askedFirst, misplaced⟩))
    · exact .inr (.inr (.inr ⟨_, asked, carries⟩))
  · rw [FrameIoApdu.exchange_run_of_large tb hid (by omega)] at ran
    simp at ran

/-- An open without a handle was refused. -/
theorem refused_of_null (device : HidppDevice) {opened : Bool}
    (null : world.newHandle opened = none) :
    ∃ event ∈ device.openEvents (world.newHandle opened), event.Refused := by
  refine ⟨device.openEvent none, ?_, ?_⟩
  · rw [null]
    simp [HidppDevice.openEvents]
  · unfold HidppDevice.openEvent
    split <;> rfl

private theorem status_rule (apdu : Apdu) (preset : UInt16) (unconnected : Prop)
    (start : World σ) :
    LoopRule tb hid apdu (some preset)
      (fun wallet world => Ready wallet world ∧ wallet.mFramer.Placed ∧
        ∃ events, world.log = start.log ++ events ∧
          (wallet.mFramer.mIo.mDev = none →
            unconnected ∨ ∃ event ∈ events, event.Refused))
      (fun outcome _ world => ∀ response status, outcome = .ok (response, status) →
        Passes status → ∃ events, world.log = start.log ++ events ∧
          Explains unconnected apdu events []) where
  broken := by
    intro wallet world ⟨_, _, events, log, account⟩ null _ _ _ _
    refine ⟨events, log, ?_⟩
    rcases account null with unconnected | refused
    · exact .inl unconnected
    · exact .inr (.inl refused)
  ended := by
    intro wallet world handle outcome framer reached ⟨ready, placed, events, log, _⟩ live ran _
      response status returned passes
    subst returned
    obtain ⟨added, grown, explains⟩ :=
      explains_of_attempt tb hid unconnected placed live ready.free ready.room ran passes
    refine ⟨events ++ added, ?_, ?_⟩
    · rw [← List.append_assoc, ← log]
      exact grown
    · have wider := explains.around events []
      rwa [List.append_nil, List.append_nil] at wider
  retried := by
    intro wallet world handle expected given framer reached ⟨ready, placed, events, log, _⟩ live
      ran
    obtain ⟨readyStopped, sameDevice, env, reports, results, grown, _⟩ :=
      ready.afterAttempt tb hid live ran trivial
    have placedStopped := FrameIoApdu.exchange_placed tb hid placed live ready.free ready.room
      ran trivial
    let stopped : NanosWallet := { wallet with mFramer := framer }
    have liveStopped : stopped.mFramer.mIo.mDev = some handle := by
      rw [show stopped.mFramer.mIo = wallet.mFramer.mIo from sameDevice, live]
    let closed := stopped.afterClose hid reached handle
    let opened := (stopped.closedDevice.openAnswer hid closed.env).1
    refine ⟨_, _, reopen_run hid liveStopped readyStopped.free,
      ⟨⟨readyStopped.free, readyStopped.room⟩, placedStopped,
        events ++ FrameIoApdu.exchangeEvents wallet.mFramer.mIo.mDevLock handle reports results ++
          [.lock stopped.mFramer.mIo.mDevLock, .hidClose handle,
            .unlock stopped.mFramer.mIo.mDevLock] ++
          stopped.closedDevice.openEvents (closed.newHandle opened), ?_, ?_⟩, ?_⟩
    · have closedLog : closed.log = start.log ++ events ++
          FrameIoApdu.exchangeEvents wallet.mFramer.mIo.mDevLock handle reports results ++
          [.lock stopped.mFramer.mIo.mDevLock, .hidClose handle,
            .unlock stopped.mFramer.mIo.mDevLock] := by
        rw [← log]
        exact congrArg (fun reached : World σ => reached.log ++ _) grown
      show closed.log ++ stopped.closedDevice.openEvents (closed.newHandle opened) = _
      rw [closedLog]
      simp only [List.append_assoc]
    · intro null
      obtain ⟨event, member, refused⟩ := refused_of_null stopped.closedDevice null
      exact .inr ⟨event, List.mem_append_right _ member, refused⟩
    · intro response status returned
      simp at returned

/-- Every success of an exchange is accounted for. -/
theorem exchange_explains {preset : UInt16} {response : Bytes} {status : Option UInt16}
    {reached : Scene NanosWallet σ}
    (ready : Ready wallet world) (placed : wallet.mFramer.Placed)
    (free : Mutex.wallet ∉ world.held) (retries : Nat)
    (success : (exchange tb hid retries apdu (some preset)).run ⟨wallet, world⟩ =
      (.ok (response, status), reached)) (passes : Passes status) :
    ∃ events, reached.world.log = world.log ++ events ∧
      Explains (wallet.mValid = true ∧ wallet.mFramer.mIo.mDev = none) apdu events
        [.unlock .wallet] := by
  have readyLocked : Ready wallet (world.acquire .wallet) :=
    ⟨by simpa [World.acquire, HidppDevice.mDevLock] using ready.free, ready.room⟩
  have rule := status_rule tb hid apdu preset (wallet.mFramer.mIo.mDev = none)
    (world.acquire .wallet)
  rcases rule.call free (fun _ => ⟨readyLocked, placed, [], (List.append_nil _).symm, .inl⟩)
    retries with ⟨_, refused⟩ | ⟨outcome, next, after, valid, looped, called⟩
  · rw [refused] at success
    simp at success
  · rw [called] at success
    obtain ⟨rfl, left⟩ := Prod.mk.inj success
    obtain ⟨events, log, explains⟩ := looped response status rfl passes
    rw [if_pos (show Ended (Except.ok _) from trivial)] at left
    subst left
    refine ⟨[.lock .wallet] ++ events ++ [.unlock .wallet], ?_, ?_⟩
    · rw [World.release, log, World.acquire]
      simp only [List.append_assoc]
    · have wider := explains.around [.lock .wallet] [.unlock .wallet]
      rw [List.nil_append] at wider
      rcases wider with null | others
      · exact .inl ⟨valid, null⟩
      · exact .inr others

/-! ## The commands -/

/-- A call of a command that tests the status, with its arguments. -/
inductive Command where
  | getAddress (deriveIndex : UInt32) (silent : Bool)
  | signTx (rawTx : Bytes) (deriveIndex : UInt32)
  | getAppVersion
  | getAppList
  | runApp (name : Bytes)

namespace Command

/-- The command up to its status test. -/
def response (retries : Nat) : Command → Method NanosWallet σ Bytes
  | .getAddress deriveIndex silent => getAddressResponse tb hid retries deriveIndex silent
  | .signTx rawTx deriveIndex => signTxResponse tb hid retries rawTx deriveIndex
  | .getAppVersion => getAppVersionResponse tb hid retries
  | .getAppList => getAppListResponse tb hid retries
  | .runApp name => runAppResponse tb hid retries name

/-- The `APDU` that the command sends. -/
def request : Command → Method NanosWallet σ Apdu
  | .getAddress deriveIndex silent =>
      copyPayload (tb.uint32Bytes deriveIndex) (getAddressApdu silent)
  | .signTx rawTx deriveIndex => copyPayload (unsignedHash tb rawTx deriveIndex) signTxApdu
  | .getAppVersion => return getAppVersionApdu
  | .getAppList => return getAppListApdu
  | .runApp name => copyPayload name (runAppApdu name)

/-- The text before that of the status in the exception. -/
def failure : Command → String
  | .getAddress _ _ => "Unable to get address: "
  | .signTx _ _ => "Unable to sign transaction: "
  | .getAppVersion | .getAppList => "Unable to get app version: "
  | .runApp name => "Unable to run app " ++ nameText name ++ ": "

theorem response_eq (retries : Nat) (command : Command) :
    command.response tb hid retries = (command.request tb >>= fun data =>
      NanosWallet.command tb hid retries data command.failure) := by
  cases command <;> rfl

theorem request_run (command : Command) (scene : Scene NanosWallet σ) :
    ((command.request tb).run scene).2 = scene := by
  have copied : ∀ content apdu, ((copyPayload content apdu).run scene).2 = scene := by
    intro content apdu
    unfold copyPayload
    split <;> rfl
  cases command with
  | getAddress deriveIndex silent => exact copied _ _
  | signTx rawTx deriveIndex => exact copied _ _
  | runApp name => exact copied _ _
  | getAppVersion => rfl
  | getAppList => rfl

end Command

/-- A response with a success status passes the test. -/
theorem command_run_of_success {retries : Nat} {response : Bytes}
    {scene reached : Scene NanosWallet σ}
    (answered : (exchange tb hid retries apdu (some codeSuccess)).run scene =
      (.ok (response, some codeSuccess), reached)) (failure : String) :
    (command tb hid retries apdu failure).run scene = (.ok response, reached) := by
  rw [command, Action.run_bind_ok answered]
  simp

/-- A command goes on with the response of an exchange that passes its test. -/
theorem passes_of_command {retries : Nat} {failure : String} {response : Bytes}
    {scene reached : Scene NanosWallet σ}
    (passed : (command tb hid retries apdu failure).run scene = (.ok response, reached)) :
    ∃ status, (exchange tb hid retries apdu (some codeSuccess)).run scene =
      (.ok (response, status), reached) ∧ Passes status := by
  rcases ran : (exchange tb hid retries apdu (some codeSuccess)).run scene with
    ⟨reason | ⟨answer, status⟩, after⟩
  · rw [command, Action.run_bind_error ran] at passed
    simp at passed
  · rw [command, Action.run_bind_ok ran] at passed
    rcases status with _ | status
    · obtain ⟨same, rfl⟩ := Prod.mk.inj passed
      exact ⟨none, by rw [Except.ok.inj same], nofun⟩
    · dsimp only at passed
      split at passed
      · simp at passed
      next success =>
        obtain ⟨same, rfl⟩ := Prod.mk.inj passed
        refine ⟨some status, by rw [Except.ok.inj same], ?_⟩
        intro code found
        rw [← Option.some.inj found]
        exact not_not.mp success

/-- Every command that passes its status test is accounted for. -/
theorem Command.explains {scene reached : Scene NanosWallet σ} (settled : Settled [] scene)
    (command : Command) {retries : Nat} {response : Bytes}
    (passed : (command.response tb hid retries).run scene = (.ok response, reached)) :
    ∃ apdu, (command.request tb).run scene = (.ok apdu, scene) ∧
      ∃ events, reached.world.log = scene.world.log ++ events ∧
        Explains (scene.self.mValid = true ∧ scene.self.mFramer.mIo.mDev = none) apdu events
          [.unlock .wallet] := by
  have ready : Ready scene.self scene.world :=
    ⟨World.free_of_idle settled.idle _, settled.room⟩
  have free : Mutex.wallet ∉ scene.world.held := World.free_of_idle settled.idle _
  have same := command.request_run tb scene
  rw [response_eq] at passed
  rcases requested : (command.request tb).run scene with ⟨reason | apdu, after⟩
  · rw [Action.run_bind_error requested] at passed
    simp at passed
  · rw [requested] at same
    dsimp only at same
    subst same
    rw [Action.run_bind_ok requested] at passed
    obtain ⟨status, exchanged, passes⟩ := passes_of_command tb hid passed
    exact ⟨apdu, rfl, exchange_explains tb hid ready settled.placed free retries exchanged passes⟩

variable {tb hid}

/-- A wallet that opened its device, which has these reads and opens no more. -/
def opened (reads : List ReadResult) : Scene NanosWallet Script :=
  (((WalletOp.init nanosPid).call Toolbox.reference Script.device).run
    (first (.attachedWith reads))).2

theorem opened_reachable (reads : List ReadResult) :
    WalletReachable Toolbox.reference Script.device (opened reads) :=
  (first_reachable _).step (.init nanosPid) trivial trivial

/-- A response in one report. -/
def versionReport : ReadResult :=
  .ofReport (inputReport (responseMessage [1, 2, 3] codeSuccess) 0)

/-- A report with the wrong sequence number. -/
def strayReport : ReadResult :=
  .ofReport (inputReport (responseMessage [1, 2, 3] codeSuccess) 1)

end NanosWallet

end MhWallet
